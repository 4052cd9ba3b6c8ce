import ResetCheck.Observation
import ResetCheck.Variant

/-!
# Sessions

A session issues a reset command while a watch runs over the device.  It then follows the watch
until the device is back, the watch gives up, or the window of the budget is over; all that was
seen before it began to listen counts, and so does all that is seen within the window.  A window
too long for the clock is over after thirty years.  Where the device does not support the reset,
the session ends early with what was seen by then.
-/

namespace ResetCheck

structure Session where
  variant : Variant
  budget : Budget
  /-- The phrases with which the device refuses a reset. -/
  phrases : List String
  /-- When the command is issued, on the calendar. -/
  issuedAt : WallTime

namespace Session

variable {σ : Type} [Device σ]

def times (s : Session) : WatchTimes where
  leave := s.budget.timeout
  settle := s.variant.settle
  recover := s.budget.window

/-- Hands on what was drained, or the refusal. -/
def handOn (d : Drained) (w : Watch σ) : Except CheckFault Observation × Watch σ :=
  let w := { w with queue := d.rest }
  match d.refusal with
  | some e => (.error (.inconsistent e), w)
  | none => (.ok d.observation, w)

def takeQueued (o : Observation) (w : Watch σ) : Except CheckFault Observation × Watch σ :=
  handOn (o.drain w.queue) w

/-- Takes what was queued up to the deadline, once the timer has gone off. -/
def takeInTime (o : Observation) (deadline : Instant) (w : Watch σ) :
    Except CheckFault Observation × Watch σ :=
  handOn (o.drainUntil deadline w.queue) w

def waitOut (o : Observation) (deadline timer : Instant) (w : Watch σ) :
    Except CheckFault Observation × Watch σ :=
  takeInTime o deadline (w.runUntil (max w.now timer))

/-- Follows the watch through at most `n` of its steps, until `timer` goes off. -/
def followWithin (deadline timer : Instant) :
    Nat → Observation → Watch σ → Except CheckFault Observation × Watch σ
  | 0, o, w => takeQueued o w
  | n + 1, o, w =>
    match takeQueued o w with
    | (.error e, w) => (.error e, w)
    | (.ok o, w) =>
      if o.state.isTerminal || w.isFinished then (.ok o, w)
      else match w.due? with
        | none => waitOut o deadline timer w
        | some next =>
          if timer ≤ max w.now next then waitOut o deadline timer w
          else followWithin deadline timer n o (w.runUntil next)

/-- The last instant of the window of a session. -/
def deadline (s : Session) (issued : Instant) : Instant :=
  (issued.limit? s.budget.window).getD issued.far

/-- The instant at which the session finds that the window is over. -/
def timer (s : Session) (issued : Instant) : Instant :=
  (issued.alarm? s.budget.window).getD issued.far

def follow (s : Session) (o : Observation) (w : Watch σ) :
    Except CheckFault Observation × Watch σ :=
  followWithin (s.deadline o.issued) (s.timer o.issued) w.phase.stepsLeft o w

/-- What a session does once the command has its outcome. -/
def observe (s : Session) (o : Observation) (outcome : Outcome) (w : Watch σ) :
    Except CheckFault Observation × Watch σ :=
  if outcome.isNotSupported then
    match s.variant.shortCircuit with
    | .beforeDelay => takeQueued o w
    | .afterDelay => takeQueued o (w.sleep s.variant.postIssue)
  else s.follow o (w.sleep s.variant.postIssue)

def drive (s : Session) (w : Watch σ) : Except CheckFault Report × Watch σ :=
  let w := w.sleep s.variant.start
  let o := Observation.start w.now
  let (reply, w) := w.execute s.variant.command
  match Outcome.ofReply s.phrases s.issuedAt reply with
  | .error e => (.error e, w)
  | .ok outcome =>
    let (o, w) := s.observe o outcome w
    (o.map fun o => o.report s.variant.name s.budget outcome, w)

/-- A whole session over a device.  The watch does not outlive it. -/
def run (s : Session) (device : σ) (now : Instant) (calls : List Call) :
    Except CheckFault Report × Watch σ :=
  let (report, w) := s.drive (Watch.start device s.times now calls)
  (report, w.shutdown)

end Session

end ResetCheck
