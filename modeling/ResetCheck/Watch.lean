import ResetCheck.Connectivity
import ResetCheck.Device

/-!
# The watch over a device

A watch waits until the device is gone, leaves the link alone for a while, and then waits until
the device is back.  What it sees it puts into a queue for a listener.  The watch runs beside its
listener: whenever the listener lets time pass, the watch catches up.  A listener that does not
let time pass keeps the watch from moving, even at the same instant.
-/

namespace ResetCheck

structure Sighting where
  state : Connectivity
  instant : Instant
deriving DecidableEq

inductive Phase
  | unstarted
  | awaitingGone (since : Instant)
  | settling (finish : Instant)
  | awaitingBack (since : Instant)
  | ended
deriving DecidableEq

/-- How many steps lie before the end. -/
def Phase.stepsLeft : Phase → Nat
  | unstarted => 4
  | awaitingGone _ => 3
  | settling _ => 2
  | awaitingBack _ => 1
  | ended => 0

structure WatchTimes where
  /-- How long to wait for the device to go. -/
  leave : Span
  settle : Span
  /-- How long to wait for the device to return. -/
  recover : Span
deriving DecidableEq

structure Watch (σ : Type) where
  device : σ
  times : WatchTimes
  phase : Phase
  queue : List Sighting
  /-- Whether anybody still listens. -/
  heard : Bool
  now : Instant
  /-- What was asked of the device so far. -/
  calls : List Call

namespace Watch

variable {σ : Type} [Device σ]

def start (device : σ) (times : WatchTimes) (now : Instant) (calls : List Call) : Watch σ where
  device
  times
  phase := .unstarted
  queue := []
  heard := true
  now
  calls

def awaitGone (w : Watch σ) (since : Instant) : Wait :=
  ⟨.gone, since, w.times.leave⟩

def awaitBack (w : Watch σ) (since : Instant) : Wait :=
  ⟨.back, since, w.times.recover⟩

/-- When a wait ends whose answer is known. -/
def endOf (w : Watch σ) (wait : Wait) (answer : WaitAnswer) : Instant :=
  max w.now (wait.since + answer.after)

/-- When a wait ends, unless it has no end. -/
def endOf? (w : Watch σ) (wait : Wait) : Option Instant :=
  (Device.await w.device wait).1.map (w.endOf wait)

/-- The instant of the next step.  There is none after the end, and none in a wait without end. -/
def due? (w : Watch σ) : Option Instant :=
  match w.phase with
  | .unstarted => some w.now
  | .awaitingGone since => w.endOf? (w.awaitGone since)
  | .settling finish => some (max w.now finish)
  | .awaitingBack since => w.endOf? (w.awaitBack since)
  | .ended => none

def beginWait (w : Watch σ) (wait : Wait) (phase : Phase) : Watch σ :=
  { w with phase, calls := w.calls ++ [Call.wait wait] }

/-- Queues a sighting and goes on, or ends if nobody listens. -/
def publish (w : Watch σ) (state : Connectivity) (next : Phase) : Watch σ :=
  if w.heard then { w with queue := w.queue ++ [⟨state, w.now⟩], phase := next }
  else { w with phase := .ended }

/-- Ends a wait that has an end: publishes what was waited for if it was reached, and gives up
otherwise. -/
def finishWait (w : Watch σ) (wait : Wait) (state : Connectivity) (next : Instant → Phase) :
    Watch σ :=
  match Device.await w.device wait with
  | (none, _) => w
  | (some answer, device) =>
    let w := { w with device, now := w.endOf wait answer }
    match answer.result with
    | .reached => w.publish state (next w.now)
    | _ => { w with phase := .ended }

def step (w : Watch σ) : Watch σ :=
  match w.phase with
  | .unstarted => w.beginWait (w.awaitGone w.now) (.awaitingGone w.now)
  | .awaitingGone since =>
    w.finishWait (w.awaitGone since) .awaitingReconnect fun t => .settling (t.wake w.times.settle)
  | .settling finish =>
    let w := { w with now := max w.now finish }
    w.beginWait (w.awaitBack w.now) (.awaitingBack w.now)
  | .awaitingBack since => w.finishWait (w.awaitBack since) .reconnected fun _ => .ended
  | .ended => w

/-- Takes at most `n` steps that are due at `t` or before. -/
def stepsUntil (t : Instant) : Nat → Watch σ → Watch σ
  | 0, w => w
  | n + 1, w =>
    match w.due? with
    | some d => if d ≤ t then stepsUntil t n w.step else w
    | none => w

def runUntil (w : Watch σ) (t : Instant) : Watch σ :=
  let w := stepsUntil t w.phase.stepsLeft w
  { w with now := max w.now t }

/-- Lets everything happen that is due at the current instant. -/
def rest (w : Watch σ) : Watch σ :=
  w.runUntil w.now

/-- Lets a number of milliseconds pass.  None at all does not let the watch move. -/
def pass (w : Watch σ) (millis : Nat) : Watch σ :=
  if millis = 0 then w else w.runUntil (w.now + millis)

def sleep (w : Watch σ) (d : Span) : Watch σ :=
  if d.nanos = 0 then w else w.runUntil (w.now.wake d)

/-- Has the device execute a command and waits for its reply. -/
def execute (w : Watch σ) (command : String) : Except CommandFault String × Watch σ :=
  let (reply, device) := Device.execute w.device w.now command
  let w := { w with device, calls := w.calls ++ [Call.execute command w.now] }
  (reply.result, w.pass reply.after)

/-- What a listener gets that does not wait. -/
inductive Received
  | sighting (s : Sighting)
  | closed
  | empty
deriving DecidableEq

def isFinished (w : Watch σ) : Bool :=
  w.phase = .ended

def tryReceive (w : Watch σ) : Received × Watch σ :=
  match w.queue with
  | s :: rest => (.sighting s, { w with queue := rest })
  | [] => (if w.isFinished then .closed else .empty, w)

/-- Waits for a sighting, for as long as at most `n` steps take. -/
def receiveWithin : Nat → Watch σ → Received × Watch σ
  | 0, w => w.tryReceive
  | n + 1, w =>
    match w.queue, w.due? with
    | [], some d => receiveWithin n (w.runUntil d)
    | _, _ => w.tryReceive

/-- Waits until there is a sighting or the watch has ended. -/
def receive (w : Watch σ) : Received × Watch σ :=
  receiveWithin w.phase.stepsLeft w

/-- Stops listening; what was queued is lost. -/
def stopListening (w : Watch σ) : Watch σ :=
  { w with heard := false, queue := [] }

def shutdown (w : Watch σ) : Watch σ :=
  { w with phase := .ended }

end Watch

end ResetCheck
