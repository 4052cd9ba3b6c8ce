import ResetCheck.Bridge
import ResetCheck.Device

/-!
# Bridged devices

A device behind the bridge is known by its serial.  Whether it is on the host is found out by
polling: its state is asked for at the start of a wait and then an interval after each answer, until
it is what was waited for or the time is over.  A command and a poll take the time that the bridge
takes for them.  So does a property, but a check reads it before its clock starts.
-/

namespace ResetCheck

structure Bridged where
  bridge : Bridge
  serial : String
  /-- The time between the answer to a poll and the next poll. -/
  interval : Span

namespace Bridged

def property (d : Bridged) (name : String) : PropertyAnswer × Bridged :=
  let (answer, bridge) := d.bridge.askProperty d.serial name
  (match answer with
    | .ok o => o.property name
    | .error e => .error (.transport e.message), { d with bridge })

def execute (d : Bridged) (command : String) : Except CommandFault String × Bridged :=
  let (answer, bridge) := d.bridge.askShell d.serial command
  (match answer with
    | .ok o => o.reply
    | .error e => .error (.rejected e.message), { d with bridge })

/-- The milliseconds until the end of a command is known. -/
def commandDelay (d : Bridged) (command : String) : Nat :=
  Bridge.delay (d.bridge.askShell d.serial command).1

/-- What one poll tells: whether the device is online. -/
def poll (d : Bridged) (launch : Launch) : Except DeviceFault Bool :=
  match d.bridge.outcome (.state d.serial) launch with
  | .ok o => .ok o.isOnline
  | .error e => .error (.transport e.message)

/-- When a poll that is made at an instant has its answer. -/
def shownAt (d : Bridged) (t : Instant) (launch : Launch) : Instant :=
  t + Bridge.delay (d.bridge.outcome (.state d.serial) launch)

/-- How a wait ends with the poll at an instant, unless it goes on.  An answer at the deadline comes
too late, even if it shows what was waited for; only a failure then still counts. -/
def endAt? (d : Bridged) (w : Wait) (deadline : Option Instant) (t : Instant) (launch : Launch) :
    Option WaitResult :=
  if deadline.any (· < t) then some (.failed (.unavailable w.timeout))
  else match d.poll launch with
    | .error e => some (.failed e)
    | .ok online =>
      if deadline.any (· ≤ d.shownAt t launch) then some (.failed (.unavailable w.timeout))
      else if online == (w.wanted = .back) then some .reached
      else none

/-- The answer to a wait that ends at an instant, or at its deadline if that is earlier. -/
def answerAt (w : Wait) (deadline : Option Instant) (t : Instant) (result : WaitResult) :
    WaitAnswer :=
  ⟨(deadline.elim t (min t) - w.since).toNat, result⟩

/-- How polling ends that begins at an instant, and the answers that are left then.  Once only the
last answer is left, nothing changes any more before the deadline. -/
def pollFrom (d : Bridged) (w : Wait) (deadline : Option Instant) (t : Instant) (first : Launch)
    (later : List Launch) : Option WaitAnswer × Answers :=
  match d.endAt? w deadline t first with
  | some result =>
    (some (answerAt w deadline (d.shownAt t first) result),
      if deadline.any (· < t) then ⟨first, later⟩ else Answers.next ⟨first, later⟩)
  | none =>
    match later with
    | [] =>
      (deadline.map fun t => answerAt w deadline t (.failed (.unavailable w.timeout)),
        ⟨first, []⟩)
    | second :: later => pollFrom d w deadline ((d.shownAt t first).wake d.interval) second later
termination_by structural later

def await (d : Bridged) (w : Wait) : Option WaitAnswer × Bridged :=
  let (answer, states) :=
    d.pollFrom w (w.since.alarm? w.timeout) w.since d.bridge.states.first d.bridge.states.later
  (answer, { d with bridge := { d.bridge with states } })

instance : Device Bridged where
  property := property
  await := await
  execute d _ command :=
    let (answer, left) := d.execute command
    (⟨d.commandDelay command, answer⟩, left)

end Bridged

end ResetCheck
