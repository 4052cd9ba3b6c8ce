import ResetCheck.Bridge.Attached
import ResetCheck.Bridge.Complaint
import ResetCheck.Text.Utf8

/-!
# The bridge

The bridge is the program through which the host reaches its devices.  It is started anew for
every request, with arguments that say what is wanted, and prints to two streams.  What it will
answer to each kind of request is known beforehand.
-/

namespace ResetCheck

/-- What a run of the bridge leaves behind. -/
structure Output where
  out : List UInt8
  err : List UInt8
  status : UInt8
  /-- The milliseconds the run took. -/
  duration : Nat

namespace Output

def succeeded (o : Output) : Bool :=
  o.status = 0

def outText (o : Output) : String :=
  Text.decodeLossy o.out

def errText (o : Output) : String :=
  Text.decodeLossy o.err

/-- Whether the answer to a question for the state of a device is that it is online. -/
def isOnline (o : Output) : Bool :=
  o.succeeded && Text.trim o.outText = "device"

/-- The reply to a command.  What the device wrote to either stream belongs to it. -/
def reply (o : Output) : Except CommandFault String :=
  match if o.succeeded then none else CommandFault.ofErrors? o.errText with
  | some e => .error e
  | none => .ok (o.outText ++ o.errText)

/-- The answer to a question for a property.  A property that is not set reads as blank. -/
def property (name : String) (o : Output) : Except DeviceFault (Option String) :=
  if o.succeeded then
    let value := Text.trim o.outText
    .ok (if value.isEmpty then none else some value)
  else .error (.transport s!"getprop {name} failed: {Text.trim o.errText}")

def attached (o : Output) : Except HostFault (List Attached) :=
  if o.succeeded then .ok (Attached.ofText o.outText)
  else .error (.process s!"adb devices failed: {Text.trim o.errText}")

end Output

/-- The output of the bridge, or why the system did not start it. -/
abbrev Launch := Except String Output

/-- Answers to be given one after the other.  The last one is given again and again. -/
structure Answers where
  first : Launch
  later : List Launch

namespace Answers

def always (a : Launch) : Answers :=
  ⟨a, []⟩

def next (a : Answers) : Answers :=
  match a.later with
  | [] => a
  | b :: later => ⟨b, later⟩

end Answers

inductive Request
  | devices
  | property (serial name : String)
  | shell (serial command : String)
  | state (serial : String)
deriving DecidableEq

def Request.arguments : Request → List String
  | devices => ["devices"]
  | property serial name => ["-s", serial, "shell", "getprop", name]
  | shell serial command => ["-s", serial, "shell", command]
  | state serial => ["-s", serial, "get-state"]

structure Bridge where
  path : String
  devices : Answers
  properties : Answers
  commands : Answers
  states : Answers
  /-- The requests the bridge was started for, other than those for a state. -/
  requests : List Request

namespace Bridge

/-- A bridge the system does not start. -/
def broken (path reason : String) : Bridge :=
  let answers := Answers.always (.error reason)
  ⟨path, answers, answers, answers, answers, []⟩

/-- Why the system does not even try to start the bridge: no argument of a program can hold the
character that ends it. -/
def obstacle? (b : Bridge) (r : Request) : Option String :=
  if (b.path :: r.arguments).any (·.toList.contains '\x00') then
    some "nul byte found in provided data"
  else none

/-- What a launch comes to, as seen from the host. -/
def outcome (b : Bridge) (r : Request) (launch : Launch) : Except HostFault Output :=
  match b.obstacle? r, launch with
  | none, .ok o => .ok o
  | none, .error reason => .error (.process s!"failed to execute {b.path}: {reason}")
  | some reason, _ => .error (.process s!"failed to execute {b.path}: {reason}")

/-- The milliseconds until the host sees what a launch comes to. -/
def delay : Except HostFault Output → Nat
  | .ok o => o.duration
  | .error _ => 0

/-- Adds a request that was answered. -/
def record (b : Bridge) (r : Request) : Except HostFault Output → Bridge
  | .ok _ => { b with requests := b.requests ++ [r] }
  | .error _ => b

def askDevices (b : Bridge) : Except HostFault (List Attached) × Bridge :=
  let answer := b.outcome .devices b.devices.first
  (answer.bind Output.attached, { b.record .devices answer with devices := b.devices.next })

def askProperty (b : Bridge) (serial name : String) : Except HostFault Output × Bridge :=
  let answer := b.outcome (.property serial name) b.properties.first
  (answer, { b.record (.property serial name) answer with properties := b.properties.next })

def askShell (b : Bridge) (serial command : String) : Except HostFault Output × Bridge :=
  let answer := b.outcome (.shell serial command) b.commands.first
  (answer, { b.record (.shell serial command) answer with commands := b.commands.next })

end Bridge

end ResetCheck
