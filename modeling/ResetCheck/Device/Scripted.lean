import ResetCheck.Device

/-!
# Scripted devices

A scripted device answers every command with the same reply.  A command that runs starts its
script, which hides the device and shows it again some time later.  Each start of the script adds
its flips to those of earlier starts; at any instant the latest flip so far decides.
-/

namespace ResetCheck

/-- What a command does to the visibility of the device.  Offsets count from the command. -/
inductive Script
  | reconnects (disconnectAfter reconnectAfter : Span)
  | staysDisconnected (disconnectAfter : Span)
  | neverDisconnects
  /-- Every wait fails at once. -/
  | transportFailure
deriving DecidableEq

structure Flip where
  instant : Instant
  visible : Bool
deriving DecidableEq

structure Scripted where
  serial : String
  properties : List (String × String)
  /-- The fault with which every property is answered, if there is one. -/
  propertyFault : Option DeviceFault
  reply : Except CommandFault String
  script : Script
  flips : List Flip
  commands : List String
  /-- How often a property was read. -/
  reads : Nat

/-- The flip at an offset from `start`, if the clock has that instant. -/
def Flip.after (start : Instant) (offset : Span) (visible : Bool) : List Flip :=
  ((start.alarm? offset).map fun t => ⟨t, visible⟩).toList

/-- The flips of a script that starts at an instant.  The device is not shown before it was
hidden. -/
def Script.flips (start : Instant) : Script → List Flip
  | reconnects d r =>
    Flip.after start d false ++ Flip.after start (if d.nanos ≤ r.nanos then r else d) true
  | staysDisconnected d => Flip.after start d false
  | neverDisconnects => []
  | transportFailure => []

/-- The visibility that flips lead to at an instant.  Without any, a device is visible. -/
def visibleAfter (flips : List Flip) (t : Instant) : Bool :=
  (flips.foldl
    (fun (latest : Option Flip) f =>
      if f.instant ≤ t ∧ latest.all (·.instant ≤ f.instant) then some f else latest)
    none).all (·.visible)

namespace Scripted

def visibleAt (d : Scripted) (t : Instant) : Bool :=
  visibleAfter d.flips t

def setProperty (d : Scripted) (name value : String) : Scripted :=
  { d with properties := d.properties ++ [(name, value)] }

def property (d : Scripted) (name : String) : PropertyAnswer × Scripted :=
  (.ofTable d.properties d.propertyFault name, { d with reads := d.reads + 1 })

def trigger (d : Scripted) (now : Instant) : Scripted :=
  { d with flips := d.flips ++ d.script.flips now }

def satisfies (d : Scripted) (wanted : Presence) (t : Instant) : Bool :=
  d.visibleAt t == (wanted = .back)

/-- The first instant from `since` on at which the device shows what is waited for.  Only flips
change what it shows. -/
def firstSatisfied? (d : Scripted) (wanted : Presence) (since : Instant) : Option Instant :=
  (((since :: (d.flips.map (·.instant)).filter (since < ·)).filter (d.satisfies wanted))).min?

/-- How a wait ends that has not got what it waits for. -/
def giveUp? (w : Wait) : Option WaitAnswer :=
  (w.since.alarm? w.timeout).map fun deadline =>
    ⟨(deadline - w.since).toNat, .failed (.unavailable w.timeout)⟩

/-- A wait succeeds at once or before its time is over. -/
def await (d : Scripted) (w : Wait) : Option WaitAnswer :=
  if d.script = .transportFailure then
    some ⟨0, .failed (.transport s!"device {d.serial} connection refused")⟩
  else match d.firstSatisfied? w.wanted w.since with
    | some t =>
      if t = w.since ∨ (w.since.alarm? w.timeout).all (t < ·) then
        some ⟨(t - w.since).toNat, .reached⟩
      else giveUp? w
    | none => giveUp? w

/-- A command that is refused does not start the script. -/
def execute (d : Scripted) (now : Instant) (command : String) : Reply × Scripted :=
  let d := { d with commands := d.commands ++ [command] }
  (⟨0, d.reply⟩, match d.reply with
    | .error (.rejected _) => d
    | _ => d.trigger now)

instance : Device Scripted where
  property := property
  await d w := (d.await w, d)
  execute := execute

end Scripted

end ResetCheck
