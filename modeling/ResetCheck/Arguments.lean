import ResetCheck.Config

/-!
# Arguments

What the command line sets, and which reset is meant by it.
-/

namespace ResetCheck

structure Arguments where
  serial : Option String
  preset : Option Preset
  command : Option String
  /-- In milliseconds. -/
  baseTimeout : Option UInt64
  /-- In milliseconds. -/
  allowance : Option UInt64
  config : Option String
  logLevel : Option String
  saveConfig : Bool
  listDevices : Bool
  json : Bool
deriving DecidableEq

namespace Arguments

def unset : Arguments :=
  ⟨none, none, none, none, none, none, none, false, false, false⟩

/-- The preset that is meant where no other is given. -/
def defaultPreset : Preset :=
  .gadget

/-- The reset that is meant, before the allowance of the command line: a command, or else a preset
as the configuration has it.  A blank command means none. -/
def baseVariant? (a : Arguments) (c : Config) : Option Variant :=
  match a.command with
  | some command => if Config.isBlankText command then none else some (.forCommand command)
  | none => some (c.variant (a.preset.getD defaultPreset))

def variant? (a : Arguments) (c : Config) : Option Variant :=
  (a.baseVariant? c).map fun v =>
    match a.allowance with
    | some ms => { v with allowance := .ofMillis ms.toNat }
    | none => v

def base (a : Arguments) (c : Config) : Span :=
  match a.baseTimeout with
  | some ms => .ofMillis ms.toNat
  | none => c.base

end Arguments

end ResetCheck
