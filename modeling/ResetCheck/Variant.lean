import ResetCheck.Span
import ResetCheck.Text.Blank

/-!
# Reset variants

A reset variant is a command together with the timing that fits it.  Resetting the gadget and
resetting the port touch different layers of USB and recover at different speeds.
-/

namespace ResetCheck

/-- When a session for a reset the device does not support ends: before or after the delay that
follows the command. -/
inductive ShortCircuit
  | beforeDelay
  | afterDelay
deriving DecidableEq, Repr

structure Variant where
  name : String
  command : String
  /-- How long the link is left alone after the device went. -/
  settle : Span
  /-- How long the device is watched before the command is issued. -/
  start : Span
  /-- How long the session waits after the command. -/
  postIssue : Span
  allowance : Span
  shortCircuit : ShortCircuit
deriving DecidableEq

namespace Variant

def gadgetCommand : String :=
  "svc usb resetUsbGadget"

def portCommand : String :=
  "svc usb resetUsbPort"

def gadget : Variant where
  name := "gadget"
  command := gadgetCommand
  settle := .ofMillis 300
  start := .ofMillis 100
  postIssue := 0
  allowance := 0
  shortCircuit := .beforeDelay

def port : Variant where
  name := "port"
  command := portCommand
  settle := .ofMillis 500
  start := .ofMillis 100
  postIssue := .ofMillis 100
  allowance := .ofMillis 1000
  shortCircuit := .afterDelay

/-- Any command, with the timing of the gadget reset. -/
def custom (command : String) : Variant :=
  { gadget with name := "custom", command }

/-- The variant a command belongs to; blanks around the command do not matter. -/
def forCommand (command : String) : Variant :=
  let command := Text.trim command
  if command = gadgetCommand then gadget
  else if command = portCommand then port
  else custom command

end Variant

/-- The resets that have a name. -/
inductive Preset
  | gadget
  | port
deriving DecidableEq, Repr

namespace Preset

def name : Preset → String
  | gadget => "gadget"
  | port => "port"

def variant : Preset → Variant
  | gadget => .gadget
  | port => .port

/-- The preset of a name. -/
def byName? (name : String) : Option Preset :=
  [gadget, port].find? (·.name = name)

end Preset

def Variant.byName? (name : String) : Option Variant :=
  (Preset.byName? name).map Preset.variant

end ResetCheck
