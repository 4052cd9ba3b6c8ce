import ResetCheck.Text.Blank

/-!
# Attached devices

The list of attached devices as the bridge prints it: a device a line, its serial and its state
first, between headings and remarks.  Without a serial given, the only device that is online is
meant.
-/

namespace ResetCheck

structure Attached where
  serial : String
  state : String
deriving DecidableEq, Repr

namespace Attached

def heading : List Char :=
  "List of devices".toList

/-- Whether a line without blanks at its ends is a heading or a remark. -/
def isRemark (line : List Char) : Bool :=
  heading.isPrefixOf line || line.head? = some '*'

def ofLine? (line : List Char) : Option Attached :=
  let line := Text.trimChars line
  if isRemark line then none
  else match Text.fields line with
    | serial :: state :: _ => some ⟨String.ofList serial, String.ofList state⟩
    | _ => none

def ofText (text : String) : List Attached :=
  (Text.lines text.toList).filterMap ofLine?

def isOnline (a : Attached) : Bool :=
  a.state = "device"

/-- The serials of the devices that are online. -/
def online (devices : List Attached) : List String :=
  (devices.filter isOnline).map serial

end Attached

/-- Why no device is meant. -/
inductive ChoiceFault
  | noneOnline
  | severalOnline (serials : List String)
deriving DecidableEq

def ChoiceFault.message : ChoiceFault → String
  | noneOnline => "No device attached, connect one or pass --serial"
  | severalOnline serials =>
    s!"{serials.length} devices attached (" ++ ", ".intercalate serials
      ++ "), pick one with --serial"

/-- The serial of the only device that is online. -/
def Attached.only (devices : List Attached) : Except ChoiceFault String :=
  match online devices with
  | [] => .error .noneOnline
  | [serial] => .ok serial
  | serials => .error (.severalOnline serials)

end ResetCheck
