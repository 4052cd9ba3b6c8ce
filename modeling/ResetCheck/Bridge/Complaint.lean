import ResetCheck.Fault
import ResetCheck.Outcome

/-!
# Complaints of the bridge

The bridge to a device prints lines of its own on its error stream when a command fails.  The
first such line decides whether the command was refused or the link went while it ran.  A text
that tells the reset is not supported comes from the device, whatever else it holds.
-/

namespace ResetCheck

inductive Complaint
  | linkLost
  | rejected
deriving DecidableEq, Repr

namespace Complaint

/-- How lines begin that tell the link went, in lower case. -/
def linkLostOpenings : List String :=
  ["error: closed", "error: device offline", "error: no devices/emulators found",
    "error: protocol fault", "adb: protocol fault"]

/-- How lines begin that tell the command did not run, in lower case. -/
def rejectedOpenings : List String :=
  ["error: device '", "error: more than one device", "error: device unauthorized",
    "error: device still authorizing", "error: insufficient permissions", "adb: "]

def opens (openings : List String) (line : List Char) : Bool :=
  openings.any fun o => o.toList.isPrefixOf line

/-- What a line complains of; blanks at its ends and the case of ASCII letters do not matter. -/
def ofLine? (line : List Char) : Option Complaint :=
  let line := (Text.trimChars line).map Char.toLower
  if opens linkLostOpenings line then some linkLost
  else if opens rejectedOpenings line then some rejected
  else none

def fault (text : String) : Complaint → CommandFault
  | linkLost => .linkLost text
  | rejected => .rejected text

end Complaint

/-- The fault an error stream tells of, or nothing if the command itself wrote to it. -/
def CommandFault.ofErrors? (errors : String) : Option CommandFault :=
  let text := Text.trim errors
  if Support.classify text refusalPhrases = .notSupported then none
  else ((Text.lines text.toList).findSome? Complaint.ofLine?).map (·.fault text)

end ResetCheck
