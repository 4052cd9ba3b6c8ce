import ResetCheck.Connectivity
import ResetCheck.Span
import ResetCheck.Text.Quoted

/-!
# Faults

What can go wrong with a device, with a command sent to it, with a check, and with the host that
runs the check; each fault has a message.
-/

namespace ResetCheck

inductive DeviceFault
  /-- The wait was given up after `timeout`. -/
  | unavailable (timeout : Span)
  | transport (text : String)
  | invalidProperty (name value : String)
deriving DecidableEq

def DeviceFault.message : DeviceFault → String
  | unavailable timeout => s!"Device availability wait timed out after {timeout.millis} ms"
  | transport text => s!"Device transport error: {text}"
  | invalidProperty name value =>
    "Invalid value for property " ++ name ++ ": " ++ Text.quoted value

inductive CommandFault
  /-- The command was refused and did not run. -/
  | rejected (text : String)
  /-- The command ran, and the link went before its reply. -/
  | linkLost (text : String)
deriving DecidableEq

def CommandFault.message : CommandFault → String
  | rejected text => s!"Command rejected: {text}"
  | linkLost text => s!"Link lost while waiting for command output: {text}"

/-- Why an observation or a report does not hold together. -/
inductive Inconsistency
  /-- An event would move `state` to `new`, which is not its successor. -/
  | brokenOrder (state new : Connectivity)
  /-- A report has `state` where the successor of `last` had to be. -/
  | unexpected (state last : Connectivity)
  /-- A report has `state` earlier than the state before it. -/
  | outOfTime (state : Connectivity)
  /-- A report ends in `final`, its milestones in `last`. -/
  | wrongEnd (final last : Connectivity)
  | described (text : String)
deriving DecidableEq

def Inconsistency.text : Inconsistency → String
  | brokenOrder state new =>
    s!"transition {state.text} -> {new.text} breaks the connectivity ordering"
  | unexpected state last => s!"recorded transition to {state.text} follows {last.text}"
  | outOfTime state => s!"transition to {state.text} recorded out of time order"
  | wrongEnd final last =>
    s!"final state {final.text} does not match recorded transitions ending at {last.text}"
  | described text => text

inductive CheckFault
  | noDevice
  | command (fault : CommandFault)
  | inconsistent (cause : Inconsistency)
deriving DecidableEq

def CheckFault.message : CheckFault → String
  | noDevice => "Target device does not exist"
  | command fault => s!"Failed to issue reset command: {fault.message}"
  | inconsistent cause => s!"Internal consistency fault: {cause.text}"

/-- What can go wrong on the host. -/
inductive HostFault
  | config (text : String)
  | process (text : String)
  | io (text : String)
deriving DecidableEq

def HostFault.message : HostFault → String
  | config text => s!"Configuration error: {text}"
  | process text => s!"Process error: {text}"
  | io text => s!"IO error: {text}"

end ResetCheck
