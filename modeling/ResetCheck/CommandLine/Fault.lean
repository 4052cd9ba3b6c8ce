import ResetCheck.Arguments.Reader
import ResetCheck.Bridge
import ResetCheck.Config.File
import ResetCheck.LogFilter

/-!
# Faults of a run

Why a run of the command line printed nothing.  The message of a fault names first what was being
done, then each cause in turn.
-/

namespace ResetCheck

inductive RunFault
  | usage (fault : UsageFault)
  | saving (fault : SaveFault)
  | loading (fault : FileLoadFault)
  | logging (fault : LogFilter.Fault)
  | listing (fault : HostFault)
  | choice (fault : ChoiceFault)
  | blankCommand
  | zeroBase
  | check (fault : CheckFault)
  /-- There is a verdict, but the time of its command has no stored form. -/
  | unstorable

namespace RunFault

/-- The causes of a check's fault that have a message of their own. -/
def causes : CheckFault → List String
  | .command fault => [fault.message]
  | _ => []

/-- What a run says of its fault.  What there is to say about its arguments is said elsewhere. -/
def message? : RunFault → Option String
  | usage _ => none
  | saving fault => some s!"Failed to save configuration: {fault.message}"
  | loading fault => some s!"Failed to load configuration: {fault.message}"
  | logging fault =>
    let host := HostFault.config s!"Invalid log filter: {fault.message}"
    some s!"Failed to setup logging: {host.message}"
  | listing fault => some s!"Failed to list attached devices: {fault.message}"
  | choice fault => some fault.message
  | blankCommand => some "--command must not be empty"
  | zeroBase => some "--base-timeout-ms must be greater than 0"
  | check fault => some (": ".intercalate (fault.message :: causes fault))
  | unstorable => some "Failed to serialize verdict: SystemTime must be later than UNIX_EPOCH"

end RunFault

end ResetCheck
