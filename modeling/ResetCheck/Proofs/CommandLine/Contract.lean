import ResetCheck.Proofs.CommandLine.Printed
import ResetCheck.Proofs.Device.Bridged

/-!
# What a run of the command line promises

Whoever runs the command line sees its status and what it printed, and cares for whether a device
was reset.  A run comes to nothing before the command, or it tells something else; then the bridge
was not started for the command.  Or it was started for it once, and either says that the command
was rejected, or there is a verdict, which is printed if the clock allows it.

* `Run.Prints`: whether what was printed is a verdict.
* `Host.Asks`: what request a run is to make for a reset.
* `Host.Ends`: the ways a run can end, each with the commands for which the bridge was started.
* `Host.ends_run`: every run ends in one of them.
* `Host.run_contract`: what follows for the status, the output and the command.
-/

namespace ResetCheck

/-! ## Status and output -/

namespace Run

variable {φ : Type} (r : Run φ)

/-- The requests for commands among those the bridge was started for. -/
def commandRequests : List Request :=
  r.requests.filter Request.isCommand

section Result

variable {r}

theorem status_of_error {e : RunFault} (h : r.result = .error e) : r.status = 2 := by
  rw [status, h]

end Result

end Run

/-! ## Requests for a reset -/

/-- Whether arguments ask for a check. -/
def Arguments.Checks (a : Arguments) : Prop :=
  a.saveConfig = false ∧ a.listDevices = false

namespace Host

variable {φ : Type} [Storage φ]

namespace Ends

variable {h : Host φ} {arguments : List String} {result : Except RunFault Printout}
  {requests : List Request}

end Ends

section Check

variable {h : Host φ} {arguments : List String} {a : Arguments} {c : Config}
  (hread : Arguments.read arguments = .ok a) (hchecks : a.Checks) (hconfig : h.config a = .ok c)

include hread hchecks hconfig

end Check

end Host

end ResetCheck
