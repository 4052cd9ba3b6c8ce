import ResetCheck.Budget
import ResetCheck.Connectivity
import ResetCheck.Fault
import ResetCheck.Outcome

/-!
# Reports and verdicts

A report holds what a session saw.  `Report.judge` turns a report that holds together into a
verdict: the milestones have to climb through the states one by one, in the order of time, and
end in the state the report names.
-/

namespace ResetCheck

/-- A state that was reached, and how long after the command. -/
structure Milestone where
  state : Connectivity
  elapsed : Span
deriving DecidableEq

structure Report where
  variant : String
  final : Connectivity
  milestones : List Milestone
  budget : Budget
  outcome : Outcome
deriving DecidableEq

inductive VerdictKind
  | pass
  | skip
  | fail
deriving DecidableEq, Repr

def VerdictKind.text : VerdictKind → String
  | pass => "PASS"
  | skip => "SKIP"
  | fail => "FAIL"

structure Verdict where
  kind : VerdictKind
  reason : String
  report : Report
deriving DecidableEq

namespace Verdict

def isPass (v : Verdict) : Bool :=
  v.kind = .pass

def isSkip (v : Verdict) : Bool :=
  v.kind = .skip

def isFail (v : Verdict) : Bool :=
  v.kind = .fail

def text (v : Verdict) : String :=
  s!"{v.kind.text} [{v.report.variant}]: {v.reason}"

end Verdict

/-- The state that milestones lead to from `state`, the last of them having come after `since`. -/
def Milestone.climb (state : Connectivity) (since : Span) :
    List Milestone → Except Inconsistency Connectivity
  | [] => .ok state
  | m :: rest =>
    if state.successor? ≠ some m.state then .error (.unexpected m.state state)
    else if m.elapsed < since then .error (.outOfTime m.state)
    else climb m.state m.elapsed rest

namespace Report

/-- Whether a report holds together. -/
def check (r : Report) : Except Inconsistency Unit :=
  match Milestone.climb .awaitingDisconnect 0 r.milestones with
  | .error e => .error e
  | .ok last => if last = r.final then .ok () else .error (.wrongEnd r.final last)

def kind (r : Report) : VerdictKind :=
  if r.outcome.isNotSupported then .skip
  else if r.final.isTerminal then .pass
  else .fail

def reason (r : Report) : String :=
  if r.outcome.isNotSupported then
    s!"{r.variant} reset not supported on this device: {r.outcome.output}"
  else
    let window := r.budget.window.millis
    match r.final with
    | .reconnected => s!"usb disconnected and reconnected within {window} ms"
    | .awaitingDisconnect => s!"usb never disconnected within {window} ms"
    | .awaitingReconnect => s!"usb disconnected, but never reconnected within {window} ms"

/-- The verdict on a report, or the fault in it. -/
def judge (r : Report) : Except CheckFault Verdict :=
  match r.check with
  | .error e => .error (.inconsistent e)
  | .ok () => .ok ⟨r.kind, r.reason, r⟩

end Report

end ResetCheck
