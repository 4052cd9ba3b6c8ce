import ResetCheck.Instant
import ResetCheck.Verdict
import ResetCheck.Watch

/-!
# Observations

An observation follows the sightings of a watch from the moment the command is issued.  It takes
a sighting only if its state is the successor of the last one.  Draining takes sightings off a
queue one by one; a sighting that is refused or comes too late ends the draining and is gone.
-/

namespace ResetCheck

structure Observation where
  issued : Instant
  state : Connectivity
  milestones : List Milestone
deriving DecidableEq

/-- What draining a queue left. -/
structure Drained where
  observation : Observation
  rest : List Sighting
  refusal : Option Inconsistency

namespace Observation

def start (issued : Instant) : Observation :=
  ⟨issued, .awaitingDisconnect, []⟩

def advance (o : Observation) (s : Sighting) : Except Inconsistency Observation :=
  if o.state.successor? = some s.state then
    .ok { o with
      state := s.state
      milestones := o.milestones ++ [⟨s.state, o.issued.spanTo s.instant⟩] }
  else .error (.brokenOrder o.state s.state)

/-- Takes sightings for as long as none is refused. -/
def drain (o : Observation) : List Sighting → Drained
  | [] => ⟨o, [], none⟩
  | s :: rest =>
    match o.advance s with
    | .ok o => drain o rest
    | .error e => ⟨o, rest, some e⟩

/-- Takes sightings for as long as none is refused or later than the deadline. -/
def drainUntil (o : Observation) (deadline : Instant) : List Sighting → Drained
  | [] => ⟨o, [], none⟩
  | s :: rest =>
    if deadline < s.instant then ⟨o, rest, none⟩
    else match o.advance s with
      | .ok o => drainUntil o deadline rest
      | .error e => ⟨o, rest, some e⟩

def report (o : Observation) (variant : String) (budget : Budget) (outcome : Outcome) : Report :=
  ⟨variant, o.state, o.milestones, budget, outcome⟩

end Observation

end ResetCheck
