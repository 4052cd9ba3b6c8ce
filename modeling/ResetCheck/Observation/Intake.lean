import ResetCheck.Observation

/-!
# Observations with a queue

An intake is an observation together with the queue it takes sightings from, and the actions
that move both.
-/

namespace ResetCheck

structure Intake where
  observation : Observation
  queue : List Sighting

namespace Intake

inductive Action
  | advance (s : Sighting)
  | enqueue (s : Sighting)
  | drain
  | drainUntil (deadline : Instant)

def ofDrained (d : Drained) : Option Inconsistency × Intake :=
  (d.refusal, ⟨d.observation, d.rest⟩)

/-- Carries out an action.  A refusal leaves the observation as it was before the sighting. -/
def act (i : Intake) : Action → Option Inconsistency × Intake
  | .advance s =>
    match i.observation.advance s with
    | .ok observation => (none, { i with observation })
    | .error e => (some e, i)
  | .enqueue s => (none, { i with queue := i.queue ++ [s] })
  | .drain => ofDrained (i.observation.drain i.queue)
  | .drainUntil deadline => ofDrained (i.observation.drainUntil deadline i.queue)

/-- Carries out actions, giving the refusal of each, if any, and the intake after it. -/
def run (i : Intake) : List Action → List (Option Inconsistency × Intake)
  | [] => []
  | a :: rest => i.act a :: run (i.act a).2 rest

end Intake

end ResetCheck
