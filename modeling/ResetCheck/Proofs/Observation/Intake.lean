import ResetCheck.Observation.Intake
import ResetCheck.Proofs.Climb

/-!
# What becomes of queued sightings

An observation takes sightings from a queue and from elsewhere, in any order and at any instants.
It accepts those that continue its climb.  Draining stops at the first sighting that is refused or
too late, and that one is gone.  Every sighting is booked in a ledger, from which the observation
and what was taken off the queue can be read.

* `Intake.Step`: what one action does, and what is booked for it.
* `Intake.exists_step`, `Intake.exists_run`: every action is such a step.
* `Intake.Run.observation_eq`, `Intake.Run.queue_eq`: the observation and the queue after a run.
* `Intake.run_accounted`: the books of a whole run, and when its report holds together.
-/

namespace ResetCheck

/-! ## Draining -/

namespace Observation

variable {o : Observation} {deadline? : Option Instant} {s : Sighting} {rest : List Sighting}

/-- Whether a sighting is too late.  Without a deadline none is. -/
def Late (deadline? : Option Instant) (s : Sighting) : Prop :=
  ∃ deadline, deadline? = some deadline ∧ deadline < s.instant

/-- Whether an observation takes all of a queue. -/
def Takes (o : Observation) (deadline? : Option Instant) (taken : List Sighting) : Prop :=
  o.state.Climbs (taken.map (·.state)) ∧ ∀ s ∈ taken, ¬Late deadline? s

theorem takes_nil : o.Takes deadline? [] :=
  ⟨Connectivity.climbs_nil _, nofun⟩

theorem Takes.cons (hs : o.state.successor? = some s.state) (hlate : ¬Late deadline? s)
    (h : (o.after [s]).Takes deadline? rest) : o.Takes deadline? (s :: rest) :=
  ⟨Connectivity.climbs_cons.2 ⟨hs, h.1⟩, List.forall_mem_cons.2 ⟨hlate, h.2⟩⟩

theorem after_cons (o : Observation) (s : Sighting) (rest : List Sighting) :
    (o.after [s]).after rest = o.after (s :: rest) :=
  (after_append o [s] rest).symm

/-- Draining a queue, up to a deadline if there is one. -/
def drainBy (o : Observation) (queue : List Sighting) : Option Instant → Drained
  | none => o.drain queue
  | some deadline => o.drainUntil deadline queue

theorem drainBy_cons_of_late (h : Late deadline? s) :
    o.drainBy (s :: rest) deadline? = ⟨o, rest, none⟩ := by
  obtain ⟨deadline, rfl, hlate⟩ := h
  exact if_pos hlate

theorem drainBy_cons_of_not_late (h : ¬Late deadline? s) :
    o.drainBy (s :: rest) deadline? =
      match o.advance s with
      | .ok o => o.drainBy rest deadline?
      | .error e => ⟨o, rest, some e⟩ := by
  cases deadline? with
  | none => rfl
  | some deadline => exact if_neg fun hlate => h ⟨deadline, rfl, hlate⟩

theorem advance_eq_error (h : o.state.successor? ≠ some s.state) :
    o.advance s = .error (.brokenOrder o.state s.state) :=
  if_neg h

/-- Draining takes the sightings before the first one that is too late or refused.  That one is
gone, and those after it stay queued. -/
theorem drainBy_cases (o : Observation) (deadline? : Option Instant) (queue : List Sighting) :
    ∃ taken, o.Takes deadline? taken ∧
      (queue = taken ∧ o.drainBy queue deadline? = ⟨o.after taken, [], none⟩ ∨
        ∃ s rest, queue = taken ++ s :: rest ∧
          (Late deadline? s ∧ o.drainBy queue deadline? = ⟨o.after taken, rest, none⟩ ∨
            ¬Late deadline? s ∧ (o.after taken).state.successor? ≠ some s.state ∧
              o.drainBy queue deadline? = ⟨o.after taken, rest,
                some (.brokenOrder (o.after taken).state s.state)⟩)) := by
  induction queue generalizing o with
  | nil =>
    refine ⟨[], takes_nil, .inl ⟨rfl, ?_⟩⟩
    rw [after_nil]
    cases deadline? <;> rfl
  | cons s rest ih =>
    by_cases hlate : Late deadline? s
    · refine ⟨[], takes_nil, .inr ⟨s, rest, rfl, .inl ⟨hlate, ?_⟩⟩⟩
      rw [after_nil, drainBy_cons_of_late hlate]
    rw [drainBy_cons_of_not_late hlate]
    by_cases hs : o.state.successor? = some s.state
    · obtain ⟨taken, htaken, hend⟩ := ih (o.after [s])
      refine ⟨s :: taken, htaken.cons hs hlate, ?_⟩
      rw [advance_eq_ok hs]
      rw [after_cons] at hend
      rcases hend with ⟨rfl, hall⟩ | ⟨s', rest', rfl, hstop⟩
      · exact .inl ⟨rfl, hall⟩
      · exact .inr ⟨s', rest', rfl, hstop⟩
    · refine ⟨[], takes_nil, .inr ⟨s, rest, rfl, .inr ⟨hlate, ?_⟩⟩⟩
      rw [advance_eq_error hs, after_nil]
      exact ⟨hs, rfl⟩

end Observation

namespace Intake

/-! ## Steps and their books -/

/-- What became of a sighting: it was accepted without having been queued, or it was taken off the
queue and accepted or dropped. -/
inductive Entry
  | advanced (s : Sighting)
  | applied (s : Sighting)
  | dropped (s : Sighting)

/-- The sighting of an entry if it was accepted. -/
def Entry.accepted? : Entry → Option Sighting
  | advanced s => some s
  | applied s => some s
  | dropped _ => none

/-- The sighting of an entry if it was taken off the queue. -/
def Entry.unqueued? : Entry → Option Sighting
  | advanced _ => none
  | applied s => some s
  | dropped s => some s

def accepted (ledger : List Entry) : List Sighting :=
  ledger.filterMap Entry.accepted?

def unqueued (ledger : List Entry) : List Sighting :=
  ledger.filterMap Entry.unqueued?

/-- What an action puts into the queue. -/
def Action.enqueued? : Action → Option Sighting
  | .enqueue s => some s
  | _ => none

def enqueued (actions : List Action) : List Sighting :=
  actions.filterMap Action.enqueued?

/-- The action that drains the queue, up to a deadline if there is one. -/
def Action.drainBy : Option Instant → Action
  | none => .drain
  | some deadline => .drainUntil deadline

/-- What an action does: the refusal it ends in, if any, what is booked for it, and the intake after
it. -/
inductive Step : Intake → Action → Option Inconsistency → List Entry → Intake → Prop
  | advanced {o : Observation} {queue : List Sighting} {s : Sighting}
      (hs : o.state.successor? = some s.state) :
      Step ⟨o, queue⟩ (.advance s) none [.advanced s] ⟨o.after [s], queue⟩
  | refused {o : Observation} {queue : List Sighting} {s : Sighting}
      (hs : o.state.successor? ≠ some s.state) :
      Step ⟨o, queue⟩ (.advance s) (some (.brokenOrder o.state s.state)) [] ⟨o, queue⟩
  | queued (o : Observation) (queue : List Sighting) (s : Sighting) :
      Step ⟨o, queue⟩ (.enqueue s) none [] ⟨o, queue ++ [s]⟩
  /-- The whole queue is taken. -/
  | emptied {o : Observation} {deadline? : Option Instant} {taken : List Sighting}
      (htaken : o.Takes deadline? taken) :
      Step ⟨o, taken⟩ (.drainBy deadline?) none (taken.map .applied) ⟨o.after taken, []⟩
  /-- Draining stops at a sighting that is too late. -/
  | late {o : Observation} {deadline? : Option Instant} {taken rest : List Sighting} {s : Sighting}
      (htaken : o.Takes deadline? taken) (hs : Observation.Late deadline? s) :
      Step ⟨o, taken ++ s :: rest⟩ (.drainBy deadline?) none (taken.map .applied ++ [.dropped s])
        ⟨o.after taken, rest⟩
  /-- Draining stops at a sighting that is refused. -/
  | broken {o : Observation} {deadline? : Option Instant} {taken rest : List Sighting}
      {s : Sighting} (htaken : o.Takes deadline? taken) (hlate : ¬Observation.Late deadline? s)
      (hs : (o.after taken).state.successor? ≠ some s.state) :
      Step ⟨o, taken ++ s :: rest⟩ (.drainBy deadline?)
        (some (.brokenOrder (o.after taken).state s.state)) (taken.map .applied ++ [.dropped s])
        ⟨o.after taken, rest⟩

/-- Every action is a step. -/
theorem exists_step (i : Intake) (a : Action) :
    ∃ entries, i.Step a (i.act a).1 entries (i.act a).2 := by
  obtain ⟨o, queue⟩ := i
  have hdrain : ∀ deadline?, ∃ entries, Step ⟨o, queue⟩ (.drainBy deadline?)
      (ofDrained (o.drainBy queue deadline?)).1 entries
      (ofDrained (o.drainBy queue deadline?)).2 := by
    intro deadline?
    obtain ⟨taken, htaken, ⟨rfl, hall⟩ | ⟨s, rest, rfl, ⟨hlate, hstop⟩ | ⟨hlate, hs, hstop⟩⟩⟩ :=
      o.drainBy_cases deadline? queue
    · rw [hall]
      exact ⟨_, .emptied htaken⟩
    · rw [hstop]
      exact ⟨_, .late htaken hlate⟩
    · rw [hstop]
      exact ⟨_, .broken htaken hlate hs⟩
  cases a with
  | advance s =>
    by_cases hs : o.state.successor? = some s.state
    · rw [act, Observation.advance_eq_ok hs]
      exact ⟨_, .advanced hs⟩
    · rw [act, Observation.advance_eq_error hs]
      exact ⟨_, .refused hs⟩
  | enqueue s => exact ⟨_, .queued o queue s⟩
  | drain => exact hdrain none
  | drainUntil deadline => exact hdrain (some deadline)

@[simp]
theorem accepted_applied (taken : List Sighting) : accepted (taken.map .applied) = taken := by
  induction taken with
  | nil => rfl
  | cons s taken ih => exact congrArg (s :: ·) ih

@[simp]
theorem unqueued_applied (taken : List Sighting) : unqueued (taken.map .applied) = taken := by
  induction taken with
  | nil => rfl
  | cons s taken ih => exact congrArg (s :: ·) ih

theorem accepted_append (a b : List Entry) : accepted (a ++ b) = accepted a ++ accepted b :=
  List.filterMap_append

theorem unqueued_append (a b : List Entry) : unqueued (a ++ b) = unqueued a ++ unqueued b :=
  List.filterMap_append

theorem accepted_stopped (taken : List Sighting) (s : Sighting) :
    accepted (taken.map .applied ++ [.dropped s]) = taken := by
  rw [accepted_append, accepted_applied]
  exact List.append_nil taken

theorem unqueued_stopped (taken : List Sighting) (s : Sighting) :
    unqueued (taken.map .applied ++ [.dropped s]) = taken ++ [s] := by
  rw [unqueued_append, unqueued_applied]
  rfl

namespace Step

variable {i j : Intake} {a : Action} {refusal : Option Inconsistency} {entries : List Entry}

/-- The observation goes on with what was accepted. -/
theorem observation_eq (h : i.Step a refusal entries j) :
    i.observation.state.Climbs ((accepted entries).map (·.state)) ∧
      j.observation = i.observation.after (accepted entries) := by
  cases h with
  | advanced hs => exact ⟨Connectivity.climbs_cons.2 ⟨hs, Connectivity.climbs_nil _⟩, rfl⟩
  | refused hs => exact ⟨Connectivity.climbs_nil _, (Observation.after_nil _).symm⟩
  | queued o queue s => exact ⟨Connectivity.climbs_nil _, (Observation.after_nil _).symm⟩
  | emptied htaken =>
    rw [accepted_applied]
    exact ⟨htaken.1, rfl⟩
  | late htaken hs =>
    rw [accepted_stopped]
    exact ⟨htaken.1, rfl⟩
  | broken htaken hlate hs =>
    rw [accepted_stopped]
    exact ⟨htaken.1, rfl⟩

/-- What is taken off the queue comes off its front, and what is put into it goes to its end. -/
theorem queue_eq (h : i.Step a refusal entries j) :
    i.queue ++ enqueued [a] = unqueued entries ++ j.queue := by
  have hdrain : ∀ deadline?, enqueued [.drainBy deadline?] = [] := by
    intro deadline?
    cases deadline? <;> rfl
  cases h with
  | advanced hs => exact List.append_nil _
  | refused hs => exact List.append_nil _
  | queued o queue s => rfl
  | emptied htaken => rw [hdrain, unqueued_applied]
  | late htaken hs =>
    rw [hdrain, unqueued_stopped, List.append_nil, List.append_assoc]
    rfl
  | broken htaken hlate hs =>
    rw [hdrain, unqueued_stopped, List.append_nil, List.append_assoc]
    rfl

end Step

/-! ## Runs -/

/-- Steps one after the other, with the ledger of all of them. -/
inductive Run : Intake → List Action → List Entry → Intake → Prop
  | done (i : Intake) : Run i [] [] i
  | step {i j k : Intake} {a : Action} {actions : List Action} {refusal : Option Inconsistency}
      {entries ledger : List Entry} (first : i.Step a refusal entries j)
      (rest : Run j actions ledger k) : Run i (a :: actions) (entries ++ ledger) k

/-- The intake after some actions. -/
def after (i : Intake) (actions : List Action) : Intake :=
  ((i.run actions).getLast?.map (·.2)).getD i

theorem after_cons (i : Intake) (a : Action) (actions : List Action) :
    i.after (a :: actions) = (i.act a).2.after actions := by
  rw [after, after, run, List.getLast?_cons]
  cases (Intake.run (i.act a).2 actions).getLast? <;> rfl

theorem exists_run (i : Intake) (actions : List Action) :
    ∃ ledger, i.Run actions ledger (i.after actions) := by
  induction actions generalizing i with
  | nil => exact ⟨[], .done i⟩
  | cons a actions ih =>
    obtain ⟨entries, hstep⟩ := i.exists_step a
    obtain ⟨ledger, hrun⟩ := ih (i.act a).2
    rw [after_cons]
    exact ⟨entries ++ ledger, .step hstep hrun⟩

namespace Run

variable {i j : Intake} {actions : List Action} {ledger : List Entry}

theorem observation_eq (h : i.Run actions ledger j) :
    i.observation.state.Climbs ((accepted ledger).map (·.state)) ∧
      j.observation = i.observation.after (accepted ledger) := by
  induction h with
  | done i => exact ⟨Connectivity.climbs_nil _, (Observation.after_nil _).symm⟩
  | step first rest ih =>
    obtain ⟨hclimbs, hfirst⟩ := first.observation_eq
    obtain ⟨hrest, hlast⟩ := ih
    rw [hfirst] at hrest hlast
    rw [accepted_append, List.map_append, Connectivity.climbs_append, Observation.after_append]
    exact ⟨⟨hclimbs, hrest⟩, hlast⟩

/-- Every queued sighting was taken off the queue or is still there, in the order of queueing. -/
theorem queue_eq (h : i.Run actions ledger j) :
    i.queue ++ enqueued actions = unqueued ledger ++ j.queue := by
  induction h with
  | done i => exact List.append_nil _
  | @step i j k a actions refusal entries ledger first rest ih =>
    have henqueued : enqueued (a :: actions) = enqueued [a] ++ enqueued actions :=
      List.filterMap_append (l := [a])
    rw [henqueued, ← List.append_assoc, first.queue_eq, List.append_assoc, ih, unqueued_append,
      List.append_assoc]

/-- No action takes an observation back. -/
theorem state_le (h : i.Run actions ledger j) : i.observation.state ≤ j.observation.state := by
  obtain ⟨hclimbs, hlast⟩ := h.observation_eq
  have hrank := hclimbs.rank_last
  rw [hlast]
  show i.observation.state.rank ≤ Connectivity.rank (i.observation.state.last _)
  rw [hrank]
  exact Nat.le_add_right _ _

end Run

/-! ## The books of a run -/

/-- An intake to which nothing has happened since the command. -/
def start (issued : Instant) : Intake :=
  ⟨.start issued, []⟩

/-- **The books of an observation.**  Whatever actions are carried out, in whatever order and with
whatever sightings, each does what a step does.  The milestones are those of the accepted sightings.
They follow the states one by one, and the state is the last of them and never goes back.  Every
sighting that was queued was taken off the queue once, and accepted or dropped, or it is still
queued, in its order.  The report can be judged if and only if what was accepted came in the order
of time after the command. -/
theorem run_accounted (issued : Instant) (actions : List Action) :
    let i := (start issued).after actions
    (∀ a, ∃ entries, i.Step a (i.act a).1 entries (i.act a).2) ∧
      (∀ later, i.observation.state ≤ (i.after later).observation.state) ∧
      i.observation.milestones.map (·.state) <+: [.awaitingReconnect, .reconnected] ∧
      i.observation.state =
        (i.observation.milestones.map (·.state)).getLastD .awaitingDisconnect ∧
      ∃ ledger, (start issued).Run actions ledger i ∧
        i.observation.milestones =
          (accepted ledger).map (fun s => ⟨s.state, issued.spanTo s.instant⟩) ∧
        enqueued actions = unqueued ledger ++ i.queue ∧
        ∀ variant budget outcome,
          (∃ verdict, (i.observation.report variant budget outcome).judge = .ok verdict) ↔
            (accepted ledger).Pairwise fun s s' =>
              issued.spanTo s.instant ≤ issued.spanTo s'.instant := by
  intro i
  obtain ⟨ledger, hrun⟩ := (start issued).exists_run actions
  obtain ⟨hclimbs, hobservation⟩ := hrun.observation_eq
  have hmilestones : i.observation.milestones =
      (accepted ledger).map (Observation.milestone issued) :=
    (congrArg Observation.milestones hobservation).trans (List.nil_append _)
  have hstates : i.observation.milestones.map (·.state) = (accepted ledger).map (·.state) := by
    rw [hmilestones, List.map_map]
    rfl
  refine ⟨i.exists_step, fun later => ?_, ?_, ?_, ledger, hrun, hmilestones, hrun.queue_eq, ?_⟩
  · obtain ⟨ledger', hrun'⟩ := i.exists_run later
    exact hrun'.state_le
  · rw [hstates]
    exact hclimbs
  · rw [hstates]
    exact congrArg Observation.state hobservation
  · intro variant budget outcome
    rw [Report.exists_judge_iff, hobservation]
    exact Observation.check_report_iff hclimbs issued variant budget outcome

end Intake

end ResetCheck
