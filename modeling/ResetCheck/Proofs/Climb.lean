import ResetCheck.Observation

/-!
# Climbing through the states

A list of states **climbs** from a state if it follows the states above it one by one and leaves
none out.  This is the one shape in which sightings may reach an observation, and the one shape
that a report may have.

* `Observation.drain_of_climbs`: an observation takes a climbing queue as a whole.
* `Observation.drainUntil_of_climbs`: up to a deadline it takes the sightings before the first late
  one.
* `Report.check_eq_ok_iff`: a report holds together if and only if its milestones climb in the order
  of time and end in the final state.
* `Observation.check_report_iff`: when the report on sightings that climb holds together.
-/

namespace ResetCheck

/-! ## States -/

namespace Connectivity

/-- The states after this one, in their order. -/
def above : Connectivity → List Connectivity
  | awaitingDisconnect => [awaitingReconnect, reconnected]
  | awaitingReconnect => [reconnected]
  | reconnected => []

/-- Whether states follow `start` one by one. -/
def Climbs (start : Connectivity) (states : List Connectivity) : Prop :=
  states <+: start.above

/-- The state in which states that follow `start` end. -/
def last (start : Connectivity) (states : List Connectivity) : Connectivity :=
  states.getLastD start

@[simp]
theorem last_nil (start : Connectivity) : start.last [] = start := rfl

@[simp]
theorem last_cons (start s : Connectivity) (rest : List Connectivity) :
    start.last (s :: rest) = s.last rest :=
  List.getLastD_cons

@[simp]
theorem last_append (start : Connectivity) (a b : List Connectivity) :
    start.last (a ++ b) = (start.last a).last b := by
  induction a generalizing start with
  | nil => rfl
  | cons s a ih => rw [List.cons_append, last_cons, last_cons, ih]

@[simp]
theorem climbs_nil (start : Connectivity) : start.Climbs [] :=
  List.nil_prefix

theorem climbs_cons {start s : Connectivity} {rest : List Connectivity} :
    start.Climbs (s :: rest) ↔ start.successor? = some s ∧ s.Climbs rest := by
  cases start with
  | awaitingDisconnect =>
    simp only [Climbs, above, List.cons_prefix_cons, successor?, Option.some.injEq]
    constructor
    · rintro ⟨rfl, h⟩
      exact ⟨rfl, h⟩
    · rintro ⟨rfl, h⟩
      exact ⟨rfl, h⟩
  | awaitingReconnect =>
    simp only [Climbs, above, List.cons_prefix_cons, successor?, Option.some.injEq]
    constructor
    · rintro ⟨rfl, h⟩
      exact ⟨rfl, h⟩
    · rintro ⟨rfl, h⟩
      exact ⟨rfl, h⟩
  | reconnected => simp [Climbs, above, successor?]

theorem climbs_append {start : Connectivity} {a b : List Connectivity} :
    start.Climbs (a ++ b) ↔ start.Climbs a ∧ (start.last a).Climbs b := by
  induction a generalizing start with
  | nil => simp
  | cons s a ih => rw [List.cons_append, climbs_cons, climbs_cons, ih, last_cons, and_assoc]

theorem Climbs.initial {start : Connectivity} {a b : List Connectivity} (h : start.Climbs b)
    (hab : a <+: b) : start.Climbs a :=
  hab.trans h

/-- Each state on the way counts. -/
theorem Climbs.rank_last {start : Connectivity} {states : List Connectivity}
    (h : start.Climbs states) : (start.last states).rank = start.rank + states.length := by
  induction states generalizing start with
  | nil => rfl
  | cons s rest ih =>
    obtain ⟨hs, hrest⟩ := climbs_cons.1 h
    rw [last_cons, ih hrest, rank_successor? hs, List.length_cons]
    omega

/-- Nothing follows the state in which nothing is left to observe. -/
theorem Climbs.eq_nil {start : Connectivity} {states : List Connectivity} (h : start.Climbs states)
    (hstart : start.isTerminal) : states = [] := by
  cases states with
  | nil => rfl
  | cons s rest =>
    rw [climbs_cons, successor?_eq_none_iff.2 hstart] at h
    exact absurd h.1 (by simp)

end Connectivity

/-! ## Observations -/

/-- In the order of time, the sightings before the first late one are those that are not late. -/
theorem takeWhile_instant_le {seen : List Sighting} {t : Instant}
    (h : seen.Pairwise (·.instant ≤ ·.instant)) :
    seen.takeWhile (·.instant ≤ t) = seen.filter (·.instant ≤ t) := by
  induction seen with
  | nil => rfl
  | cons s rest ih =>
    obtain ⟨hs, hrest⟩ := List.pairwise_cons.1 h
    by_cases hst : s.instant ≤ t
    · rw [List.takeWhile_cons_of_pos (by simpa using hst),
        List.filter_cons_of_pos (by simpa using hst), ih hrest]
    · rw [List.takeWhile_cons_of_neg (by simpa using hst),
        List.filter_cons_of_neg (by simpa using hst), eq_comm, List.filter_eq_nil_iff]
      intro s' hs'
      have := hs s' hs'
      simp only [decide_eq_true_eq]
      grind

namespace Observation

/-- What a sighting is in a report on a command issued at an instant. -/
def milestone (issued : Instant) (s : Sighting) : Milestone :=
  ⟨s.state, issued.spanTo s.instant⟩

/-- The observation with sightings added to it. -/
def after (o : Observation) (seen : List Sighting) : Observation :=
  { o with
    state := o.state.last (seen.map (·.state))
    milestones := o.milestones ++ seen.map (milestone o.issued) }

@[simp]
theorem after_nil (o : Observation) : o.after [] = o := by
  simp [after]

theorem after_append (o : Observation) (a b : List Sighting) :
    o.after (a ++ b) = (o.after a).after b := by
  simp [after]

theorem advance_eq_ok {o : Observation} {s : Sighting} (h : o.state.successor? = some s.state) :
    o.advance s = .ok (o.after [s]) := by
  rw [advance, if_pos h]
  rfl

theorem drain_of_climbs {o : Observation} {queue : List Sighting}
    (h : o.state.Climbs (queue.map (·.state))) : o.drain queue = ⟨o.after queue, [], none⟩ := by
  induction queue generalizing o with
  | nil => simp [drain]
  | cons s rest ih =>
    rw [List.map_cons, Connectivity.climbs_cons] at h
    rw [drain, advance_eq_ok h.1]
    dsimp only
    rw [ih (o := o.after [s]) h.2, ← after_append]
    rfl

theorem drainUntil_of_climbs {o : Observation} (deadline : Instant) {queue : List Sighting}
    (h : o.state.Climbs (queue.map (·.state))) :
    (o.drainUntil deadline queue).observation =
        o.after (queue.takeWhile (·.instant ≤ deadline)) ∧
      (o.drainUntil deadline queue).refusal = none := by
  induction queue generalizing o with
  | nil => simp [drainUntil]
  | cons s rest ih =>
    rw [List.map_cons, Connectivity.climbs_cons] at h
    rw [drainUntil]
    by_cases hs : deadline < s.instant
    · rw [if_pos hs, List.takeWhile_cons_of_neg (by simpa using hs)]
      exact ⟨(after_nil o).symm, rfl⟩
    · rw [if_neg hs, advance_eq_ok h.1, List.takeWhile_cons_of_pos (by simpa using hs)]
      dsimp only
      obtain ⟨ho, hr⟩ := ih (o := o.after [s]) h.2
      exact ⟨by rw [ho, ← after_append]; rfl, hr⟩

end Observation

/-! ## Reports -/

theorem Milestone.climb_eq_ok_iff {start last : Connectivity} {since : Span}
    {milestones : List Milestone} :
    climb start since milestones = .ok last ↔
      start.Climbs (milestones.map (·.state)) ∧
        (since.nanos :: milestones.map (·.elapsed.nanos)).Pairwise (· ≤ ·) ∧
        last = start.last (milestones.map (·.state)) := by
  induction milestones generalizing start since with
  | nil => simp [climb, eq_comm]
  | cons m rest ih =>
    rw [climb, List.map_cons, Connectivity.climbs_cons, List.map_cons, Connectivity.last_cons]
    by_cases hs : start.successor? = some m.state
    · by_cases he : m.elapsed < since
      · have hlt : m.elapsed.nanos < since.nanos := he
        rw [if_neg (Decidable.not_not.2 hs), if_pos he]
        simp only [reduceCtorEq, List.pairwise_cons, List.mem_cons, false_iff, not_and]
        rintro - ⟨h, -⟩ -
        exact absurd (h _ (.inl rfl)) (by omega)
      · have hle : since.nanos ≤ m.elapsed.nanos := Nat.le_of_not_lt he
        rw [if_neg (Decidable.not_not.2 hs), if_neg he, ih]
        simp only [hs, true_and, List.pairwise_cons, List.mem_cons, forall_eq_or_imp]
        constructor
        · rintro ⟨hc, ⟨hm, hp⟩, hl⟩
          exact ⟨hc, ⟨⟨hle, fun e h => Nat.le_trans hle (hm e h)⟩, hm, hp⟩, hl⟩
        · rintro ⟨hc, ⟨-, hp⟩, hl⟩
          exact ⟨hc, hp, hl⟩
    · rw [if_pos hs]
      simp [hs]

theorem Report.check_eq_ok_iff {r : Report} :
    r.check = .ok () ↔
      Connectivity.awaitingDisconnect.Climbs (r.milestones.map (·.state)) ∧
        (r.milestones.map (·.elapsed.nanos)).Pairwise (· ≤ ·) ∧
        r.final = Connectivity.awaitingDisconnect.last (r.milestones.map (·.state)) := by
  have hclimb : ∀ last, Milestone.climb .awaitingDisconnect 0 r.milestones = .ok last ↔ _ :=
    fun last => Milestone.climb_eq_ok_iff
  have hzero : ((0 : Span).nanos :: r.milestones.map (·.elapsed.nanos)).Pairwise (· ≤ ·) ↔
      (r.milestones.map (·.elapsed.nanos)).Pairwise (· ≤ ·) := by
    simp [List.pairwise_cons]
  simp only [hzero] at hclimb
  rw [check]
  cases hc : Milestone.climb .awaitingDisconnect 0 r.milestones with
  | error e =>
    simp only [reduceCtorEq, false_iff]
    rintro ⟨hs, hp, -⟩
    rw [(hclimb _).2 ⟨hs, hp, rfl⟩] at hc
    exact absurd hc (by simp)
  | ok last =>
    obtain ⟨hs, hp, rfl⟩ := (hclimb last).1 hc
    simp [hs, hp, eq_comm]

theorem Report.judge_eq_ok_iff {r : Report} {verdict : Verdict} :
    r.judge = .ok verdict ↔ r.check = .ok () ∧ verdict = ⟨r.kind, r.reason, r⟩ := by
  rw [judge]
  cases r.check with
  | error e => simp
  | ok u => simp [eq_comm]

/-- A report can be judged if and only if it holds together. -/
theorem Report.exists_judge_iff {r : Report} :
    (∃ verdict, r.judge = .ok verdict) ↔ r.check = .ok () := by
  simp only [judge_eq_ok_iff, exists_and_left, exists_eq, and_true]

/-- The report on sightings that climb holds together if and only if they came in the order of time
after the command.  What came before the command counts as if it came with it. -/
theorem Observation.check_report_iff {seen : List Sighting}
    (h : Connectivity.awaitingDisconnect.Climbs (seen.map (·.state))) (issued : Instant)
    (variant : String) (budget : Budget) (outcome : Outcome) :
    (((start issued).after seen).report variant budget outcome).check = .ok () ↔
      seen.Pairwise fun s s' => issued.spanTo s.instant ≤ issued.spanTo s'.instant := by
  let r := ((start issued).after seen).report variant budget outcome
  have hstates : r.milestones.map (·.state) = seen.map (·.state) := by
    show (seen.map (milestone issued)).map (·.state) = _
    rw [List.map_map]
    rfl
  have helapsed : r.milestones.map (·.elapsed.nanos) =
      seen.map fun s => (issued.spanTo s.instant).nanos := by
    show (seen.map (milestone issued)).map (·.elapsed.nanos) = _
    rw [List.map_map]
    rfl
  have hfinal : r.final = Connectivity.awaitingDisconnect.last (r.milestones.map (·.state)) := by
    rw [hstates]
    rfl
  show r.check = .ok () ↔ _
  rw [Report.check_eq_ok_iff, hstates, helapsed, List.pairwise_map]
  exact ⟨fun hcheck => hcheck.2.1, fun hpairwise => ⟨h, hpairwise, hfinal.trans (by rw [hstates])⟩⟩

end ResetCheck
