import ResetCheck.Proofs.Observation.Intake

/-!
# Draining in rounds

At its deadline a session drains its queue several times, and more may arrive between the times.
Each time the sightings before the first late one are taken, and that one is gone.  As long as what
arrives is not earlier than what is queued then, nothing that is in time is lost by this, and
nothing that is late gets in.

* `Observation.drainUntil_of_order`: what draining a queue in the order of time comes to.
* `Intake.after_round`: what a round comes to.
* `Intake.after_rounds`: what all rounds come to.
* `Intake.rounds_settled`: how often the queue is drained does not matter.
-/

namespace ResetCheck

/-! ## In time and late -/

/-- The sightings that are not later than a deadline. -/
def timely (deadline : Instant) (seen : List Sighting) : List Sighting :=
  seen.filter (·.instant ≤ deadline)

/-- The sightings that are later than a deadline. -/
def overdue (deadline : Instant) (seen : List Sighting) : List Sighting :=
  seen.filter (deadline < ·.instant)

section Split

variable {deadline : Instant} {s : Sighting} {a b seen : List Sighting}

theorem timely_append : timely deadline (a ++ b) = timely deadline a ++ timely deadline b :=
  List.filter_append ..

theorem overdue_append : overdue deadline (a ++ b) = overdue deadline a ++ overdue deadline b :=
  List.filter_append ..

theorem timely_of_forall_le (h : ∀ s ∈ seen, s.instant ≤ deadline) :
    timely deadline seen = seen ∧ overdue deadline seen = [] := by
  refine ⟨List.filter_eq_self.2 fun s hs => decide_eq_true (h s hs), ?_⟩
  refine List.filter_eq_nil_iff.2 fun s hs => ?_
  simpa using h s hs

theorem timely_of_forall_lt (h : ∀ s ∈ seen, deadline < s.instant) :
    timely deadline seen = [] ∧ overdue deadline seen = seen := by
  refine ⟨List.filter_eq_nil_iff.2 fun s hs => ?_,
    List.filter_eq_self.2 fun s hs => decide_eq_true (h s hs)⟩
  simpa using h s hs

/-- Late sightings before others leave those that are in time as they are. -/
theorem timely_late_append (h : ∀ s ∈ seen, deadline < s.instant) (rest : List Sighting) :
    timely deadline (seen ++ rest) = timely deadline rest ∧
      overdue deadline (seen ++ rest) = seen ++ overdue deadline rest := by
  obtain ⟨hnone, hself⟩ := timely_of_forall_lt h
  rw [timely_append, overdue_append, hnone, hself]
  exact ⟨rfl, rfl⟩

theorem lt_of_mem_overdue (h : s ∈ overdue deadline seen) : deadline < s.instant := by
  simpa using (List.mem_filter.1 h).2

end Split

/-! ## Draining once -/

namespace Observation

variable {o : Observation} {deadline : Instant} {queue : List Sighting}

theorem late_iff {s : Sighting} : Late (some deadline) s ↔ deadline < s.instant := by
  constructor
  · rintro ⟨_, hdeadline, h⟩
    obtain rfl := Option.some.inj hdeadline
    exact h
  · exact fun h => ⟨deadline, rfl, h⟩

/-- Draining a queue that is in the order of time takes what is in time, if no sighting is refused,
and loses one that is late, if there is any.  It is without refusal exactly if what is in time
climbs. -/
theorem drainUntil_of_order (deadline : Instant)
    (horder : queue.Pairwise (·.instant ≤ ·.instant)) :
    ((o.drainUntil deadline queue).refusal = none ↔
        o.state.Climbs ((timely deadline queue).map (·.state))) ∧
      ((o.drainUntil deadline queue).refusal = none →
        o.drainUntil deadline queue =
          ⟨o.after (timely deadline queue), (overdue deadline queue).tail, none⟩) := by
  obtain ⟨taken, ⟨hclimbs, htaken⟩, hend⟩ := o.drainBy_cases (some deadline) queue
  have hle : ∀ s ∈ taken, s.instant ≤ deadline := fun s hs =>
    Int.not_lt.1 fun hlt => htaken s hs (late_iff.2 hlt)
  obtain ⟨htimely, hoverdue⟩ := timely_of_forall_le hle
  have hdrain : o.drainBy queue (some deadline) = o.drainUntil deadline queue := rfl
  rw [hdrain] at hend
  rcases hend with ⟨rfl, hall⟩ | ⟨s, rest, rfl, ⟨hlate, hstop⟩ | ⟨hlate, hs, hstop⟩⟩
  · -- the whole queue is in time
    rw [hall, htimely, hoverdue]
    exact ⟨⟨fun _ => hclimbs, fun _ => rfl⟩, fun _ => rfl⟩
  · -- a late sighting, and nothing but late ones after it
    have hrest : ∀ t ∈ s :: rest, deadline < t.instant := by
      have hafter := (List.pairwise_cons.1 (List.pairwise_append.1 horder).2.1).1
      exact List.forall_mem_cons.2 ⟨late_iff.1 hlate, fun t ht =>
        Int.lt_of_lt_of_le (late_iff.1 hlate) (hafter t ht)⟩
    obtain ⟨hnone, hself⟩ := timely_of_forall_lt hrest
    rw [hstop, timely_append, overdue_append, htimely, hoverdue, hnone, hself, List.append_nil]
    exact ⟨⟨fun _ => hclimbs, fun _ => rfl⟩, fun _ => rfl⟩
  · -- a sighting in time that is refused
    have hinTime : timely deadline (s :: rest) = s :: timely deadline rest :=
      List.filter_cons_of_pos (by simpa using fun hlt => hlate (late_iff.2 hlt))
    have hbroken : ¬o.state.Climbs ((timely deadline (taken ++ s :: rest)).map (·.state)) := by
      rw [timely_append, htimely, hinTime, List.map_append, Connectivity.climbs_append,
        List.map_cons, Connectivity.climbs_cons]
      exact fun h => hs h.2.1
    rw [hstop]
    exact ⟨⟨nofun, fun h => absurd h hbroken⟩, nofun⟩

end Observation

/-! ## Rounds -/

namespace Intake

variable {i : Intake} {deadline : Instant} {batch : List Sighting} {later : List (List Sighting)}

/-- The actions of rounds in which a batch of sightings arrives and the queue is drained. -/
def rounds (deadline : Instant) (batches : List (List Sighting)) : List Action :=
  batches.flatMap fun batch => batch.map .enqueue ++ [.drainUntil deadline]

/-- The intake after a round. -/
def round (deadline : Instant) (batch : List Sighting) (i : Intake) : Intake :=
  i.after (rounds deadline [batch])

/-- Whether what arrives in each round comes in the order of time, and is not earlier than what is
queued then. -/
def InTurn (deadline : Instant) (i : Intake) : List (List Sighting) → Prop
  | [] => True
  | batch :: later =>
    (i.queue ++ batch).Pairwise (·.instant ≤ ·.instant) ∧
      InTurn deadline (i.round deadline batch) later

/-- Whether actions are carried out without a refusal. -/
def Smooth (i : Intake) (actions : List Action) : Prop :=
  ∀ r ∈ i.run actions, r.1 = none

/-! ### Actions one after the other -/

theorem after_append (i : Intake) (a b : List Action) : i.after (a ++ b) = (i.after a).after b := by
  induction a generalizing i with
  | nil => rfl
  | cons action a ih => rw [List.cons_append, after_cons, after_cons, ih]

theorem smooth_cons {a : Action} {actions : List Action} :
    i.Smooth (a :: actions) ↔ (i.act a).1 = none ∧ (i.act a).2.Smooth actions := by
  rw [Smooth, run, List.forall_mem_cons]
  rfl

theorem smooth_append {a b : List Action} :
    i.Smooth (a ++ b) ↔ i.Smooth a ∧ (i.after a).Smooth b := by
  induction a generalizing i with
  | nil => exact ⟨fun h => ⟨nofun, h⟩, And.right⟩
  | cons action a ih => rw [List.cons_append, smooth_cons, smooth_cons, ih, after_cons, and_assoc]

/-- Arrivals go to the end of the queue, and none is refused. -/
theorem after_enqueue (i : Intake) (batch : List Sighting) :
    i.after (batch.map .enqueue) = ⟨i.observation, i.queue ++ batch⟩ ∧
      i.Smooth (batch.map .enqueue) := by
  induction batch generalizing i with
  | nil => exact ⟨by rw [List.append_nil]; rfl, nofun⟩
  | cons s batch ih =>
    obtain ⟨hafter, hsmooth⟩ := ih ⟨i.observation, i.queue ++ [s]⟩
    rw [List.map_cons, after_cons, smooth_cons]
    refine ⟨hafter.trans ?_, rfl, hsmooth⟩
    rw [List.append_assoc]
    rfl

theorem rounds_cons (deadline : Instant) (batch : List Sighting) (later : List (List Sighting)) :
    rounds deadline (batch :: later) = rounds deadline [batch] ++ rounds deadline later := by
  rw [rounds, rounds, rounds, List.flatMap_cons, List.flatMap_singleton]

theorem after_rounds_cons (i : Intake) (batch : List Sighting) (later : List (List Sighting)) :
    i.after (rounds deadline (batch :: later)) =
      (i.round deadline batch).after (rounds deadline later) := by
  rw [rounds_cons, after_append]
  rfl

theorem smooth_rounds_cons :
    i.Smooth (rounds deadline (batch :: later)) ↔
      i.Smooth (rounds deadline [batch]) ∧
        (i.round deadline batch).Smooth (rounds deadline later) := by
  rw [rounds_cons, smooth_append]
  rfl

/-! ### What rounds come to -/

/-- In a round all that is in time is taken, and at most one late sighting is lost. -/
theorem after_round (deadline : Instant)
    (horder : (i.queue ++ batch).Pairwise (·.instant ≤ ·.instant)) :
    (i.Smooth (rounds deadline [batch]) ↔
        i.observation.state.Climbs ((timely deadline (i.queue ++ batch)).map (·.state))) ∧
      (i.Smooth (rounds deadline [batch]) →
        i.round deadline batch = ⟨i.observation.after (timely deadline (i.queue ++ batch)),
          (overdue deadline (i.queue ++ batch)).tail⟩) := by
  have hrounds : rounds deadline [batch] = batch.map .enqueue ++ [.drainUntil deadline] :=
    List.flatMap_singleton ..
  obtain ⟨hqueued, hsmooth⟩ := i.after_enqueue batch
  obtain ⟨hclimbs, hdrained⟩ := i.observation.drainUntil_of_order deadline horder
  have hround : i.Smooth (rounds deadline [batch]) ↔
      (i.observation.drainUntil deadline (i.queue ++ batch)).refusal = none := by
    rw [hrounds, smooth_append, hqueued, smooth_cons]
    exact ⟨fun h => h.2.1, fun h => ⟨hsmooth, h, nofun⟩⟩
  refine ⟨hround.trans hclimbs, fun h => ?_⟩
  rw [round, hrounds, after_append, hqueued]
  show (ofDrained (i.observation.drainUntil deadline (i.queue ++ batch))).2 = _
  rw [hdrained (hround.1 h)]
  rfl

/-- What a round leaves in the queue is late. -/
theorem round_leaves (deadline : Instant)
    (horder : (i.queue ++ batch).Pairwise (·.instant ≤ ·.instant)) (rest : List Sighting)
    (hsmooth : i.Smooth (rounds deadline [batch])) :
    timely deadline ((i.round deadline batch).queue ++ rest) = timely deadline rest ∧
      overdue deadline ((i.round deadline batch).queue ++ rest) =
        (overdue deadline (i.queue ++ batch)).tail ++ overdue deadline rest := by
  rw [(after_round deadline horder).2 hsmooth]
  exact timely_late_append (fun s hs => lt_of_mem_overdue (List.mem_of_mem_tail hs)) rest

/-- After some rounds, all that was in time has been taken, and of the late sightings that arrived
no more than one a round is gone. -/
theorem after_rounds (hturn : i.InTurn deadline (batch :: later)) :
    (i.Smooth (rounds deadline (batch :: later)) ↔ i.observation.state.Climbs
        ((timely deadline (i.queue ++ (batch :: later).flatten)).map (·.state))) ∧
      (i.Smooth (rounds deadline (batch :: later)) →
        (i.after (rounds deadline (batch :: later))).observation =
            i.observation.after (timely deadline (i.queue ++ (batch :: later).flatten)) ∧
          ∃ lost, lost.length ≤ later.length + 1 ∧
            overdue deadline (i.queue ++ (batch :: later).flatten) =
              lost ++ (i.after (rounds deadline (batch :: later))).queue) := by
  induction later generalizing i batch with
  | nil =>
    obtain ⟨hclimbs, hafter⟩ := after_round deadline hturn.1
    rw [List.flatten_singleton]
    refine ⟨hclimbs, fun hsmooth => ?_⟩
    have hround : i.after (rounds deadline [batch]) = _ := hafter hsmooth
    rw [hround]
    refine ⟨rfl, (overdue deadline (i.queue ++ batch)).take 1, List.length_take_le .., ?_⟩
    rw [← List.drop_one, List.take_append_drop]
  | cons next later ih =>
    obtain ⟨horder, hturn⟩ := hturn
    obtain ⟨hclimbs, hafter⟩ := after_round deadline horder
    obtain ⟨hclimbs', hafter'⟩ := ih hturn
    have hleaves := round_leaves deadline horder (next :: later).flatten
    have harrived : i.queue ++ (batch :: next :: later).flatten =
        (i.queue ++ batch) ++ (next :: later).flatten := by
      rw [List.flatten_cons, List.append_assoc]
    rw [smooth_rounds_cons, harrived]
    generalize i.queue ++ batch = first at *
    rw [timely_append, overdue_append, List.map_append, Connectivity.climbs_append, ← hclimbs]
    constructor
    · refine and_congr_right fun hfirst => ?_
      rw [hclimbs', (hleaves hfirst).1, hafter hfirst]
      rfl
    · rintro ⟨hfirst, hlater⟩
      obtain ⟨hobservation, lost, hlost, hoverdue⟩ := hafter' hlater
      have hbegun : (i.round deadline batch).observation =
          i.observation.after (timely deadline first) := by
        rw [hafter hfirst]
      rw [(hleaves hfirst).1, hbegun, ← Observation.after_append] at hobservation
      rw [(hleaves hfirst).2] at hoverdue
      rw [after_rounds_cons, hobservation]
      refine ⟨rfl, (overdue deadline first).take 1 ++ lost, ?_, ?_⟩
      · have htake := List.length_take_le 1 (overdue deadline first)
        rw [List.length_append, List.length_cons]
        omega
      · rw [List.append_assoc, ← hoverdue, ← List.append_assoc, ← List.drop_one,
          List.take_append_drop]

/-- What a round leaves in the queue is the end of what was there, also if it ends in a refusal. -/
theorem round_queue_suffix (deadline : Instant) (batch : List Sighting) (i : Intake) :
    (i.round deadline batch).queue <:+ i.queue ++ batch := by
  have hround : (i.round deadline batch).queue =
      (i.observation.drainBy (i.queue ++ batch) (some deadline)).rest := by
    rw [round, rounds, List.flatMap_singleton, after_append, (i.after_enqueue batch).1]
    rfl
  rw [hround]
  obtain ⟨taken, -, ⟨-, hall⟩ | ⟨s, rest, hqueue, ⟨-, hstop⟩ | ⟨-, -, hstop⟩⟩⟩ :=
    i.observation.drainBy_cases (some deadline) (i.queue ++ batch)
  · rw [hall]
    exact List.nil_suffix
  · rw [hstop, hqueue]
    exact ⟨taken ++ [s], List.append_assoc ..⟩
  · rw [hstop, hqueue]
    exact ⟨taken ++ [s], List.append_assoc ..⟩

/-- What arrives in the order of time arrives in turn. -/
theorem inTurn_of_order {batches : List (List Sighting)}
    (h : (i.queue ++ batches.flatten).Pairwise (·.instant ≤ ·.instant)) :
    i.InTurn deadline batches := by
  induction batches generalizing i with
  | nil => trivial
  | cons batch later ih =>
    rw [List.flatten_cons, ← List.append_assoc] at h
    have hleft := (round_queue_suffix deadline batch i).sublist.append_right later.flatten
    exact ⟨(List.pairwise_append.1 h).1, ih (h.sublist hleft)⟩

/-- **How often a queue is drained does not matter.**  As long as what arrives is not earlier than
what is queued then, draining the queue again and again up to one deadline meets no refusal exactly
if what arrived in time climbs.  Then the first time takes all of the queue before the first late
sighting, and all times together take what arrived in time, each sighting once and in its order.
Nothing else is lost than late sightings, no more than one each time. -/
theorem rounds_settled (hturn : i.InTurn deadline ([] :: later)) :
    let arrived := i.queue ++ later.flatten
    let actions := .drainUntil deadline :: rounds deadline later
    (i.Smooth actions ↔ i.observation.state.Climbs ((timely deadline arrived).map (·.state))) ∧
      (i.Smooth [.drainUntil deadline] →
        (i.after [.drainUntil deadline]).observation =
          i.observation.after (i.queue.takeWhile (·.instant ≤ deadline))) ∧
      (i.Smooth actions →
        (i.after actions).observation = i.observation.after (timely deadline arrived) ∧
          ∃ lost, lost.length ≤ later.length + 1 ∧
            overdue deadline arrived = lost ++ (i.after actions).queue) := by
  intro arrived actions
  have horder : (i.queue ++ ([] : List Sighting)).Pairwise (·.instant ≤ ·.instant) := hturn.1
  obtain ⟨hclimbs, hafter⟩ := after_rounds hturn
  refine ⟨hclimbs, fun hfirst => ?_, hafter⟩
  have hround := (after_round deadline horder).2 hfirst
  rw [List.append_nil] at horder hround
  rw [takeWhile_instant_le horder]
  exact congrArg observation hround

/-- The rounds in which the device is seen again at the deadline, and once more after it. -/
theorem rounds_settled_atDeadline :
    let i : Intake := ⟨.start 0, [⟨.awaitingReconnect, 4900⟩]⟩
    let later : List (List Sighting) :=
      [[⟨.reconnected, 5000⟩, ⟨.awaitingReconnect, 5001⟩, ⟨.reconnected, 5001⟩], [],
        [⟨.reconnected, 6000⟩]]
    i.InTurn 5000 ([] :: later) ∧
      (i.after (.drainUntil 5000 :: rounds 5000 later)).observation =
        i.observation.after [⟨.awaitingReconnect, 4900⟩, ⟨.reconnected, 5000⟩] := by
  intro i later
  have hturn : i.InTurn 5000 ([] :: later) := inTurn_of_order (by decide)
  have hclimbs : i.observation.state.Climbs
      ((timely 5000 (i.queue ++ later.flatten)).map (·.state)) := by
    show List.IsPrefix _ _
    decide
  obtain ⟨hsmooth, -, hafter⟩ := rounds_settled hturn
  exact ⟨hturn, (hafter (hsmooth.2 hclimbs)).1⟩

end Intake

end ResetCheck
