import ResetCheck.Proofs.Watch.Coherent
import ResetCheck.Session

/-!
# Following a watch

A session that follows a watch takes what is queued, lets time pass until the next step of the
watch or until its timer goes off, and begins again.  What it has in the end does not depend on
these turns: it has every sighting up to the deadline, and those that were made before it began.

* `Session.followWithin_eq`: what following gives, and when it ends.
* `Session.takeQueued_eq`: taking what is queued never meets a refusal.
-/

namespace ResetCheck

namespace Session

variable {σ : Type} [Device σ] {w : Watch σ} {taken : List Sighting}
  {issued deadline timer : Instant}

/-! ## Taking what is queued -/

omit [Device σ] in
theorem takeQueued_eq (issued : Instant) (h : w.Coherent taken) :
    takeQueued ((Observation.start issued).after taken) w =
      (.ok ((Observation.start issued).after (taken ++ w.queue)), w.emptied) := by
  have hclimbs := h.climbs
  rw [List.map_append, Connectivity.climbs_append] at hclimbs
  rw [takeQueued, Observation.drain_of_climbs hclimbs.2, ← Observation.after_append]
  rfl

/-- At the timer, what was seen up to the deadline is taken. -/
theorem waitOut_eq (issued : Instant) (h : w.Coherent taken) (hle : deadline ≤ timer) :
    (waitOut ((Observation.start issued).after taken) deadline timer w).1 =
        .ok ((Observation.start issued).after
          (taken ++ w.alone.queue.filter (·.instant ≤ deadline))) ∧
      (waitOut ((Observation.start issued).after taken) deadline timer w).2.now =
        max w.now timer := by
  have hpast : ∀ s ∈ w.queue, s.instant ≤ w.now :=
    fun s hs => h.past s (List.mem_append_right _ hs)
  have hrun := h.runUntil (max w.now timer)
  have hinTime : (w.runUntil (max w.now timer)).queue.takeWhile (·.instant ≤ deadline) =
      w.alone.queue.filter (·.instant ≤ deadline) := by
    rw [takeWhile_instant_le (List.pairwise_append.1 hrun.order).2.1,
      Watch.queue_runUntil (Int.le_max_left _ _) hpast, List.filter_filter]
    refine List.filter_congr fun s _ => ?_
    rw [← Bool.decide_and]
    exact decide_eq_decide.2 ⟨And.left, fun hs =>
      ⟨hs, Int.le_trans hs (Int.le_trans hle (Int.le_max_right _ _))⟩⟩
  have hclimbs := hrun.climbs
  rw [List.map_append, Connectivity.climbs_append] at hclimbs
  obtain ⟨hseen, hrefusal⟩ := Observation.drainUntil_of_climbs
    (o := (Observation.start issued).after taken) deadline hclimbs.2
  rw [hinTime, ← Observation.after_append] at hseen
  rw [waitOut, takeInTime, handOn, hrefusal]
  refine ⟨congrArg Except.ok hseen, ?_⟩
  show (w.runUntil (max w.now timer)).now = max w.now timer
  rw [Watch.runUntil_now]
  exact Int.max_eq_right (Int.le_max_left _ _)

/-! ## Following to the end -/

/-- At the end of the watch the session is over. -/
theorem followWithin_of_isFinished {n : Nat} (h : w.Coherent taken) (hfin : w.isFinished) :
    followWithin deadline timer n ((Observation.start issued).after taken) w =
      (.ok ((Observation.start issued).after (taken ++ w.queue)), w.emptied) := by
  cases n with
  | zero => exact takeQueued_eq issued h
  | succ n =>
    have hfin' : w.emptied.isFinished := hfin
    rw [followWithin, takeQueued_eq issued h]
    dsimp only
    rw [hfin', Bool.or_true, if_pos rfl]

theorem followWithin_isFinished_eq {n : Nat} (h : w.Coherent taken) (hfin : w.isFinished) :
    (followWithin deadline timer n ((Observation.start issued).after taken) w).1 =
        .ok ((Observation.start issued).after
          (taken ++ w.alone.queue.filter (·.instant ≤ max w.now deadline))) ∧
      (followWithin deadline timer n ((Observation.start issued).after taken) w).2.now =
        max w.now (w.end?.elim timer (min · timer)) := by
  have hpast : ∀ s ∈ w.queue, s.instant ≤ max w.now deadline := fun s hs =>
    Int.le_trans (h.past s (List.mem_append_right _ hs)) (Int.le_max_left _ _)
  rw [followWithin_of_isFinished h hfin, Watch.alone_of_isFinished hfin,
    Watch.end?_of_isFinished hfin, List.filter_eq_self.2 fun s hs => by simpa using hpast s hs]
  exact ⟨rfl, (Int.max_eq_left (Int.min_le_left _ _)).symm⟩

/-- A listener that has taken what is queued when its time is over gets what is yet to be seen up to
the deadline. -/
theorem filter_alone_deadline (hpast : ∀ s ∈ w.queue, s.instant ≤ w.now)
    (hdue : w.now ≤ deadline ∨ ∀ d, w.due? = some d → w.now < d) :
    w.queue ++ w.emptied.alone.queue.filter (·.instant ≤ deadline) =
      w.alone.queue.filter (·.instant ≤ max w.now deadline) := by
  have hqueue : w.queue.filter (·.instant ≤ max w.now deadline) = w.queue :=
    List.filter_eq_self.2 fun s hs => by
      simpa using Int.le_trans (hpast s hs) (Int.le_max_left _ _)
  rw [Watch.alone_queue_eq (w := w), List.filter_append, hqueue]
  refine congrArg (w.queue ++ ·) (List.filter_congr fun s hs => decide_eq_decide.2 ?_)
  obtain ⟨d, hd, hle⟩ := Watch.due?_le_of_mem_alone hs
  rcases hdue with hnow | hdue
  · rw [Int.max_eq_right hnow]
  · have := hdue d hd
    grind

/-- Waiting for the timer after the queue was taken. -/
theorem waitOut_emptied_eq (issued : Instant) (h : w.Coherent taken) (hle : deadline ≤ timer)
    (hdue : w.now ≤ deadline ∨ ∀ d, w.due? = some d → w.now < d) :
    (waitOut ((Observation.start issued).after (taken ++ w.queue)) deadline timer w.emptied).1 =
        .ok ((Observation.start issued).after
          (taken ++ w.alone.queue.filter (·.instant ≤ max w.now deadline))) ∧
      (waitOut ((Observation.start issued).after (taken ++ w.queue)) deadline timer
        w.emptied).2.now = max w.now timer := by
  have hpast : ∀ s ∈ w.queue, s.instant ≤ w.now :=
    fun s hs => h.past s (List.mem_append_right _ hs)
  obtain ⟨hout, hnow⟩ := waitOut_eq issued h.takeQueue hle
  rw [List.append_assoc, filter_alone_deadline hpast hdue] at hout
  exact ⟨hout, hnow⟩

/-- A session that is not at the end of its watch goes on to the next step or to the timer. -/
theorem followWithin_of_not_isFinished (issued : Instant) {n : Nat} (h : w.Coherent taken)
    (hfin : ¬w.isFinished) :
    followWithin deadline timer (n + 1) ((Observation.start issued).after taken) w =
      match w.due? with
      | none =>
        waitOut ((Observation.start issued).after (taken ++ w.queue)) deadline timer w.emptied
      | some next =>
        if timer ≤ max w.now next then
          waitOut ((Observation.start issued).after (taken ++ w.queue)) deadline timer w.emptied
        else
          followWithin deadline timer n ((Observation.start issued).after (taken ++ w.queue))
            (w.emptied.runUntil next) := by
  have hopen : (((Observation.start issued).after (taken ++ w.queue)).state.isTerminal ||
      w.emptied.isFinished) = false := by
    rw [Bool.or_eq_false_iff]
    exact ⟨Bool.eq_false_iff.2 fun hterm => hfin (h.isFinished_of_isTerminal hterm),
      Bool.eq_false_iff.2 hfin⟩
  rw [followWithin, takeQueued_eq issued h]
  dsimp only
  rw [hopen, if_neg Bool.false_ne_true, Watch.due?_emptied]
  rfl

/-- What following gives: all that was seen up to the deadline or before following began.  It ends
with the watch or with the timer, but not before it began. -/
theorem followWithin_eq (issued : Instant) (hle : deadline ≤ timer) (hlt : timer ≤ deadline + 1)
    {n : Nat} (h : w.Coherent taken) (hn : w.phase.stepsLeft ≤ n)
    (hdue : w.now ≤ deadline ∨ ∀ d, w.due? = some d → w.now < d) :
    (followWithin deadline timer n ((Observation.start issued).after taken) w).1 =
        .ok ((Observation.start issued).after
          (taken ++ w.alone.queue.filter (·.instant ≤ max w.now deadline))) ∧
      (followWithin deadline timer n ((Observation.start issued).after taken) w).2.now =
        max w.now (w.end?.elim timer (min · timer)) := by
  induction n generalizing w taken with
  | zero =>
    have hfin : w.isFinished := Watch.isFinished_of_stepsLeft (Nat.le_zero.1 hn)
    exact followWithin_isFinished_eq h hfin
  | succ n ih =>
    by_cases hfin : w.isFinished
    · exact followWithin_isFinished_eq h hfin
    rw [followWithin_of_not_isFinished issued h hfin]
    obtain ⟨hout, houtNow⟩ := waitOut_emptied_eq issued h hle hdue
    cases hd : w.due? with
    | none =>
      have hend : w.end? = none := by
        rw [Watch.end?, Watch.alone_of_idle hd, if_neg hfin]
      rw [hend]
      exact ⟨hout, houtNow⟩
    | some next =>
      have hnext : w.now ≤ next := Watch.now_le_due? hd
      have hend : ∀ e, w.end? = some e → next ≤ e := fun e he => Watch.due?_le_end? he hd
      dsimp only
      by_cases htimer : timer ≤ max w.now next
      · -- the timer goes off first, so the watch does not end before it
        rw [if_pos htimer]
        refine ⟨hout, houtNow.trans ?_⟩
        cases he : w.end? with
        | none => rfl
        | some e =>
          have := hend e he
          have hmin : min e timer = timer := by grind
          exact congrArg (max w.now) hmin.symm
      · -- the step comes first, and what is left to follow is what it left of the watch
        rw [if_neg htimer]
        have hlt' := Watch.stepsLeft_runUntil_lt (w := w.emptied) hd (Int.le_refl next)
        have hrun := h.takeQueue.runUntil next
        have hnow : (w.emptied.runUntil next).now = next := by
          rw [Watch.runUntil_now]
          exact Int.max_eq_right hnext
        obtain ⟨hseen, hnow'⟩ := ih hrun (Nat.le_of_lt_succ (Nat.lt_of_lt_of_le hlt' hn))
          (.inl (by rw [hnow]; grind))
        have hmax : max next deadline = deadline := by grind
        rw [hnow, hmax, Watch.alone_runUntil, List.append_assoc] at hseen
        refine ⟨hseen.trans ?_, hnow'.trans ?_⟩
        · have hpast : ∀ s ∈ w.queue, s.instant ≤ w.now :=
            fun s hs => h.past s (List.mem_append_right _ hs)
          rw [← filter_alone_deadline hpast hdue]
          rfl
        · rw [hnow, Watch.end?_runUntil (w := w.emptied) hd, Watch.end?_emptied]
          cases he : w.end? with
          | none =>
            simp only [Option.elim_none]
            grind
          | some e =>
            have := hend e he
            simp only [Option.elim_some]
            grind

end Session

end ResetCheck
