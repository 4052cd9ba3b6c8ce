import ResetCheck.Proofs.Watch.Record

/-!
# Listening to a watch

Whoever listens to a watch lets time pass and takes sightings off the queue in their order, and does
nothing else to it.  So what the watch asks and publishes in all is the same as if it were left
alone.

* `Watch.Takes`: one watch comes from another while a listener takes some sightings.
* `Watch.Takes.alone_queue`, `Watch.Takes.alone_calls`: what becomes of the watch is the same.
* `Watch.Takes.unstarted_or_lt_due?`: at each instant the watch has done what is due.
* `Watch.Takes.published_eq`, `Watch.Takes.waits_eq`: what was published and asked by now.
* `Watch.Takes.recorded`: what was taken and what is queued is what was published.
* `Watch.takes_receive`: waiting for a sighting is such listening.
-/

namespace ResetCheck

namespace Watch

variable {σ : Type} [Device σ] {w w' u : Watch σ} {times : WatchTimes}
  {origin : Instant} {got more seen taken rest : List Sighting}

/-- What a listener makes of a watch that lets time pass and takes sightings off the queue. -/
inductive Takes : Watch σ → List Sighting → Watch σ → Prop
  | refl (w : Watch σ) : Takes w [] w
  | runUntil {w w' : Watch σ} {got : List Sighting} (h : Takes w got w') (t : Instant) :
      Takes w got (w'.runUntil t)
  | take {w w' : Watch σ} {got rest : List Sighting} {s : Sighting} (h : Takes w got w')
      (hqueue : w'.queue = s :: rest) : Takes w (got ++ [s]) { w' with queue := rest }

namespace Takes

theorem trans (h : w.Takes got w') (h' : w'.Takes more u) : w.Takes (got ++ more) u := by
  induction h' with
  | refl => rwa [List.append_nil]
  | runUntil _ t ih => exact ih.runUntil t
  | take _ hqueue ih =>
    rw [← List.append_assoc]
    exact ih.take hqueue

/-- Taking several sightings. -/
theorem of_queue (h : w.queue = got ++ rest) : w.Takes got { w with queue := rest } := by
  induction got generalizing w with
  | nil =>
    obtain rfl : w.queue = rest := h
    exact .refl w
  | cons s got ih =>
    have hfirst : w.Takes [s] { w with queue := got ++ rest } := (refl w).take h
    exact hfirst.trans (ih (w := { w with queue := got ++ rest }) rfl)

theorem sleep (w : Watch σ) (a : Span) : w.Takes [] (w.sleep a) := by
  rw [Watch.sleep]
  split
  · exact .refl w
  · exact (refl w).runUntil _

theorem pass (w : Watch σ) (n : Nat) : w.Takes [] (w.pass n) := by
  rw [Watch.pass]
  split
  · exact .refl w
  · exact (refl w).runUntil _

/-! ## What listening does not change -/

theorem heard_eq (h : w.Takes got w') : w'.heard = w.heard := by
  induction h with
  | refl => rfl
  | runUntil _ t ih => rw [runUntil_heard, ih]
  | take _ _ ih => exact ih

theorem commands_eq (h : w.Takes got w') : w'.commands = w.commands := by
  induction h with
  | refl => rfl
  | runUntil _ t ih => rw [runUntil_commands, ih]
  | take _ _ ih => exact ih

/-- In all, the same is seen. -/
theorem alone_queue (h : w.Takes got w') : w.alone.queue = got ++ w'.alone.queue := by
  induction h with
  | refl => rfl
  | runUntil _ t ih =>
    rw [ih, alone_runUntil]
    rfl
  | @take w' got rest s _ hqueue ih =>
    have hrest : (Watch.alone { w' with queue := rest }).queue = rest ++ w'.emptied.alone.queue :=
      alone_queue_eq
    rw [ih, alone_queue_eq (w := w'), hrest, hqueue]
    simp

/-- In all, the same is asked. -/
theorem alone_calls (h : w.Takes got w') : w'.alone.calls = w.alone.calls := by
  induction h with
  | refl => rfl
  | runUntil _ t ih =>
    rw [← ih, alone_runUntil]
    rfl
  | take _ _ ih => rw [alone_calls_requeue, ih]

/-- Once the watch had a turn, nothing is left that was due by now. -/
theorem unstarted_or_lt_due? (h : w.Takes got w')
    (hw : w.phase = .unstarted ∨ ∀ d, w.due? = some d → w.now < d) :
    w'.phase = .unstarted ∨ ∀ d, w'.due? = some d → w'.now < d := by
  induction h with
  | refl => exact hw
  | @runUntil w' _ _ t ih =>
    by_cases ht : t < w'.now
    · have hle : ∀ d, w'.due? = some d → t < d :=
        fun d hd => Int.lt_of_lt_of_le ht (now_le_due? hd)
      rwa [runUntil_of_idle hle, clockAt_of_le (Int.le_of_lt ht)]
    · refine .inr fun d hd => ?_
      rw [runUntil_now, Int.max_eq_right (Int.not_lt.1 ht)]
      exact lt_due?_runUntil d hd
  | take _ _ ih => exact ih

/-- What was taken and what is queued is what was published. -/
theorem recorded (h : w.Takes got w') (hw : w.Recorded times origin (taken ++ w.queue)) :
    w'.Recorded times origin (taken ++ got ++ w'.queue) := by
  induction h with
  | refl => rwa [List.append_nil]
  | runUntil _ t ih =>
    obtain ⟨new, hqueue, -, hrun⟩ := ih.runUntil t
    rw [hqueue, ← List.append_assoc]
    exact hrun
  | take _ hqueue ih =>
    have hw' := ih
    rw [hqueue] at hw'
    simpa using hw'.requeue _

theorem recorded_queue (h : w.Takes got w') (hw : w.Recorded times origin w.queue) :
    w'.Recorded times origin (got ++ w'.queue) := by
  have hall : w.Recorded times origin ([] ++ w.queue) := hw
  exact h.recorded hall

/-- Out of all that the watch publishes if it is left alone, what is seen by now has been
published, whatever the listener took of it. -/
theorem published_eq (h : w.Takes got w') (hpast : ∀ s ∈ got ++ w'.queue, s.instant ≤ w'.now)
    (hdue : ∀ d, w'.due? = some d → w'.now < d) :
    got ++ w'.queue = w.alone.queue.filter (·.instant ≤ w'.now) := by
  obtain ⟨later, hlater, hinst⟩ := exists_alone_queue (w := w')
  have hnow : (got ++ w'.queue).filter (·.instant ≤ w'.now) = got ++ w'.queue :=
    List.filter_eq_self.2 fun s hs => by simpa using hpast s hs
  have hnone : later.filter (·.instant ≤ w'.now) = [] := by
    refine List.filter_eq_nil_iff.2 fun s hs => ?_
    obtain ⟨d, hd, hle⟩ := hinst s hs
    simpa using Int.lt_of_lt_of_le (hdue d hd) hle
  rw [h.alone_queue, hlater, ← List.append_assoc, List.filter_append, hnow, hnone, List.append_nil]

/-- Out of all that the watch asks if it is left alone, what is due by now has been asked. -/
theorem waits_eq (h : w.Takes got w') (hbegun : ∀ wait ∈ w'.waits, wait.since ≤ w'.now)
    (hdue : ∀ d, w'.due? = some d → w'.now < d) :
    w'.waits = w.alone.waits.filter (·.since ≤ w'.now) := by
  obtain ⟨later, hlater, hinst⟩ := exists_alone_calls (w := w')
  have hnow : w'.waits.filter (·.since ≤ w'.now) = w'.waits :=
    List.filter_eq_self.2 fun wait hwait => by simpa using hbegun wait hwait
  have hnone : (later.filterMap Call.wait?).filter (·.since ≤ w'.now) = [] := by
    refine List.filter_eq_nil_iff.2 fun wait hwait => ?_
    obtain ⟨c, hc, hcall⟩ := List.mem_filterMap.1 hwait
    obtain ⟨_, rfl, d, hd, hle⟩ := hinst c hc
    obtain rfl := Option.some.inj hcall
    simpa using Int.lt_of_lt_of_le (hdue d hd) hle
  have hwaits : w.alone.waits = w'.waits ++ later.filterMap Call.wait? := by
    rw [waits, ← h.alone_calls, hlater, List.filterMap_append]
    rfl
  rw [hwaits, List.filter_append, hnow, hnone, List.append_nil]

/-- A watch that nobody hears publishes nothing. -/
theorem unheard (h : w.Takes got w') (hheard : w.heard = false) (hqueue : w.queue = [])
    (hw : w.Recorded times origin seen) :
    got = [] ∧ w'.queue = [] ∧ w'.Recorded times origin seen := by
  induction h with
  | refl => exact ⟨rfl, hqueue, hw⟩
  | runUntil h t ih =>
    obtain ⟨hgot, hqueue', hw'⟩ := ih
    obtain ⟨new, hnew, hnone, hrun⟩ := hw'.runUntil t
    rw [h.heard_eq, hheard] at hnone
    obtain rfl : new = [] := by simpa using hnone
    rw [List.append_nil] at hnew hrun
    exact ⟨hgot, hnew.trans hqueue', hrun⟩
  | take _ hqueue' ih =>
    rw [ih.2.1] at hqueue'
    cases hqueue'

theorem isFinished (h : w.Takes got w') (hw : w.isFinished) : w'.isFinished := by
  induction h with
  | refl => exact hw
  | runUntil _ t ih =>
    rw [runUntil_of_idle]
    · exact ih
    · intro d hd
      rw [Watch.isFinished, decide_eq_true_eq] at ih
      rw [due?, ih] at hd
      cases hd
  | take _ _ ih => exact ih

end Takes

/-! ## Receiving -/

def Received.sighting? : Received → Option Sighting
  | sighting s => some s
  | _ => none

theorem takes_tryReceive (w : Watch σ) :
    w.Takes w.tryReceive.1.sighting?.toList w.tryReceive.2 := by
  rw [tryReceive]
  cases hqueue : w.queue with
  | nil => cases w.isFinished <;> exact .refl w
  | cons s rest => exact (Takes.refl w).take hqueue

theorem takes_receiveWithin (n : Nat) (w : Watch σ) :
    w.Takes (receiveWithin n w).1.sighting?.toList (receiveWithin n w).2 := by
  induction n generalizing w with
  | zero => exact takes_tryReceive w
  | succ n ih =>
    rw [receiveWithin]
    split
    · next d _ _ => exact ((Takes.refl w).runUntil d).trans (ih (w.runUntil d))
    · exact takes_tryReceive w

theorem takes_receive (w : Watch σ) : w.Takes w.receive.1.sighting?.toList w.receive.2 :=
  takes_receiveWithin _ w

omit [Device σ] in
/-- A watch is closed only if it has ended and nothing is queued. -/
theorem tryReceive_eq_closed (h : w.tryReceive.1 = .closed) :
    w.tryReceive.2.queue = [] ∧ w.tryReceive.2.isFinished := by
  rw [tryReceive] at h ⊢
  split at h
  · cases h
  · next hqueue =>
    split at h
    · next hfin => exact ⟨hqueue, hfin⟩
    · cases h

theorem receiveWithin_eq_closed {n : Nat} (h : (receiveWithin n w).1 = .closed) :
    (receiveWithin n w).2.queue = [] ∧ (receiveWithin n w).2.isFinished := by
  induction n generalizing w with
  | zero => exact tryReceive_eq_closed h
  | succ n ih =>
    rw [receiveWithin] at h ⊢
    split at h
    · exact ih h
    · exact tryReceive_eq_closed h

end Watch

end ResetCheck
