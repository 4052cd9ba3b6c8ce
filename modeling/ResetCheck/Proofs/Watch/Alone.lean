import ResetCheck.Proofs.Watch.Step

/-!
# The watch left alone

A watch takes its steps at instants that it does not choose, and letting time pass only makes it
take the steps that are due.  So whatever a listener does in between, the watch ends up as it would
if it were left alone from the start.

* `Watch.alone`: the watch after all its steps, or stuck in a wait that has no end.
* `Watch.alone_runUntil`: letting time pass does not change what becomes of the watch.
* `Watch.queue_runUntil`: at an instant the queue holds the sightings up to that instant, out of all
  that the watch makes if it is left alone.
-/

namespace ResetCheck

namespace Watch

variable {σ : Type} [Device σ] {w : Watch σ} {d t : Instant}

/-! ## All steps -/

/-- The watch after all its steps, or stuck in a wait that has no end. -/
def alone (w : Watch σ) : Watch σ :=
  match hd : w.due? with
  | some _ =>
    have := stepsLeft_step hd
    w.step.alone
  | none => w
termination_by w.phase.stepsLeft

theorem alone_of_due (h : w.due? = some d) : w.alone = w.step.alone := by
  rw [alone]
  split
  · rfl
  · simp_all

theorem alone_of_idle (h : w.due? = none) : w.alone = w := by
  rw [alone]
  split
  · simp_all
  · rfl

/-- Induction along the steps of a watch. -/
@[elab_as_elim]
theorem stepInduction {motive : Watch σ → Prop} (w : Watch σ)
    (idle : ∀ w, w.due? = none → motive w)
    (due : ∀ w d, w.due? = some d → motive w.step → motive w) : motive w := by
  induction hn : w.phase.stepsLeft using Nat.strongRecOn generalizing w with
  | ind n ih =>
    cases hd : w.due? with
    | none => exact idle w hd
    | some d => exact due w d hd (ih _ (hn ▸ stepsLeft_step hd) w.step rfl)

theorem stepsUntil_of_stepsLeft_le {n m : Nat} (hn : w.phase.stepsLeft ≤ n)
    (hm : w.phase.stepsLeft ≤ m) : stepsUntil t n w = stepsUntil t m w := by
  induction w using stepInduction generalizing n m with
  | idle w h => cases n <;> cases m <;> simp [stepsUntil, h]
  | due w d h ih =>
    have hlt := stepsLeft_step h
    obtain ⟨n, rfl⟩ : ∃ k, n = k + 1 := ⟨n - 1, by omega⟩
    obtain ⟨m, rfl⟩ : ∃ k, m = k + 1 := ⟨m - 1, by omega⟩
    simp only [stepsUntil, h]
    rw [ih (n := n) (m := m) (by omega) (by omega)]

/-- A step that is due is taken first. -/
theorem runUntil_of_due (h : w.due? = some d) (hd : d ≤ t) : w.runUntil t = w.step.runUntil t := by
  have hlt := stepsLeft_step h
  have hsteps : stepsUntil t w.phase.stepsLeft w = stepsUntil t w.step.phase.stepsLeft w.step := by
    obtain ⟨n, hn⟩ : ∃ n, w.phase.stepsLeft = n + 1 := ⟨w.phase.stepsLeft - 1, by omega⟩
    rw [hn]
    simp only [stepsUntil, h, if_pos hd]
    exact stepsUntil_of_stepsLeft_le (by omega) (Nat.le_refl _)
  rw [runUntil, runUntil, hsteps]

/-- If no step is due, only the clock goes on. -/
theorem runUntil_of_idle (h : ∀ d, w.due? = some d → t < d) : w.runUntil t = w.clockAt t := by
  have hsteps : ∀ n, stepsUntil t n w = w := by
    intro n
    cases n with
    | zero => rfl
    | succ n =>
      cases hd : w.due? with
      | none => simp [stepsUntil, hd]
      | some d => simp [stepsUntil, hd, Int.not_le.2 (h d hd)]
  rw [runUntil, hsteps]
  rfl

/-- What happens until an instant: either a step is due by then and is taken, or only the clock
goes on. -/
@[elab_as_elim]
theorem runInduction {motive : Watch σ → Prop} (t : Instant) (w : Watch σ)
    (idle : ∀ w, (∀ d, w.due? = some d → t < d) → motive w)
    (due : ∀ w d, w.due? = some d → d ≤ t → motive w.step → motive w) : motive w := by
  induction w using stepInduction with
  | idle w h => exact idle w fun d hd => absurd (h.symm.trans hd) (by simp)
  | due w d h ih =>
    by_cases hd : d ≤ t
    · exact due w d h hd ih
    · refine idle w fun d' hd' => ?_
      obtain rfl : d = d' := Option.some.inj (h.symm.trans hd')
      exact Int.not_le.1 hd

/-! ## What time changes -/

theorem runUntil_now : (w.runUntil t).now = max w.now t := by
  induction w using runInduction (σ := σ) t with
  | idle w h => rw [runUntil_of_idle h]; rfl
  | due w d h hd ih =>
    have hle := now_le_due? h
    rw [runUntil_of_due h hd, ih, step_now h, Int.max_eq_right hd,
      Int.max_eq_right (Int.le_trans hle hd)]

/-- After time went on until an instant, nothing is left that was due by then. -/
theorem lt_due?_runUntil : ∀ d, (w.runUntil t).due? = some d → t < d := by
  induction w using runInduction (σ := σ) t with
  | idle w h =>
    intro d hd
    rw [runUntil_of_idle h, due?_clockAt fun d hd => Int.le_of_lt (h d hd)] at hd
    exact h d hd
  | due w d h hd ih => rwa [runUntil_of_due h hd]

theorem stepsLeft_runUntil_le : (w.runUntil t).phase.stepsLeft ≤ w.phase.stepsLeft := by
  induction w using runInduction (σ := σ) t with
  | idle w h => rw [runUntil_of_idle h]; exact Nat.le_refl _
  | due w d h hd ih =>
    rw [runUntil_of_due h hd]
    exact Nat.le_trans ih (Nat.le_of_lt (stepsLeft_step h))

theorem stepsLeft_runUntil_lt (h : w.due? = some d) (hd : d ≤ t) :
    (w.runUntil t).phase.stepsLeft < w.phase.stepsLeft := by
  rw [runUntil_of_due h hd]
  exact Nat.lt_of_le_of_lt stepsLeft_runUntil_le (stepsLeft_step h)

theorem now_le_alone : w.now ≤ w.alone.now := by
  induction w using stepInduction with
  | idle w h => exact Int.le_of_eq (congrArg Watch.now (alone_of_idle h).symm)
  | due w d h ih =>
    rw [alone_of_due h]
    rw [step_now h] at ih
    exact Int.le_trans (now_le_due? h) ih

theorem due?_le_alone (h : w.due? = some d) : d ≤ w.alone.now := by
  rw [alone_of_due h, ← step_now h]
  exact now_le_alone

/-- All further sightings of a watch come when its next step is due, or later. -/
theorem exists_alone_queue :
    ∃ later, w.alone.queue = w.queue ++ later ∧
      ∀ s ∈ later, ∃ d, w.due? = some d ∧ d ≤ s.instant := by
  induction w using stepInduction with
  | idle w h => exact ⟨[], by rw [alone_of_idle h, List.append_nil], by simp⟩
  | due w d h ih =>
    obtain ⟨new, hnew, hinst⟩ := step_queue h
    obtain ⟨later, hlater, hdue⟩ := ih
    refine ⟨new ++ later, by rw [alone_of_due h, hlater, hnew, List.append_assoc], ?_⟩
    intro s hs
    refine ⟨d, h, ?_⟩
    rcases List.mem_append.1 hs with hs | hs
    · exact Int.le_of_eq (hinst s hs).symm
    · obtain ⟨d', hd', hle⟩ := hdue s hs
      have := now_le_due? hd'
      rw [step_now h] at this
      exact Int.le_trans this hle

/-- What becomes of a watch is the same after time went on, but for a clock that went on past its
end. -/
theorem alone_runUntil : (w.runUntil t).alone = w.alone.clockAt t := by
  induction w using runInduction (σ := σ) t with
  | idle w h =>
    have hle : ∀ d, w.due? = some d → t ≤ d := fun d hd => Int.le_of_lt (h d hd)
    rw [runUntil_of_idle h]
    cases hd : w.due? with
    | none => rw [alone_of_idle hd, alone_of_idle ((due?_clockAt hle).trans hd)]
    | some d =>
      have hclock : w.alone.clockAt t = w.alone := by
        have hmax : max w.alone.now t = w.alone.now :=
          Int.max_eq_left (Int.le_trans (hle d hd) (due?_le_alone hd))
        rw [clockAt, hmax]
      rw [hclock, alone_of_due ((due?_clockAt hle).trans hd), alone_of_due hd,
        step_clockAt hd (hle d hd)]
  | due w d h hd ih => rw [runUntil_of_due h hd, ih, alone_of_due h]

/-- At an instant the queue holds what was seen by then. -/
theorem queue_runUntil (ht : w.now ≤ t) (hq : ∀ s ∈ w.queue, s.instant ≤ w.now) :
    (w.runUntil t).queue = w.alone.queue.filter (·.instant ≤ t) := by
  induction w using runInduction (σ := σ) t with
  | idle w h =>
    obtain ⟨later, hlater, hdue⟩ := exists_alone_queue (w := w)
    rw [runUntil_of_idle h, hlater, List.filter_append,
      List.filter_eq_self.2 fun s hs => by simpa using Int.le_trans (hq s hs) ht,
      List.filter_eq_nil_iff.2 fun s hs => ?_, List.append_nil]
    · rfl
    · obtain ⟨d, hd, hle⟩ := hdue s hs
      simpa using Int.lt_of_lt_of_le (h d hd) hle
  | due w d h hd ih =>
    rw [runUntil_of_due h hd, alone_of_due h]
    refine ih (by rwa [step_now h]) fun s hs => ?_
    obtain ⟨new, hnew, hinst⟩ := step_queue h
    rw [step_now h]
    rw [hnew] at hs
    rcases List.mem_append.1 hs with hs | hs
    · exact Int.le_trans (hq s hs) (now_le_due? h)
    · exact Int.le_of_eq (hinst s hs)

/-! ## Taking from the queue -/

/-- The watch with earlier sightings before those in its queue. -/
def withEarlier (w : Watch σ) (earlier : List Sighting) : Watch σ :=
  { w with queue := earlier ++ w.queue }

/-- The watch with nothing in its queue. -/
def emptied (w : Watch σ) : Watch σ :=
  { w with queue := [] }

omit [Device σ] in
theorem withEarlier_emptied : w.emptied.withEarlier w.queue = w := by
  simp [withEarlier, emptied]

theorem due?_withEarlier (earlier : List Sighting) : (w.withEarlier earlier).due? = w.due? := rfl

theorem due?_emptied : w.emptied.due? = w.due? := rfl

theorem finishWait_withEarlier (earlier : List Sighting) (wait : Wait) (state : Connectivity)
    (next : Instant → Phase) :
    (w.withEarlier earlier).finishWait wait state next =
      (w.finishWait wait state next).withEarlier earlier := by
  rcases h : Device.await w.device wait with ⟨_ | answer, device⟩
  · have h' : Device.await (w.withEarlier earlier).device wait = (none, device) := h
    rw [finishWait, h', finishWait, h]
  · rw [finishWait_of_await h, finishWait_of_await (w := w.withEarlier earlier) h]
    dsimp only
    split
    · rw [publish, publish]
      cases hw : w.heard <;> simp [withEarlier, endOf, hw]
    · rfl

theorem step_withEarlier (earlier : List Sighting) :
    (w.withEarlier earlier).step = w.step.withEarlier earlier := by
  obtain ⟨device, times, phase, queue, heard, now, calls⟩ := w
  cases phase with
  | unstarted => rfl
  | awaitingGone since =>
    exact finishWait_withEarlier _ _ .awaitingReconnect fun t => .settling (t.wake times.settle)
  | settling finish => rfl
  | awaitingBack since => exact finishWait_withEarlier _ _ .reconnected fun _ => .ended
  | ended => rfl

theorem alone_withEarlier (earlier : List Sighting) :
    (w.withEarlier earlier).alone = w.alone.withEarlier earlier := by
  induction w using stepInduction with
  | idle w h => rw [alone_of_idle h, alone_of_idle ((due?_withEarlier _).trans h)]
  | due w d h ih =>
    rw [alone_of_due h, alone_of_due ((due?_withEarlier _).trans h), step_withEarlier, ih]

/-- Taking what is queued does not change what becomes of the watch. -/
theorem alone_eq_emptied : w.alone = w.emptied.alone.withEarlier w.queue := by
  rw [← alone_withEarlier, withEarlier_emptied]

/-- What is seen in all is what is queued and what is yet to be seen. -/
theorem alone_queue_eq : w.alone.queue = w.queue ++ w.emptied.alone.queue :=
  congrArg Watch.queue alone_eq_emptied

/-- What is yet to be seen is seen when the next step is due, or later. -/
theorem due?_le_of_mem_alone {s : Sighting} (hs : s ∈ w.emptied.alone.queue) :
    ∃ d, w.due? = some d ∧ d ≤ s.instant := by
  obtain ⟨later, hlater, hdue⟩ := exists_alone_queue (w := w.emptied)
  exact hdue s (by rwa [hlater] at hs)

/-! ## The end of a watch -/

/-- When the watch ends, unless it is stuck in a wait that has no end. -/
def end? (w : Watch σ) : Option Instant :=
  if w.alone.isFinished then some w.alone.now else none

theorem end?_of_due (h : w.due? = some d) : w.end? = w.step.end? := by
  rw [end?, end?, alone_of_due h]

theorem end?_emptied : w.emptied.end? = w.end? := by
  rw [end?, end?, alone_eq_emptied (w := w)]
  rfl

omit [Device σ] in
theorem isFinished_of_stepsLeft (h : w.phase.stepsLeft = 0) : w.isFinished := by
  cases hp : w.phase <;> simp_all [isFinished, Phase.stepsLeft]

theorem alone_of_isFinished (h : w.isFinished) : w.alone = w := by
  refine alone_of_idle ?_
  rw [due?, show w.phase = .ended by simpa [isFinished] using h]

theorem end?_of_isFinished (h : w.isFinished) : w.end? = some w.now := by
  rw [end?, alone_of_isFinished h, if_pos h]

/-- A watch that is not at its end ends when its next step is due, or later. -/
theorem due?_le_end? {e : Instant} (he : w.end? = some e) (h : w.due? = some d) : d ≤ e := by
  rw [end?] at he
  split at he
  · exact Option.some.inj he ▸ due?_le_alone h
  · cases he

theorem end?_runUntil (h : w.due? = some t) : (w.runUntil t).end? = w.end? := by
  rw [end?, end?, alone_runUntil, clockAt_of_le (due?_le_alone h)]

/-! ## Sleeping and executing -/

theorem sleep_now (a : Span) : (w.sleep a).now = w.now.wake a := by
  rw [sleep]
  split
  · next h => rw [Instant.wake_of_nanos_eq_zero h]
  · rw [runUntil_now, Int.max_eq_right (Instant.le_wake _ _)]

theorem alone_sleep (a : Span) : (w.sleep a).alone = w.alone.clockAt (w.now.wake a) := by
  rw [sleep]
  split
  · next h => rw [Instant.wake_of_nanos_eq_zero h, clockAt_of_le now_le_alone]
  · exact alone_runUntil

theorem pass_now (n : Nat) : (w.pass n).now = w.now + n := by
  rw [pass]
  split
  · next h => rw [h]; exact (Int.add_zero _).symm
  · rw [runUntil_now, Int.max_eq_right (Int.le_add_of_nonneg_right (Int.natCast_nonneg n))]

theorem alone_pass (n : Nat) : (w.pass n).alone = w.alone.clockAt (w.now + n) := by
  rw [pass]
  split
  · next h =>
    subst h
    exact (clockAt_of_le (Int.le_trans (Int.le_of_eq (Int.add_zero w.now)) now_le_alone)).symm
  · exact alone_runUntil

/-- A clock that went on past the end of a watch puts off its end. -/
theorem end?_of_clockAt {v : Watch σ} (h : v.alone = w.alone.clockAt t) :
    v.end? = w.end?.map (max · t) := by
  have hfin : v.alone.isFinished = w.alone.isFinished := by rw [h]; rfl
  rw [end?, end?, hfin]
  split
  · rw [h]
    rfl
  · rfl

/-- After some time went on, nothing is left that was due by then. -/
theorem lt_due?_pass {n : Nat} (hn : n ≠ 0) :
    ∀ d, (w.pass n).due? = some d → (w.pass n).now < d := by
  have hrun : w.pass n = w.runUntil (w.now + n) := if_neg hn
  rw [pass_now, hrun]
  exact lt_due?_runUntil

theorem lt_due?_sleep {a : Span} (ha : a.nanos ≠ 0) :
    ∀ d, (w.sleep a).due? = some d → (w.sleep a).now < d := by
  have hrun : w.sleep a = w.runUntil (w.now.wake a) := if_neg ha
  rw [sleep_now, hrun]
  exact lt_due?_runUntil

/-- What the device replies if it gets a command now. -/
def reply (w : Watch σ) (command : String) : Reply :=
  (Device.execute w.device w.now command).1

/-- The watch right after a command was issued. -/
def issue (w : Watch σ) (command : String) : Watch σ :=
  { w with
    device := (Device.execute w.device w.now command).2
    calls := w.calls ++ [Call.execute command w.now] }

theorem execute_eq (command : String) :
    w.execute command =
      ((w.reply command).result, (w.issue command).pass (w.reply command).after) := rfl

end Watch

end ResetCheck
