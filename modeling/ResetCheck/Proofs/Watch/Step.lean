import ResetCheck.Proofs.Instant
import ResetCheck.Watch

/-!
# One step of a watch

Each step of a watch is due at an instant, which is not before the clock.  It is taken at that
instant, whatever the clock did before, it makes no sighting but at that instant, and it brings the
watch closer to its end.

* `Watch.step_now`, `Watch.step_queue`: a step at its instant.
* `Watch.stepsLeft_step`: a step brings the end closer.
* `Watch.step_clockAt`: the next step does not depend on the clock.
-/

namespace ResetCheck

namespace Watch

variable {σ : Type} [Device σ] {w : Watch σ} {d t : Instant}

/-! ## One step -/

theorem finishWait_of_await {wait : Wait} {answer : WaitAnswer} {device : σ}
    (h : Device.await w.device wait = (some answer, device)) (state : Connectivity)
    (next : Instant → Phase) :
    w.finishWait wait state next =
      let w := { w with device, now := w.endOf wait answer }
      if answer.result = .reached then w.publish state (next w.now)
      else { w with phase := .ended } := by
  obtain ⟨after, result⟩ := answer
  rw [finishWait, h]
  cases result <;> simp

/-- A wait that ends has an answer, and ends when the answer says. -/
theorem exists_await_of_endOf? {wait : Wait} (h : w.endOf? wait = some d) :
    ∃ answer device, Device.await w.device wait = (some answer, device) ∧
      d = w.endOf wait answer := by
  rw [endOf?, Option.map_eq_some_iff] at h
  obtain ⟨answer, ha, rfl⟩ := h
  exact ⟨answer, (Device.await w.device wait).2, Prod.ext ha rfl, rfl⟩

theorem now_le_endOf? {wait : Wait} (h : w.endOf? wait = some d) : w.now ≤ d := by
  obtain ⟨answer, device, -, rfl⟩ := exists_await_of_endOf? h
  exact Int.le_max_left _ _

theorem now_le_due? (h : w.due? = some d) : w.now ≤ d := by
  obtain ⟨device, times, phase, queue, heard, now, calls⟩ := w
  cases phase with
  | unstarted => exact Int.le_of_eq (Option.some.inj h)
  | awaitingGone since => exact now_le_endOf? h
  | settling finish => exact Option.some.inj h ▸ Int.le_max_left _ _
  | awaitingBack since => exact now_le_endOf? h
  | ended => cases h

omit [Device σ] in
theorem publish_now (state : Connectivity) (next : Phase) : (w.publish state next).now = w.now := by
  unfold publish
  split <;> rfl

/-- A step that finishes a wait is taken when the wait ends. -/
theorem finishWait_now {wait : Wait} (h : w.endOf? wait = some d) (state : Connectivity)
    (next : Instant → Phase) : (w.finishWait wait state next).now = d := by
  obtain ⟨answer, device, ha, rfl⟩ := exists_await_of_endOf? h
  rw [finishWait_of_await ha]
  dsimp only
  split
  · rw [publish_now]
  · rfl

/-- A step is taken at the instant at which it is due. -/
theorem step_now (h : w.due? = some d) : w.step.now = d := by
  obtain ⟨device, times, phase, queue, heard, now, calls⟩ := w
  cases phase with
  | unstarted => exact Option.some.inj h
  | awaitingGone since => exact finishWait_now h _ _
  | settling finish => exact Option.some.inj h
  | awaitingBack since => exact finishWait_now h _ _
  | ended => cases h

/-- A step that finishes a wait makes at most one sighting, at its own instant. -/
theorem finishWait_queue {wait : Wait} (h : w.endOf? wait = some d) (state : Connectivity)
    (next : Instant → Phase) :
    ∃ new, (w.finishWait wait state next).queue = w.queue ++ new ∧ ∀ s ∈ new, s.instant = d := by
  obtain ⟨answer, device, ha, rfl⟩ := exists_await_of_endOf? h
  rw [finishWait_of_await ha]
  dsimp only
  split
  · rw [publish]
    split
    · exact ⟨_, rfl, by simp⟩
    · exact ⟨[], (List.append_nil _).symm, by simp⟩
  · exact ⟨[], (List.append_nil _).symm, by simp⟩

/-- What a step adds to the queue was seen at the instant of the step. -/
theorem step_queue (h : w.due? = some d) :
    ∃ new, w.step.queue = w.queue ++ new ∧ ∀ s ∈ new, s.instant = d := by
  obtain ⟨device, times, phase, queue, heard, now, calls⟩ := w
  cases phase with
  | unstarted => exact ⟨[], (List.append_nil _).symm, by simp⟩
  | awaitingGone since => exact finishWait_queue h _ _
  | settling finish => exact ⟨[], (List.append_nil _).symm, by simp⟩
  | awaitingBack since => exact finishWait_queue h _ _
  | ended => cases h

theorem finishWait_stepsLeft {wait : Wait} (h : w.endOf? wait = some d) (state : Connectivity)
    {next : Instant → Phase} {n : Nat} (hn : 0 < n) (hnext : ∀ t, (next t).stepsLeft < n) :
    (w.finishWait wait state next).phase.stepsLeft < n := by
  obtain ⟨answer, device, ha, -⟩ := exists_await_of_endOf? h
  rw [finishWait_of_await ha]
  dsimp only
  split
  · rw [publish]
    split
    · exact hnext _
    · exact hn
  · exact hn

theorem stepsLeft_step (h : w.due? = some d) : w.step.phase.stepsLeft < w.phase.stepsLeft := by
  obtain ⟨device, times, phase, queue, heard, now, calls⟩ := w
  cases phase with
  | unstarted => exact Nat.lt_succ_self 3
  | awaitingGone since =>
    exact finishWait_stepsLeft h _ (Nat.succ_pos 2) fun t => Nat.lt_succ_self 2
  | settling finish => exact Nat.lt_succ_self 1
  | awaitingBack since => exact finishWait_stepsLeft h _ (Nat.succ_pos 0) fun t => Nat.succ_pos 0
  | ended => cases h

/-! ## The clock between two steps -/

/-- The watch with its clock put forward to an instant, whether or not steps are due by then. -/
def clockAt (w : Watch σ) (t : Instant) : Watch σ :=
  { w with now := max w.now t }

omit [Device σ] in
theorem clockAt_of_le (h : t ≤ w.now) : w.clockAt t = w := by
  rw [clockAt, Int.max_eq_left h]

theorem endOf?_clockAt {wait : Wait} (h : ∀ d, w.endOf? wait = some d → t ≤ d) :
    (w.clockAt t).endOf? wait = w.endOf? wait := by
  rw [endOf?] at h ⊢
  rw [endOf?]
  change Option.map _ (Device.await w.device wait).1 = _
  cases ha : (Device.await w.device wait).1 with
  | none => rfl
  | some answer =>
    have hle : t ≤ max w.now (wait.since + answer.after) := h _ (by rw [ha]; rfl)
    simp only [Option.map_some, Option.some.injEq, endOf, clockAt]
    grind

theorem due?_clockAt (h : ∀ d, w.due? = some d → t ≤ d) : (w.clockAt t).due? = w.due? := by
  obtain ⟨device, times, phase, queue, heard, now, calls⟩ := w
  cases phase with
  | unstarted =>
    have hle : t ≤ now := h _ rfl
    exact congrArg some (Int.max_eq_left hle)
  | awaitingGone since => exact endOf?_clockAt (w := ⟨device, times, _, queue, heard, now, calls⟩) h
  | settling finish =>
    have hle : t ≤ max now finish := h _ rfl
    have hmax : max (max now t) finish = max now finish := by grind
    exact congrArg some hmax
  | awaitingBack since => exact endOf?_clockAt (w := ⟨device, times, _, queue, heard, now, calls⟩) h
  | ended => rfl

theorem finishWait_clockAt {wait : Wait} (h : w.endOf? wait = some d) (ht : t ≤ d)
    (state : Connectivity) (next : Instant → Phase) :
    (w.clockAt t).finishWait wait state next = w.finishWait wait state next := by
  obtain ⟨answer, device, ha, rfl⟩ := exists_await_of_endOf? h
  have hend : (w.clockAt t).endOf wait answer = w.endOf wait answer := by
    simp only [endOf, clockAt] at ht ⊢
    grind
  rw [finishWait_of_await ha, finishWait_of_await (w := w.clockAt t) ha, hend]
  rfl

/-- The next step does not depend on how far the clock went before it. -/
theorem step_clockAt (h : w.due? = some d) (ht : t ≤ d) : (w.clockAt t).step = w.step := by
  obtain ⟨device, times, phase, queue, heard, now, calls⟩ := w
  cases phase with
  | unstarted =>
    obtain rfl : now = d := Option.some.inj h
    simp only [clockAt, Int.max_eq_left ht]
  | awaitingGone since =>
    exact finishWait_clockAt h ht .awaitingReconnect fun t => .settling (t.wake times.settle)
  | settling finish =>
    obtain rfl : max now finish = d := Option.some.inj h
    have hmax : max (max now t) finish = max now finish := by grind
    simp only [step, clockAt, hmax]
  | awaitingBack since => exact finishWait_clockAt h ht .reconnected fun _ => .ended
  | ended => cases h

end Watch

end ResetCheck
