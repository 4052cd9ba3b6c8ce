import ResetCheck.Proofs.Climb
import ResetCheck.Proofs.Watch.Alone

/-!
# What a heard watch publishes

A listener holds some sightings, and more are queued.  Together they climb through the states in the
order of time, and they tell what the watch is doing.  This is kept by every step of the watch, by
the passing of time, by a command to the device, and when the listener takes what is queued.

* `Watch.Coherent`: the invariant.
* `Watch.Coherent.climbs`: what was seen climbs, so no observation refuses any of it.
* `Watch.Coherent.isFinished_of_isTerminal`: after the last state nothing is left to wait for.
-/

namespace ResetCheck

/-- The states that a heard watch has published, by what it is doing. -/
def Phase.Published : Phase → List Connectivity → Prop
  | .unstarted, states => states = []
  | .awaitingGone _, states => states = []
  | .settling _, states => states = [.awaitingReconnect]
  | .awaitingBack _, states => states = [.awaitingReconnect]
  | .ended, states => Connectivity.awaitingDisconnect.Climbs states

theorem Phase.Published.climbs {phase : Phase} {states : List Connectivity}
    (h : phase.Published states) : Connectivity.awaitingDisconnect.Climbs states := by
  cases phase with
  | unstarted => exact (show states = [] from h) ▸ Connectivity.climbs_nil _
  | awaitingGone since => exact (show states = [] from h) ▸ Connectivity.climbs_nil _
  | settling finish => exact (show states = [_] from h) ▸ ⟨[.reconnected], rfl⟩
  | awaitingBack since => exact (show states = [_] from h) ▸ ⟨[.reconnected], rfl⟩
  | ended => exact h

theorem Phase.Published.eq_ended {phase : Phase} {states : List Connectivity}
    (h : phase.Published states)
    (hlast : (Connectivity.awaitingDisconnect.last states).isTerminal) : phase = .ended := by
  cases phase with
  | unstarted => rw [show states = [] from h] at hlast; exact absurd hlast (by decide)
  | awaitingGone since => rw [show states = [] from h] at hlast; exact absurd hlast (by decide)
  | settling finish => rw [show states = [_] from h] at hlast; exact absurd hlast (by decide)
  | awaitingBack since => rw [show states = [_] from h] at hlast; exact absurd hlast (by decide)
  | ended => rfl

namespace Watch

variable {σ : Type} [Device σ] {w : Watch σ} {taken : List Sighting} {d t : Instant}

/-- What a listener took and what is queued fit together and fit what the watch is doing. -/
structure Coherent (taken : List Sighting) (w : Watch σ) : Prop where
  heard : w.heard = true
  published : w.phase.Published ((taken ++ w.queue).map (·.state))
  order : (taken ++ w.queue).Pairwise (·.instant ≤ ·.instant)
  past : ∀ s ∈ taken ++ w.queue, s.instant ≤ w.now

omit [Device σ] in
theorem coherent_start (device : σ) (times : WatchTimes) (now : Instant) (calls : List Call) :
    (start device times now calls).Coherent [] :=
  ⟨rfl, rfl, .nil, by simp [start]⟩

namespace Coherent

omit [Device σ] in
theorem climbs (h : w.Coherent taken) :
    Connectivity.awaitingDisconnect.Climbs ((taken ++ w.queue).map (·.state)) :=
  h.published.climbs

omit [Device σ] in
theorem isFinished_of_isTerminal (h : w.Coherent taken)
    (hlast : (Connectivity.awaitingDisconnect.last ((taken ++ w.queue).map (·.state))).isTerminal) :
    w.isFinished := by
  rw [isFinished, h.published.eq_ended hlast]
  rfl

omit [Device σ] in
/-- Taking all that is queued. -/
theorem takeQueue (h : w.Coherent taken) : w.emptied.Coherent (taken ++ w.queue) where
  heard := h.heard
  published := by simpa [emptied] using h.published
  order := by simpa [emptied] using h.order
  past := by simpa [emptied] using h.past

omit [Device σ] in
theorem clockAt (h : w.Coherent taken) (t : Instant) : (w.clockAt t).Coherent taken :=
  ⟨h.heard, h.published, h.order, fun s hs => Int.le_trans (h.past s hs) (Int.le_max_left _ _)⟩

/-- The end of a wait keeps coherence if what it publishes comes next. -/
theorem finishWait (h : w.Coherent taken) {wait : Wait} (hd : w.endOf? wait = some d)
    (state : Connectivity) (next : Instant → Phase)
    (hnext : ∀ t, (next t).Published ((taken ++ w.queue).map (·.state) ++ [state])) :
    (w.finishWait wait state next).Coherent taken := by
  obtain ⟨answer, device, ha, rfl⟩ := exists_await_of_endOf? hd
  have hle : w.now ≤ w.endOf wait answer := Int.le_max_left _ _
  have hpast : ∀ s ∈ taken ++ w.queue, s.instant ≤ w.endOf wait answer :=
    fun s hs => Int.le_trans (h.past s hs) hle
  rw [finishWait_of_await ha]
  dsimp only
  split
  · rw [publish, if_pos h.heard]
    refine ⟨h.heard, by simpa using hnext _, ?_, ?_⟩
    · show (taken ++ (w.queue ++ [_])).Pairwise _
      rw [← List.append_assoc]
      exact List.pairwise_append.2 ⟨h.order, List.pairwise_singleton _ _, fun s hs s' hs' =>
        List.mem_singleton.1 hs' ▸ hpast s hs⟩
    · intro s hs
      rw [← List.append_assoc] at hs
      rcases List.mem_append.1 hs with hs | hs
      · exact hpast s hs
      · obtain rfl := List.mem_singleton.1 hs
        exact Int.le_refl _
  · exact ⟨h.heard, h.climbs, h.order, hpast⟩

theorem step (h : w.Coherent taken) (hd : w.due? = some d) : w.step.Coherent taken := by
  obtain ⟨device, times, phase, queue, heard, now, calls⟩ := w
  have hpub := h.published
  cases phase with
  | unstarted => exact ⟨h.heard, hpub, h.order, h.past⟩
  | awaitingGone since =>
    refine h.finishWait hd .awaitingReconnect (fun t => .settling (t.wake times.settle)) fun t => ?_
    rw [show (taken ++ queue).map (·.state) = [] from hpub]
    exact rfl
  | settling finish =>
    exact ⟨h.heard, hpub, h.order, fun s hs => Int.le_trans (h.past s hs) (Int.le_max_left _ _)⟩
  | awaitingBack since =>
    refine h.finishWait hd .reconnected (fun _ => .ended) fun t => ?_
    rw [show (taken ++ queue).map (·.state) = [_] from hpub]
    exact List.prefix_rfl
  | ended => cases hd

theorem alone (h : w.Coherent taken) : w.alone.Coherent taken := by
  induction w using stepInduction with
  | idle w hd => rwa [alone_of_idle hd]
  | due w d hd ih => rw [alone_of_due hd]; exact ih (h.step hd)

theorem runUntil (h : w.Coherent taken) (t : Instant) : (w.runUntil t).Coherent taken := by
  induction w using runInduction (σ := σ) t with
  | idle w hd => rw [runUntil_of_idle hd]; exact h.clockAt t
  | due w d hd hle ih => rw [runUntil_of_due hd hle]; exact ih (h.step hd)

theorem sleep (h : w.Coherent taken) (a : Span) : (w.sleep a).Coherent taken := by
  rw [Watch.sleep]
  split
  · exact h
  · exact h.runUntil _

theorem pass (h : w.Coherent taken) (n : Nat) : (w.pass n).Coherent taken := by
  rw [Watch.pass]
  split
  · exact h
  · exact h.runUntil _

theorem issue (h : w.Coherent taken) (command : String) : (w.issue command).Coherent taken :=
  ⟨h.heard, h.published, h.order, h.past⟩

end Coherent

end Watch

end ResetCheck
