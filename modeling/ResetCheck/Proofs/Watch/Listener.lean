import Mathlib.Data.List.TakeWhile
import ResetCheck.Proofs.Device.Scripted
import ResetCheck.Proofs.Watch.Coherent
import ResetCheck.Proofs.Watch.Listening
import ResetCheck.Watch.Listener

/-!
# A watch and any listener

Whatever a listener does, action after action, it gets what the watch publishes in its order and
once each, and it is told that the watch is closed only when nothing is left to get.  As long as it
neither stops listening nor ends the watch, it has no influence on what the watch asks and publishes
and when.

* `Watch.takes_after`: a listener that silences nothing takes sightings off the queue.
* `Watch.Served`, `Watch.Served.after`: what a listener has got, whatever it did.
* `Watch.queue_of_closed`: what it means to be told that the watch is closed.
* `Watch.delivered_of_start`: the watch and any listener.
-/

namespace ResetCheck

namespace Watch

/-- How many sightings a queue has room for. -/
def capacity : Nat :=
  2

/-- Whether an action keeps the watch from being heard any further. -/
def Action.silences : Action → Bool
  | stopListening => true
  | shutdown => true
  | _ => false

/-- The sighting that an action got. -/
def Result.sighting? : Result → Option Sighting
  | received r => r.sighting?
  | _ => none

variable {σ : Type} [Device σ] {w : Watch σ} {times : WatchTimes}
  {origin : Instant} {taken seen got : List Sighting} {actions : List Action} {a : Action}

/-- The watch after a listener's actions. -/
def after (w : Watch σ) (actions : List Action) : Watch σ :=
  actions.foldl (fun w a => (w.act a).2) w

/-- What a listener got by its actions. -/
def delivered (w : Watch σ) (actions : List Action) : List Sighting :=
  (w.run actions).filterMap (·.1.sighting?)

/-- The first actions of a listener, as long as none silences the watch. -/
def audible (actions : List Action) : List Action :=
  actions.takeWhile fun a => !a.silences

/-- What the watch published while a listener acted: what it got and what was queued, up to the
first action that silenced the watch. -/
def published (w : Watch σ) (actions : List Action) : List Sighting :=
  w.delivered (audible actions) ++ (w.after (audible actions)).queue

/-! ## One action after the other -/

theorem after_append (a b : List Action) : w.after (a ++ b) = (w.after a).after b :=
  List.foldl_append

theorem delivered_nil : w.delivered [] = [] := rfl

theorem delivered_cons (a : Action) (rest : List Action) :
    w.delivered (a :: rest) = (w.act a).1.sighting?.toList ++ (w.act a).2.delivered rest := by
  rw [delivered, run, List.filterMap_cons]
  cases (w.act a).1.sighting? <;> rfl

/-- A listener that silences nothing takes from the queue. -/
theorem takes_act (h : ¬a.silences) :
    w.Takes (w.act a).1.sighting?.toList (w.act a).2 := by
  cases a with
  | receive => exact takes_receive w
  | tryReceive => exact takes_tryReceive w
  | stopListening => exact absurd rfl h
  | sleep d => exact Takes.sleep w d
  | isFinished => exact .refl w
  | shutdown => exact absurd rfl h

theorem takes_after (h : ∀ a ∈ actions, ¬a.silences) :
    w.Takes (w.delivered actions) (w.after actions) := by
  induction actions generalizing w with
  | nil => exact .refl w
  | cons a rest ih =>
    rw [delivered_cons]
    exact (takes_act (h a List.mem_cons_self)).trans
      (ih fun b hb => h b (List.mem_cons_of_mem a hb))

theorem not_silences_of_mem_audible (h : a ∈ audible actions) : ¬a.silences := by
  simpa using List.mem_takeWhile_imp h

theorem audible_eq_self (hstop : .stopListening ∉ actions) (hshut : .shutdown ∉ actions) :
    audible actions = actions := by
  refine List.takeWhile_eq_self_iff.2 fun a ha => ?_
  cases a with
  | stopListening => exact absurd ha hstop
  | shutdown => exact absurd ha hshut
  | _ => rfl

/-! ## What a listener has got -/

/-- A listener got the sightings `taken`, which are the first of those that were published.  What
it did not get is queued, unless it stopped listening. -/
structure Served (times : WatchTimes) (origin : Instant) (taken seen : List Sighting)
    (w : Watch σ) : Prop where
  recorded : w.Recorded times origin seen
  queued : if w.heard then seen = taken ++ w.queue else taken <+: seen ∧ w.queue = []

namespace Served

omit [Device σ] in
theorem isPrefix (h : w.Served times origin taken seen) : taken <+: seen := by
  have hqueued := h.queued
  split at hqueued
  · exact ⟨_, hqueued.symm⟩
  · exact hqueued.1

/-- Whoever stopped listening gets nothing more, and nothing more is published. -/
theorem takes {w' : Watch σ} (h : w.Served times origin taken seen) (ht : w.Takes got w') :
    ∃ seen', w'.Served times origin (taken ++ got) seen' ∧ (w.heard = false → seen' = seen) := by
  have hqueued := h.queued
  have hheard := ht.heard_eq
  split at hqueued
  · next hw =>
    subst hqueued
    exact ⟨_, ⟨ht.recorded h.recorded, by rw [hheard, if_pos hw]⟩, by simp [hw]⟩
  · next hw =>
    obtain ⟨rfl, hqueue, hrecorded⟩ := ht.unheard (by simpa using hw) hqueued.2 h.recorded
    rw [List.append_nil]
    exact ⟨seen, ⟨hrecorded, by rw [hheard, if_neg hw]; exact ⟨hqueued.1, hqueue⟩⟩, fun _ => rfl⟩

theorem act (h : w.Served times origin taken seen) (a : Action) :
    ∃ seen', (w.act a).2.Served times origin (taken ++ (w.act a).1.sighting?.toList) seen' ∧
      (w.heard = false → seen' = seen) := by
  by_cases hsilent : a.silences
  · refine ⟨seen, ?_, fun _ => rfl⟩
    cases a with
    | stopListening =>
      refine ⟨h.recorded.stopListening, ?_⟩
      exact ⟨by simpa [Watch.act, Result.sighting?] using h.isPrefix, rfl⟩
    | shutdown =>
      refine ⟨h.recorded.shutdown, ?_⟩
      simpa [Watch.act, Watch.shutdown, Result.sighting?] using h.queued
    | _ => cases hsilent
  · exact h.takes (takes_act hsilent)

end Served

theorem act_heard_of_unheard (h : w.heard = false) (a : Action) : (w.act a).2.heard = false := by
  by_cases hsilent : a.silences
  · cases a with
    | stopListening => rfl
    | shutdown => exact h
    | _ => cases hsilent
  · rw [(takes_act hsilent).heard_eq, h]

/-- Whatever a listener does, it gets the first sightings of those that are published. -/
theorem Served.after (h : w.Served times origin taken seen) (actions : List Action) :
    ∃ seen', (w.after actions).Served times origin (taken ++ w.delivered actions) seen' ∧
      (w.heard = false → seen' = seen) := by
  induction actions generalizing w taken seen with
  | nil => exact ⟨seen, by rw [delivered_nil, List.append_nil]; exact h, fun _ => rfl⟩
  | cons a rest ih =>
    obtain ⟨seen₁, hact, hseen₁⟩ := h.act a
    obtain ⟨seen₂, hrest, hseen₂⟩ := ih hact
    rw [delivered_cons, ← List.append_assoc]
    exact ⟨seen₂, hrest, fun hw => (hseen₂ (act_heard_of_unheard hw a)).trans (hseen₁ hw)⟩

omit [Device σ] in
theorem served_start (device : σ) (times : WatchTimes) (now : Instant) :
    (start device times now []).Served times now [] [] :=
  ⟨recorded_start device times now rfl, rfl⟩

theorem after_heard (h : .stopListening ∉ actions) : (w.after actions).heard = w.heard := by
  induction actions generalizing w with
  | nil => rfl
  | cons a rest ih =>
    have hact : (w.act a).2.heard = w.heard := by
      by_cases hsilent : a.silences
      · cases a with
        | stopListening => exact absurd List.mem_cons_self h
        | shutdown => rfl
        | _ => cases hsilent
      · exact (takes_act hsilent).heard_eq
    exact (ih fun hrest => h (List.mem_cons_of_mem a hrest)).trans hact

/-- If the listener stopped listening before anything was published, nothing ever is. -/
theorem Served.stopped (h : w.Served times origin [] []) {before rest : List Action}
    (hheard : w.heard) (hbefore : .stopListening ∉ before)
    (hnone : w.delivered before ++ (w.after before).queue = []) :
    (w.after (before ++ .stopListening :: rest)).Recorded times origin [] := by
  obtain ⟨seen, hserved, -⟩ := h.after before
  have hqueued := hserved.queued
  rw [after_heard hbefore, if_pos hheard, List.nil_append, hnone] at hqueued
  subst hqueued
  have hstopped : (w.after before).stopListening.Served times origin [] [] :=
    ⟨hserved.recorded.stopListening, List.nil_prefix, rfl⟩
  obtain ⟨seen, hrest, hseen⟩ := hstopped.after rest
  obtain rfl : seen = [] := hseen rfl
  rw [after_append]
  exact hrest.recorded

/-! ## Being told that the watch is closed -/

theorem isFinished_act (h : w.isFinished) (a : Action) : (w.act a).2.isFinished := by
  by_cases hsilent : a.silences
  · cases a with
    | stopListening => exact h
    | shutdown => rfl
    | _ => cases hsilent
  · exact (takes_act hsilent).isFinished h

/-- After the end of a watch, what was queued is still there to be got. -/
theorem delivered_of_isFinished (h : w.isFinished) (hstop : .stopListening ∉ actions) :
    w.delivered actions ++ (w.after actions).queue = w.queue := by
  induction actions generalizing w with
  | nil => rfl
  | cons a rest ih =>
    have hact : (w.act a).1.sighting?.toList ++ (w.act a).2.queue = w.queue := by
      by_cases hsilent : a.silences
      · cases a with
        | stopListening => exact absurd List.mem_cons_self hstop
        | shutdown => rfl
        | _ => cases hsilent
      · have htakes := takes_act (w := w) hsilent
        have hqueue := htakes.alone_queue
        rw [alone_of_isFinished h, alone_of_isFinished (htakes.isFinished h)] at hqueue
        exact hqueue.symm
    have hrest := ih (isFinished_act h a) fun hmem => hstop (List.mem_cons_of_mem a hmem)
    rw [delivered_cons, List.append_assoc, ← hact, ← hrest]
    rfl

/-- What a listener got and what is queued is what was published. -/
theorem delivered_append_queue (hstop : .stopListening ∉ actions) :
    w.delivered actions ++ (w.after actions).queue = w.published actions := by
  induction actions generalizing w with
  | nil => rfl
  | cons a rest ih =>
    have hrest : .stopListening ∉ rest := fun hmem => hstop (List.mem_cons_of_mem a hmem)
    by_cases hsilent : a.silences
    · cases a with
      | stopListening => exact absurd List.mem_cons_self hstop
      | shutdown => exact delivered_of_isFinished (w := w.shutdown) rfl hrest
      | _ => cases hsilent
    · have haudible : audible (a :: rest) = a :: audible rest :=
        List.takeWhile_cons_of_pos (by simpa using hsilent)
      rw [published, haudible, delivered_cons, delivered_cons, List.append_assoc, List.append_assoc]
      exact congrArg _ (ih hrest)

/-- Only a watch that publishes nothing more tells that it is closed. -/
theorem alone_queue_of_closed (h : (w.act a).1 = .received .closed) : w.alone.queue = [] := by
  have hsilent : ¬a.silences := by
    intro hsilent
    cases a with
    | stopListening => cases h
    | shutdown => cases h
    | _ => cases hsilent
  have hend : (w.act a).2.queue = [] ∧ (w.act a).2.isFinished := by
    cases a with
    | receive => exact receiveWithin_eq_closed (Result.received.inj h)
    | tryReceive => exact tryReceive_eq_closed (Result.received.inj h)
    | _ => cases h
  rw [(takes_act hsilent).alone_queue, h, alone_of_isFinished hend.2, hend.1]
  rfl

theorem queue_of_closed (h : (w.act a).1 = .received .closed) : w.queue = [] := by
  have hqueue := alone_queue_of_closed h
  rw [alone_queue_eq] at hqueue
  exact (List.append_eq_nil_iff.1 hqueue).1

/-! ## The watch and any listener -/

/-- A queue has room for all that a watch ever publishes. -/
theorem Coherent.length_alone_queue_le (h : w.Coherent []) : w.alone.queue.length ≤ capacity := by
  have hclimbs : (w.alone.queue.map (·.state)).length ≤ capacity := h.alone.climbs.length_le
  rwa [List.length_map] at hclimbs

/-- What has been published and asked by now does not depend on the listener, as long as it does
not silence the watch. -/
theorem published_of_start (device : σ) (times : WatchTimes) (now : Instant)
    (actions : List Action) :
    let w := start device times now []
    let u := w.after (audible actions)
    (u.now = now ∧ w.published actions = [] ∧ u.waits = []) ∨
      (w.published actions = w.alone.queue.filter (·.instant ≤ u.now) ∧
        u.waits = w.alone.waits.filter (·.since ≤ u.now)) := by
  intro w u
  have htakes : w.Takes (w.delivered (audible actions)) u :=
    takes_after fun a ha => not_silences_of_mem_audible ha
  have hrecorded : u.Recorded times now (w.published actions) :=
    htakes.recorded_queue (recorded_start device times now rfl)
  rcases htakes.unstarted_or_lt_due? (.inl rfl) with hphase | hdue
  · have hfits := hrecorded.fits
    rw [hphase] at hfits
    exact .inl ⟨hfits.1, hfits.2.2, hfits.2.1⟩
  · exact .inr ⟨htakes.published_eq hrecorded.past hdue, htakes.waits_eq hrecorded.begun hdue⟩

/-- **The watch and its listener.**  Whatever a listener does, it gets the sightings that the watch
publishes, in their order and once each, and between the two the link had its time to settle.  It
is told that the watch is closed only when it has got all that was published.  Until it silences
the watch, its actions change neither what the watch asks nor what it publishes nor when, and the
queue has room for all of it.  If it stops listening before anything is published, the watch never
waits for the device to return. -/
theorem delivered_of_start (device : σ) (times : WatchTimes) (now : Instant)
    (actions : List Action) :
    let w := start device times now []
    let got := w.delivered actions
    let u := w.after (audible actions)
    (∃ t t' : Instant, t.wake times.settle ≤ t' ∧
        got <+: [⟨.awaitingReconnect, t⟩, ⟨.reconnected, t'⟩]) ∧
      (.stopListening ∉ actions → ∀ a, ((w.after actions).act a).1 = .received .closed →
        got = w.published actions ∧ (.shutdown ∉ actions → got = w.alone.queue)) ∧
      ((u.now = now ∧ w.published actions = [] ∧ u.waits = []) ∨
        (w.published actions = w.alone.queue.filter (·.instant ≤ u.now) ∧
          u.waits = w.alone.waits.filter (·.since ≤ u.now))) ∧
      w.alone.queue.length ≤ capacity ∧
      (∀ before rest, actions = before ++ .stopListening :: rest → .stopListening ∉ before →
        w.published before = [] → ∀ wait ∈ (w.after actions).waits, wait.wanted = .gone) := by
  intro w got u
  have hstart : w.Served times now [] [] := served_start device times now
  refine ⟨?_, ?_, published_of_start device times now actions,
    (coherent_start device times now []).length_alone_queue_le, ?_⟩
  · obtain ⟨seen, hserved, -⟩ := hstart.after actions
    obtain ⟨t, t', hsettle, hseen⟩ := hserved.recorded.history.exists_isPrefix
    exact ⟨t, t', hsettle, hserved.isPrefix.trans hseen⟩
  · intro hstop a hclosed
    have hpublished := delivered_append_queue (w := w) hstop
    rw [queue_of_closed hclosed, List.append_nil] at hpublished
    refine ⟨hpublished, fun hshut => ?_⟩
    have haudible := audible_eq_self hstop hshut
    have htakes : w.Takes got (w.after actions) := by
      refine takes_after fun a ha => ?_
      rw [← haudible] at ha
      exact not_silences_of_mem_audible ha
    rw [htakes.alone_queue, alone_queue_of_closed hclosed, List.append_nil]
  · rintro before rest rfl hbefore hnone
    rw [← delivered_append_queue hbefore] at hnone
    exact (hstart.stopped rfl hbefore hnone).history.wanted_eq_gone

/-- A listener that gets all of it, and one that stops listening early. -/
theorem delivered_of_start_brief :
    let w := start (Scripted.brief.trigger 0) ⟨.ofMillis 100, .ofMillis 50, .ofMillis 100⟩ 0 []
    let all := [Action.receive, .sleep (.ofMillis 200), .receive]
    let early := [Action.sleep (.ofMillis 3)]
    (.stopListening ∉ all ∧ .shutdown ∉ all ∧
      ((w.after all).act .receive).1 = .received .closed ∧
      w.delivered all = w.alone.queue ∧
      w.alone.queue = [⟨.awaitingReconnect, 5⟩, ⟨.reconnected, 55⟩]) ∧
    .stopListening ∉ early ∧ w.published early = [] ∧
      ∀ wait ∈ (w.after (early ++ [.stopListening, .sleep (.ofMillis 200)])).waits,
        wait.wanted = .gone := by
  intro w all early
  have hstop : .stopListening ∉ all := by simp [all]
  have hshut : .shutdown ∉ all := by simp [all]
  have hclosed : ((w.after all).act .receive).1 = .received .closed :=
    congrArg Result.received (by decide +kernel)
  have hearly : .stopListening ∉ early := by simp [early]
  have hnone : w.published early = [] := by decide +kernel
  have hgot : w.delivered all = w.alone.queue :=
    ((delivered_of_start _ _ _ all).2.1 hstop _ hclosed).2 hshut
  refine ⟨⟨hstop, hshut, hclosed, hgot, ?_⟩, hearly, hnone, ?_⟩
  · rw [← hgot]
    decide +kernel
  · exact (delivered_of_start _ _ _ _).2.2.2.2 early [.sleep (.ofMillis 200)] rfl hearly hnone

/-- The link has forty years to settle.  The device is back after thirty of them. -/
theorem settles_for_thirty_years :
    let settle := Span.ofMillis 1261440000000
    let w := start (Scripted.brief.trigger 0) ⟨.ofMillis 100, settle, .ofMillis 100⟩ 0 []
    w.delivered [.receive, .receive] =
        [⟨.awaitingReconnect, 5⟩, ⟨.reconnected, 946080000005⟩] ∧
      (946080000005 : Instant) < 5 + (settle.millis : Int) :=
  ⟨by decide +kernel, by decide⟩

end Watch

end ResetCheck
