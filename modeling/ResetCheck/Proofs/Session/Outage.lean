import ResetCheck.Proofs.Session.Departure

/-!
# What a watch sees of an outage

A script hides a device some time after a command and shows it again later.  Before the command the
device does not leave, so the watch sees it leave when the script hides it, unless the wait for that
is over by then.  From then on the watch sees it return when the script shows it, or when the link
has settled if that is later.

* `Scripted.Outage`: a device that is hidden for a while after a command.
* `Scripted.Outage.gone_reached`, `Scripted.Outage.gone_failed`: how the wait for it to go ends.
* `Scripted.Outage.await_back`: how the wait for it to return ends.
* `Scripted.Outage.sightings_of_le`, `Scripted.Outage.sightings_of_lt`: what the watch sees.
-/

namespace ResetCheck

/-! ## How waits end -/

/-- The sightings of a session whose watch asked for the device to return. -/
theorem Timeline.sightings_of_back {tl : Timeline} {left : Instant} {e : WaitEnd}
    (hgone : tl.gone = some ⟨left, .reached⟩) (hback : tl.back = some e) :
    tl.sightings = ⟨.awaitingReconnect, left⟩ :: e.seen .reconnected ∧
      tl.finish? = some e.instant := by
  rw [sightings, finish?, hgone, hback]
  exact ⟨rfl, rfl⟩

/-- When and how a wait ends that got an answer. -/
def Wait.ending (w : Wait) (answer : WaitAnswer) : WaitEnd :=
  ⟨w.since + answer.after, answer.result⟩

theorem Wait.ending_reached {w : Wait} {t : Instant} (h : w.since ≤ t) :
    w.ending ⟨(t - w.since).toNat, .reached⟩ = ⟨t, .reached⟩ := by
  have hend : w.since + ((t - w.since).toNat : Int) = t := by
    unfold Instant at *
    omega
  rw [ending, hend]

theorem Wait.ending_giveUp? {w : Wait} :
    (Scripted.giveUp? w).map w.ending =
      (w.since.alarm? w.timeout).map fun t => ⟨t, .failed (.unavailable w.timeout)⟩ := by
  rw [Scripted.giveUp?]
  cases ht : w.since.alarm? w.timeout with
  | none => rfl
  | some t =>
    have hend : w.since + ((t - w.since).toNat : Int) = t := by
      have hle := Instant.le_alarm? ht
      unfold Instant at *
      omega
    simp only [Option.map_some, ending, hend]

/-- The end of a wait put off to an instant. -/
def WaitEnd.notBefore (issue : Instant) (e : WaitEnd) : WaitEnd :=
  { e with instant := max issue e.instant }

namespace Scripted

/-- A device that a command hides for a while, if the clock has the two ends of that. -/
structure Outage (d : Scripted) (issue : Instant) (away back : Span) : Prop where
  still : d.Still
  script : d.script = .reconnects away back
  reply : ∀ text, d.reply ≠ .error (.rejected text)
  le : away ≤ back
  issue_nonneg : 0 ≤ issue

variable {d : Scripted} {issue left t : Instant} {command : String} {b : Stage Scripted}
  {away back : Span} {w : Wait}

/-- How a wait ends that is not over when the command is issued, and the device after it. -/
theorem Begun.await_eq_of_late {now : Instant} (hb : d.Begun now issue command b)
    (hreply : ∀ text, d.reply ≠ .error (.rejected text)) (he : b.early? issue w = none) :
    b.await issue command w =
      ((((d.issued issue command).await w).map w.ending).map (.notBefore issue),
        ⟨d.issued issue command, some ⟨0, d.reply⟩⟩) := by
  rw [Stage.await_of_late he, hb.issued_eq hreply, Option.map_map]
  rfl

namespace Outage

theorem script_ne (h : d.Outage issue away back) : d.script ≠ .transportFailure := by
  rw [h.script]
  exact nofun

theorem hidden_iff (h : d.Outage issue away back) (ht : 0 ≤ t) :
    visibleAfter (d.issued issue command).flips t = false ↔
      (∃ a, issue.alarm? away = some a ∧ a ≤ t) ∧ ∀ a, issue.alarm? back = some a → t < a := by
  have hiff := h.still.hidden_iff h.issue_nonneg h.le ht
  rwa [← h.script] at hiff

/-! ## Leaving -/

section Leaving

variable (h : d.Outage issue away back) (hb : d.Begun 0 issue command b) {timeout : Span}
  {limit : Instant} (hlimit : Instant.alarm? 0 timeout = some limit)

include h

/-- Before the command the device is not seen to leave. -/
theorem await_gone (hw : w.wanted = .gone) (hsince : 0 ≤ w.since) : d.await w = giveUp? w := by
  refine await_eq_giveUp? h.script_ne fun t ht hs => ?_
  rw [hw] at hs
  have hshown := h.still.stays_visible (Int.le_trans hsince ht.1)
  rw [satisfies_gone.1 hs] at hshown
  cases hshown

include hb hlimit

/-- A wait for the device to go that is over when the command is issued was given up. -/
theorem early?_gone {e : WaitEnd} {st : Stage Scripted}
    (he : b.early? issue ⟨.gone, 0, timeout⟩ = some (e, st)) :
    e = ⟨limit, .failed (.unavailable timeout)⟩ ∧ limit ≤ issue := by
  obtain ⟨answer, device, hnone, ha, hend, rfl, -⟩ := Stage.early?_eq_some he
  obtain ⟨rfl, -⟩ | rfl := hb
  · have hanswer : giveUp? ⟨.gone, 0, timeout⟩ = some answer :=
      (h.await_gone rfl (Int.le_refl _)).symm.trans (congrArg Prod.fst ha)
    have hends := Wait.ending_giveUp? (w := ⟨.gone, 0, timeout⟩)
    rw [hanswer, hlimit] at hends
    have hending : Wait.ending ⟨.gone, 0, timeout⟩ answer =
        ⟨limit, .failed (.unavailable timeout)⟩ := Option.some.inj hends
    have hinstant := congrArg WaitEnd.instant hending
    exact ⟨hending, Int.le_trans (Int.le_of_eq hinstant.symm) hend⟩
  · cases hnone

/-- The wait for the device to go ends when the device is hidden, if that is in time. -/
theorem gone_reached (hleft : issue.alarm? away = some left)
    (hback : ∀ a, issue.alarm? back = some a → left < a) (hlt : left < limit) :
    b.await issue command ⟨.gone, 0, timeout⟩ =
      (some ⟨left, .reached⟩, ⟨d.issued issue command, some ⟨0, d.reply⟩⟩) := by
  have hissue : issue ≤ left := Instant.le_alarm? hleft
  have hpos : 0 ≤ left := Int.le_trans h.issue_nonneg hissue
  have hearly : b.early? issue ⟨.gone, 0, timeout⟩ = none := by
    cases he : b.early? issue ⟨.gone, 0, timeout⟩ with
    | none => rfl
    | some early =>
      obtain ⟨-, hover⟩ := h.early?_gone hb hlimit he
      exact absurd (Int.le_trans hover hissue) (Int.not_le.2 hlt)
  have hawait : (d.issued issue command).await ⟨.gone, 0, timeout⟩ =
      some ⟨(left - 0).toNat, .reached⟩ := by
    refine await_eq_reached (w := ⟨.gone, 0, timeout⟩) h.script_ne ⟨hpos, .inr ?_⟩ ?_ ?_
    · show ((0 : Instant).alarm? timeout).all (left < ·) = true
      rw [hlimit]
      simpa using hlt
    · exact satisfies_gone.2 ((h.hidden_iff hpos).2 ⟨⟨left, hleft, Int.le_refl _⟩, hback⟩)
    · intro t ht hbefore hs
      obtain ⟨⟨a, ha, hat⟩, -⟩ := (h.hidden_iff ht).1 (satisfies_gone.1 hs)
      obtain rfl := Option.some.inj (hleft.symm.trans ha)
      exact absurd hbefore (Int.not_lt.2 hat)
  have hending : Wait.ending ⟨.gone, 0, timeout⟩ ⟨(left - 0).toNat, .reached⟩ = ⟨left, .reached⟩ :=
    Wait.ending_reached hpos
  rw [hb.await_eq_of_late h.reply hearly, hawait, Option.map_some, hending, Option.map_some,
    WaitEnd.notBefore, Int.max_eq_right hissue]

/-- The wait for the device to go is given up if the device is not hidden in time. -/
theorem gone_failed
    (hnever : ∀ t, 0 ≤ t → (t = 0 ∨ t < limit) →
      visibleAfter (d.issued issue command).flips t = true) :
    ∃ e, (b.await issue command ⟨.gone, 0, timeout⟩).1 =
        some ⟨e, .failed (.unavailable timeout)⟩ ∧
      max issue e = max issue limit := by
  cases he : b.early? issue ⟨.gone, 0, timeout⟩ with
  | some early =>
    obtain ⟨e, st⟩ := early
    obtain ⟨rfl, -⟩ := h.early?_gone hb hlimit he
    refine ⟨limit, ?_, rfl⟩
    rw [Stage.await, he]
  | none =>
    have hawait : (d.issued issue command).await ⟨.gone, 0, timeout⟩ =
        giveUp? ⟨.gone, 0, timeout⟩ := by
      refine await_eq_giveUp? (w := ⟨.gone, 0, timeout⟩) h.script_ne fun t ht hs => ?_
      have hcovers : t = 0 ∨ t < limit := by
        have halarm := ht.2
        dsimp only at halarm
        rw [hlimit] at halarm
        simpa using halarm
      have hshown := hnever t ht.1 hcovers
      rw [satisfies_gone.1 hs] at hshown
      cases hshown
    rw [hb.await_eq_of_late h.reply he, hawait, Wait.ending_giveUp?, hlimit]
    exact ⟨max issue limit, rfl, Int.max_eq_right (Int.le_max_left _ _)⟩

end Leaving

/-! ## Returning -/

/-- The wait for the device to return ends when the device is shown, if that is in time. -/
theorem await_back (h : d.Outage issue away back) (command : String)
    (hleft : issue.alarm? away = some left) (hw : w.wanted = .back) (hsince : left ≤ w.since) :
    (∃ a, issue.alarm? back = some a ∧ w.Covers (max w.since a) ∧
      ((d.issued issue command).await w).map w.ending = some ⟨max w.since a, .reached⟩) ∨
    (∀ a, issue.alarm? back = some a → ¬w.Covers (max w.since a)) ∧
      ((d.issued issue command).await w).map w.ending =
        (w.since.alarm? w.timeout).map fun a => ⟨a, .failed (.unavailable w.timeout)⟩ := by
  have hpos : 0 ≤ w.since :=
    Int.le_trans h.issue_nonneg (Int.le_trans (Instant.le_alarm? hleft) hsince)
  -- From the start of the wait on, the device is hidden for as long as it did not return.
  have hshown : ∀ t, w.since ≤ t →
      ((d.issued issue command).satisfies w.wanted t ↔
        ∃ a, issue.alarm? back = some a ∧ a ≤ t) := by
    intro t ht
    rw [hw, satisfies_back, ← Bool.not_eq_false, h.hidden_iff (Int.le_trans hpos ht)]
    constructor
    · intro hnot
      have hback := (not_and.1 hnot) ⟨left, hleft, Int.le_trans hsince ht⟩
      simp only [Classical.not_forall, Int.not_lt] at hback
      obtain ⟨a, ha, hle⟩ := hback
      exact ⟨a, ha, hle⟩
    · rintro ⟨a, ha, hle⟩ ⟨-, hlt⟩
      exact absurd (hlt a ha) (Int.not_lt.2 hle)
  by_cases hreturn : ∃ a, issue.alarm? back = some a ∧ w.Covers (max w.since a)
  · obtain ⟨a, ha, hcovers⟩ := hreturn
    have hawait : (d.issued issue command).await w =
        some ⟨(max w.since a - w.since).toNat, .reached⟩ := by
      refine await_eq_reached h.script_ne hcovers ?_ ?_
      · exact (hshown _ (Int.le_max_left _ _)).2 ⟨a, ha, Int.le_max_right _ _⟩
      · intro t ht hbefore hs
        obtain ⟨a', ha', hle⟩ := (hshown t ht).1 hs
        obtain rfl := Option.some.inj (ha.symm.trans ha')
        exact absurd hbefore (Int.not_lt.2 (Int.max_le.2 ⟨ht, hle⟩))
    refine .inl ⟨a, ha, hcovers, ?_⟩
    rw [hawait, Option.map_some, Wait.ending_reached (Int.le_max_left _ _)]
  · refine .inr ⟨fun a ha hcovers => hreturn ⟨a, ha, hcovers⟩, ?_⟩
    have hawait : (d.issued issue command).await w = giveUp? w := by
      refine await_eq_giveUp? h.script_ne fun t ht hs => ?_
      obtain ⟨a, ha, hle⟩ := (hshown t ht.1).1 hs
      exact hreturn ⟨a, ha, ht.of_le (Int.le_max_left _ _) (Int.max_le.2 ⟨ht.1, hle⟩)⟩
    rw [hawait, Wait.ending_giveUp?]

/-! ## The timeline -/

variable {s : Session} (hissue : Instant.wake 0 s.variant.start = issue)

/-- The wait for the device to return in a session that saw it leave at an instant. -/
def awaitBack (s : Session) (left : Instant) : Wait :=
  ⟨.back, left.wake s.variant.settle, s.budget.window⟩

include hissue

/-- The timeline of a session that sees the device leave. -/
theorem timeline_reached (h : d.Outage issue away back) (hleft : issue.alarm? away = some left)
    (hback : ∀ a, issue.alarm? back = some a → left < a) {limit : Instant}
    (hlimit : Instant.alarm? 0 s.budget.timeout = some limit) (hlt : left < limit) :
    (s.timeline d 0).gone = some ⟨left, .reached⟩ ∧
      (s.timeline d 0).back = ((d.issued issue s.variant.command).await (awaitBack s left)).map
        (awaitBack s left).ending := by
  obtain ⟨b, hb, htimeline⟩ := exists_begun 0 s h.reply
  rw [hissue] at hb htimeline
  have hle : issue ≤ left.wake s.variant.settle :=
    Int.le_trans (Instant.le_alarm? hleft) (Instant.le_wake _ _)
  have hend : ∀ n : Nat, max issue (left.wake s.variant.settle + n) =
      left.wake s.variant.settle + n := fun n =>
    Int.max_eq_right (Int.le_trans hle (Int.le_add_of_nonneg_right (Int.natCast_nonneg n)))
  have hgone := h.gone_reached hb hlimit hleft hback hlt
  rw [htimeline, Stage.timeline]
  simp only [Session.times, hgone]
  rw [Stage.await_of_late rfl]
  simp only [Stage.issued, hend]
  exact ⟨trivial, rfl⟩

/-- The timeline of a session that does not see the device leave. -/
theorem timeline_failed (h : d.Outage issue away back) {limit : Instant}
    (hlimit : Instant.alarm? 0 s.budget.timeout = some limit)
    (hnever : ∀ t, 0 ≤ t → (t = 0 ∨ t < limit) →
      visibleAfter (d.issued issue s.variant.command).flips t = true) :
    (s.timeline d 0).sightings = [] ∧
      ∃ e, (s.timeline d 0).finish? = some e ∧ max issue e = max issue limit := by
  obtain ⟨b, hb, htimeline⟩ := exists_begun 0 s h.reply
  rw [hissue] at hb htimeline
  obtain ⟨e, hgone, hend⟩ := h.gone_failed hb hlimit hnever
  have htl : (s.timeline d 0).gone = some ⟨e, .failed (.unavailable s.budget.timeout)⟩ ∧
      (s.timeline d 0).back = none := by
    rw [htimeline, Stage.timeline]
    rcases hst : b.await issue s.variant.command ⟨.gone, 0, s.times.leave⟩ with ⟨gone, st⟩
    obtain rfl : gone = some ⟨e, .failed (.unavailable s.budget.timeout)⟩ :=
      (congrArg Prod.fst hst).symm.trans hgone
    exact ⟨rfl, rfl⟩
  refine ⟨?_, e, ?_, hend⟩
  · rw [Timeline.sightings, htl.1, htl.2]
    rfl
  · rw [Timeline.finish?, htl.1]
    rfl

section Seen

variable (h : d.Outage issue away back) (hwindow : s.budget.window.seconds < Instant.spanLimit)
  (hleft : Instant.slept s.variant.start + away.ticks < s.budget.timeout.ticks)
  (hlt : away.ticks < back.ticks)

include h hwindow hleft hlt

/-- A session sees the device leave if it is hidden before the timeout is over.  It then asks for
the device to return, which it does or does not in time. -/
theorem timeline_of_lt :
    let returned : Instant :=
      issue + (max (away.ticks + Instant.slept s.variant.settle) back.ticks : Nat)
    let limit : Instant :=
      issue + (away.ticks + Instant.slept s.variant.settle + s.budget.window.ticks : Nat)
    (s.timeline d 0).gone = some ⟨issue + away.ticks, .reached⟩ ∧
      ((s.timeline d 0).back = some ⟨returned, .reached⟩ ∨
        (back.seconds < Instant.spanLimit → limit ≤ returned) ∧
          (s.timeline d 0).back = some ⟨limit, .failed (.unavailable s.budget.window)⟩) := by
  intro returned limit
  let since : Instant := issue + (away.ticks + Instant.slept s.variant.settle : Nat)
  have htimeout : s.budget.timeout.seconds < Instant.spanLimit :=
    Nat.lt_of_le_of_lt (Span.seconds_mono s.budget.timeout_le_window) hwindow
  have haway : issue.alarm? away = some (issue + away.ticks) :=
    Instant.alarm?_of_seconds_lt _ (Span.seconds_lt_of_ticks_lt htimeout
      (Nat.lt_of_le_of_lt (Nat.le_add_left _ _) hleft))
  have hback : ∀ a, issue.alarm? back = some a → issue + away.ticks < a := by
    intro a ha
    rw [Instant.eq_of_alarm? ha]
    exact Int.add_lt_add_left (Int.ofNat_lt.2 hlt) _
  have hintime : issue + away.ticks < 0 + (s.budget.timeout.ticks : Int) := by
    rw [← hissue, Instant.wake_eq, Instant.add_add]
    exact Int.add_lt_add_left (Int.ofNat_lt.2 hleft) _
  obtain ⟨hgone, hreturn⟩ := timeline_reached hissue h haway hback
    (Instant.alarm?_of_seconds_lt 0 htimeout) hintime
  refine ⟨hgone, ?_⟩
  have hsince : (awaitBack s (issue + away.ticks)).since = since :=
    (Instant.wake_eq _ _).trans (Instant.add_add _ _ _)
  have halarm : since.alarm? s.budget.window = some limit := by
    rw [Instant.alarm?_of_seconds_lt _ hwindow, Instant.add_add]
  rw [hreturn]
  rcases h.await_back s.variant.command haway
      (w := awaitBack s (issue + away.ticks)) rfl (Instant.le_wake _ _) with
    ⟨a, ha, -, hreached⟩ | ⟨hnone, hfailed⟩
  · left
    rw [hreached, hsince, Instant.eq_of_alarm? ha, Instant.max_add]
  · right
    refine ⟨fun hseconds => ?_, ?_⟩
    · have hcovers := hnone _ (Instant.alarm?_of_seconds_lt _ hseconds)
      rw [hsince, Instant.max_add] at hcovers
      have hle : since ≤ returned := Int.add_le_add_left (Int.ofNat_le.2 (Nat.le_max_left _ _)) _
      refine Int.not_lt.1 fun hless => hcovers ⟨Int.le_trans (Int.le_of_eq hsince) hle, .inr ?_⟩
      rw [hsince]
      show (since.alarm? s.budget.window).all (returned < ·) = true
      rw [halarm]
      simpa using hless
    · rw [hfailed, hsince]
      exact congrArg (Option.map _) halarm

/-- The sightings of a session over an outage that ends in time. -/
theorem sightings_of_le
    (hback : max (away.ticks + Instant.slept s.variant.settle) back.ticks ≤
      s.budget.window.millis)
    (htie : ¬(away.ticks = 0 ∧ Instant.slept s.variant.settle = 0 ∧
      .ofMillis back.ticks = s.budget.window)) :
    let returned : Instant :=
      issue + (max (away.ticks + Instant.slept s.variant.settle) back.ticks : Nat)
    (s.timeline d 0).sightings =
        [⟨.awaitingReconnect, issue + away.ticks⟩, ⟨.reconnected, returned⟩] ∧
      (s.timeline d 0).finish? = some returned := by
  intro returned
  obtain ⟨hgone, hreached | ⟨hlate, -⟩⟩ := timeline_of_lt hissue h hwindow hleft hlt
  · exact Timeline.sightings_of_back hgone hreached
  · -- The wait cannot miss a return in time, unless both are over at the end of the window.
    have hticks := s.budget.window.millis_le_ticks
    have hback' : back.ticks ≤ s.budget.window.millis :=
      Nat.le_trans (Nat.le_max_right _ _) hback
    have hseconds : back.seconds < Instant.spanLimit :=
      Nat.lt_of_le_of_lt (Span.seconds_mono (Span.le_of_ticks_le_millis hback')) hwindow
    have hlimit := Int.ofNat_le.1 (Int.le_of_add_le_add_left (hlate hseconds))
    refine absurd ⟨by omega, by omega, Span.ofMillis_eq hback' (by omega)⟩ htie

/-- The sightings of a session over an outage that ends after the window. -/
theorem sightings_of_lt
    (hback : s.budget.window.millis <
      max (away.ticks + Instant.slept s.variant.settle) back.ticks) :
    ∃ e : WaitEnd, (s.timeline d 0).sightings =
        ⟨.awaitingReconnect, issue + away.ticks⟩ :: e.seen .reconnected ∧
      (s.timeline d 0).finish? = some e.instant ∧
      issue + s.budget.window.ticks ≤ e.instant ∧
      (e.result = .reached → issue + s.budget.window.millis < e.instant) := by
  have hticks := s.budget.window.ticks_le_millis_succ
  obtain ⟨hgone, hreached | ⟨-, hfailed⟩⟩ := timeline_of_lt hissue h hwindow hleft hlt
  · obtain ⟨hsightings, hfinish⟩ := Timeline.sightings_of_back hgone hreached
    refine ⟨_, hsightings, hfinish, ?_, fun _ => ?_⟩
    · exact Int.add_le_add_left (Int.ofNat_le.2 (by omega)) _
    · exact Int.add_lt_add_left (Int.ofNat_lt.2 hback) _
  · obtain ⟨hsightings, hfinish⟩ := Timeline.sightings_of_back hgone hfailed
    refine ⟨_, hsightings, hfinish, ?_, nofun⟩
    exact Int.add_le_add_left (Int.ofNat_le.2 (Nat.le_add_left _ _)) _

end Seen

end Outage

end Scripted

end ResetCheck
