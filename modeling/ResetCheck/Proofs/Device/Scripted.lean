import ResetCheck.Device.Scripted
import ResetCheck.Proofs.Instant

/-!
# What a scripted device shows

Only flips change what a scripted device shows, so a wait ends at its start, at a flip, or when its
time is over.  A command that starts the script leaves the past as it was.

* `exists_flip_le`: an instant at which the device shows the same, no later than a given one.
* `Scripted.await_of_satisfies`, `Scripted.satisfies_of_await`: when a wait reaches what it waits
  for.
* `visibleAfter_append_flips`: the start of a script does not change what was shown before.
-/

namespace ResetCheck

/-! ## The latest flip -/

/-- The later one of the latest flip so far and another flip, up to an instant. -/
def Flip.later (t : Instant) (latest : Option Flip) (f : Flip) : Option Flip :=
  if f.instant ≤ t ∧ latest.all (·.instant ≤ f.instant) then some f else latest

/-- The latest flip up to an instant. -/
def latestFlip? (flips : List Flip) (t : Instant) : Option Flip :=
  flips.foldl (Flip.later t) none

theorem visibleAfter_eq (flips : List Flip) (t : Instant) :
    visibleAfter flips t = (latestFlip? flips t).all (·.visible) := rfl

/-- Between two flips nothing changes. -/
theorem latestFlip?_congr {flips : List Flip} {t t' : Instant}
    (h : ∀ f ∈ flips, f.instant ≤ t ↔ f.instant ≤ t') :
    latestFlip? flips t = latestFlip? flips t' := by
  have hfold : ∀ latest,
      flips.foldl (Flip.later t) latest = flips.foldl (Flip.later t') latest := by
    induction flips with
    | nil => exact fun _ => rfl
    | cons f rest ih =>
      intro latest
      have hstep : Flip.later t latest f = Flip.later t' latest f := by
        simp only [Flip.later, h f List.mem_cons_self]
      rw [List.foldl_cons, List.foldl_cons, hstep]
      exact ih (fun g hg => h g (List.mem_cons_of_mem f hg)) _
  exact hfold none

/-- Later flips do not matter. -/
theorem latestFlip?_append_of_lt {flips later : List Flip} {t : Instant}
    (h : ∀ f ∈ later, t < f.instant) : latestFlip? (flips ++ later) t = latestFlip? flips t := by
  rw [latestFlip?, latestFlip?, List.foldl_append]
  generalize flips.foldl (Flip.later t) none = latest
  induction later with
  | nil => rfl
  | cons f rest ih =>
    have hstep : Flip.later t latest f = latest := by
      have hf := h f List.mem_cons_self
      rw [Flip.later, if_neg fun hle => absurd hle.1 (Int.not_le.2 hf)]
    rw [List.foldl_cons, hstep]
    exact ih fun g hg => h g (List.mem_cons_of_mem f hg)

theorem instant_latestFlip?_le {flips : List Flip} {t : Instant} {f : Flip}
    (h : latestFlip? flips t = some f) : f.instant ≤ t := by
  have hfold : ∀ latest : Option Flip, (∀ g, latest = some g → g.instant ≤ t) →
      ∀ g, flips.foldl (Flip.later t) latest = some g → g.instant ≤ t := by
    clear h
    induction flips with
    | nil => exact fun _ hlatest => hlatest
    | cons f rest ih =>
      intro latest hlatest
      refine ih _ ?_
      intro g hg
      rw [Flip.later] at hg
      split at hg
      · next hf => exact Option.some.inj hg ▸ hf.1
      · exact hlatest g hg
  exact hfold none (by simp) f h

/-- A flip at the very instant overrules all flips before it. -/
theorem latestFlip?_concat {flips : List Flip} {f : Flip} :
    latestFlip? (flips ++ [f]) f.instant = some f := by
  have hle : (latestFlip? flips f.instant).all (·.instant ≤ f.instant) = true := by
    cases hlatest : latestFlip? flips f.instant with
    | none => rfl
    | some g => simpa using instant_latestFlip?_le hlatest
  rw [latestFlip?, List.foldl_append]
  exact if_pos ⟨Int.le_refl _, hle⟩

theorem mem_of_latestFlip? {flips : List Flip} {t : Instant} {f : Flip}
    (h : latestFlip? flips t = some f) : f ∈ flips := by
  have hfold : ∀ latest : Option Flip, ∀ g, flips.foldl (Flip.later t) latest = some g →
      g ∈ flips ∨ latest = some g := by
    clear h
    induction flips with
    | nil => exact fun latest g hg => .inr hg
    | cons f rest ih =>
      intro latest g hg
      rcases ih _ g hg with hmem | hlatest
      · exact .inl (List.mem_cons_of_mem f hmem)
      · rw [Flip.later] at hlatest
        split at hlatest
        · exact .inl (Option.some.inj hlatest ▸ List.mem_cons_self)
        · exact .inr hlatest
  exact (hfold none f h).resolve_right nofun

/-- From its instant on, a flip after all others decides. -/
theorem visibleAfter_concat {flips : List Flip} {f : Flip} {t : Instant}
    (h : ∀ g ∈ flips, g.instant ≤ f.instant) :
    visibleAfter (flips ++ [f]) t = if f.instant ≤ t then f.visible else visibleAfter flips t := by
  have hlatest : (latestFlip? flips t).all (·.instant ≤ f.instant) = true := by
    rw [Option.all_eq_true]
    exact fun g hg => decide_eq_true (h g (mem_of_latestFlip? hg))
  rw [visibleAfter_eq, latestFlip?, List.foldl_append]
  show (Flip.later t (latestFlip? flips t) f).all (·.visible) = _
  rw [Flip.later]
  by_cases ht : f.instant ≤ t
  · rw [if_pos ⟨ht, hlatest⟩, if_pos ht]
    rfl
  · rw [if_neg fun hf => ht hf.1, if_neg ht]
    rfl

/-- What is shown at an instant is shown from the start on, or from some flip on. -/
theorem exists_flip_le (flips : List Flip) {since t : Instant} (h : since ≤ t) :
    ∃ c ∈ since :: (flips.map (·.instant)).filter (since < ·), c ≤ t ∧
      visibleAfter flips c = visibleAfter flips t := by
  have hlast : ∃ c ∈ since :: (flips.map (·.instant)).filter (since < ·), since ≤ c ∧ c ≤ t ∧
      ∀ f ∈ flips, f.instant ≤ c ↔ f.instant ≤ t := by
    induction flips with
    | nil => exact ⟨since, by simp, Int.le_refl _, h, by simp⟩
    | cons f rest ih =>
      obtain ⟨c, hc, hsince, hle, hrest⟩ := ih
      by_cases hf : c < f.instant ∧ f.instant ≤ t
      · -- the flip is the last one so far
        refine ⟨f.instant, ?_, Int.le_of_lt (Int.lt_of_le_of_lt hsince hf.1), hf.2, ?_⟩
        · simp [Int.lt_of_le_of_lt hsince hf.1]
        · intro g hg
          rcases List.mem_cons.1 hg with rfl | hg
          · exact ⟨fun _ => hf.2, fun _ => Int.le_refl _⟩
          · have := hrest g hg
            grind
      · refine ⟨c, ?_, hsince, hle, ?_⟩
        · rcases List.mem_cons.1 hc with hc | hc
          · exact List.mem_cons.2 (.inl hc)
          · rw [List.map_cons, List.filter_cons]
            split
            · exact List.mem_cons_of_mem _ (List.mem_cons_of_mem _ hc)
            · exact List.mem_cons_of_mem _ hc
        · intro g hg
          rcases List.mem_cons.1 hg with rfl | hg
          · grind
          · exact hrest g hg
  obtain ⟨c, hc, -, hle, hflips⟩ := hlast
  refine ⟨c, hc, hle, ?_⟩
  rw [visibleAfter_eq, visibleAfter_eq, latestFlip?_congr hflips]

/-! ## Waits -/

/-- The instants at which a wait may reach what it waits for. -/
def Wait.Covers (w : Wait) (t : Instant) : Prop :=
  w.since ≤ t ∧ (t = w.since ∨ (w.since.alarm? w.timeout).all (t < ·))

theorem Wait.Covers.of_le {w : Wait} {t t' : Instant} (h : w.Covers t) (hsince : w.since ≤ t')
    (hle : t' ≤ t) : w.Covers t' := by
  obtain ⟨-, rfl | hlt⟩ := h
  · exact ⟨hsince, .inl (Int.le_antisymm hle hsince)⟩
  · refine ⟨hsince, .inr ?_⟩
    rw [Option.all_eq_true] at hlt ⊢
    intro alarm halarm
    have := hlt alarm halarm
    simp only [decide_eq_true_eq] at this ⊢
    exact Int.lt_of_le_of_lt hle this

namespace Scripted

variable {d : Scripted} {w : Wait} {wanted : Presence} {since t : Instant}

theorem satisfies_gone : d.satisfies .gone t ↔ visibleAfter d.flips t = false := by
  rw [satisfies, visibleAt]
  cases visibleAfter d.flips t <;> decide

theorem satisfies_back : d.satisfies .back t ↔ visibleAfter d.flips t = true := by
  rw [satisfies, visibleAt]
  cases visibleAfter d.flips t <;> decide

theorem firstSatisfied?_of_satisfies (h : since ≤ t) (hs : d.satisfies wanted t) :
    ∃ t₁, d.firstSatisfied? wanted since = some t₁ ∧ t₁ ≤ t := by
  obtain ⟨c, hc, hle, hsame⟩ := exists_flip_le d.flips h
  have hsc : d.satisfies wanted c := by
    rw [satisfies, visibleAt, hsame]
    exact hs
  have hmem : c ∈ (since :: (d.flips.map (·.instant)).filter (since < ·)).filter
      (d.satisfies wanted) := List.mem_filter.2 ⟨hc, hsc⟩
  cases hmin : d.firstSatisfied? wanted since with
  | none =>
    rw [firstSatisfied?, List.min?_eq_none_iff] at hmin
    rw [hmin] at hmem
    cases hmem
  | some t₁ =>
    rw [firstSatisfied?, List.min?_eq_some_iff] at hmin
    exact ⟨t₁, rfl, Int.le_trans (hmin.2 c hmem) hle⟩

theorem satisfies_of_firstSatisfied? (h : d.firstSatisfied? wanted since = some t) :
    since ≤ t ∧ d.satisfies wanted t := by
  rw [firstSatisfied?, List.min?_eq_some_iff] at h
  obtain ⟨hmem, hs⟩ := List.mem_filter.1 h.1
  refine ⟨?_, hs⟩
  rcases List.mem_cons.1 hmem with rfl | hmem
  · exact Int.le_refl _
  · exact Int.le_of_lt (by simpa using (List.mem_filter.1 hmem).2)

/-- A wait reaches what it waits for if the device shows it in time, and no later than that. -/
theorem await_of_satisfies (hscript : d.script ≠ .transportFailure) (ht : w.Covers t)
    (hs : d.satisfies w.wanted t) :
    ∃ t₁ ≤ t, w.since ≤ t₁ ∧ d.await w = some ⟨(t₁ - w.since).toNat, .reached⟩ := by
  obtain ⟨t₁, hfirst, hle⟩ := firstSatisfied?_of_satisfies ht.1 hs
  have hsince := (satisfies_of_firstSatisfied? hfirst).1
  refine ⟨t₁, hle, hsince, ?_⟩
  rw [await, if_neg hscript, hfirst]
  exact if_pos (ht.of_le hsince hle).2

/-- A wait reaches what it waits for at the first instant at which the device shows it. -/
theorem await_eq_reached (hscript : d.script ≠ .transportFailure) (ht : w.Covers t)
    (hs : d.satisfies w.wanted t)
    (hfirst : ∀ t', w.since ≤ t' → t' < t → ¬d.satisfies w.wanted t') :
    d.await w = some ⟨(t - w.since).toNat, .reached⟩ := by
  obtain ⟨t₁, hmin, hle⟩ := firstSatisfied?_of_satisfies ht.1 hs
  obtain ⟨hsince, hs₁⟩ := satisfies_of_firstSatisfied? hmin
  obtain rfl : t₁ = t :=
    Int.le_antisymm hle (Int.not_lt.1 fun hlt => hfirst t₁ hsince hlt hs₁)
  rw [await, if_neg hscript, hmin]
  exact if_pos ht.2

/-- A wait is given up if the device does not show in time what it waits for. -/
theorem await_eq_giveUp? (hscript : d.script ≠ .transportFailure)
    (hnone : ∀ t, w.Covers t → ¬d.satisfies w.wanted t) : d.await w = giveUp? w := by
  rw [await, if_neg hscript]
  split
  · next t hmin =>
    obtain ⟨hsince, hs⟩ := satisfies_of_firstSatisfied? hmin
    exact if_neg fun hcovers => hnone t ⟨hsince, hcovers⟩ hs
  · rfl

/-- A wait reaches what it waits for only if the device shows it in time. -/
theorem satisfies_of_await {answer : WaitAnswer} (h : d.await w = some answer)
    (hr : answer.result = .reached) :
    w.Covers (w.since + answer.after) ∧ d.satisfies w.wanted (w.since + answer.after) := by
  have hgiveUp : giveUp? w ≠ some answer := by
    intro hg
    rw [giveUp?, Option.map_eq_some_iff] at hg
    obtain ⟨deadline, -, rfl⟩ := hg
    cases hr
  rw [await] at h
  split at h
  · obtain rfl := Option.some.inj h
    cases hr
  · split at h
    · next t₁ hfirst =>
      split at h
      · next hcovers =>
        obtain rfl := Option.some.inj h
        obtain ⟨hsince, hs⟩ := satisfies_of_firstSatisfied? hfirst
        have hend : w.since + (t₁ - w.since).toNat = t₁ := by
          unfold Instant at *
          omega
        dsimp only
        rw [hend]
        exact ⟨⟨hsince, hcovers⟩, hs⟩
      · exact absurd h hgiveUp
    · exact absurd h hgiveUp

end Scripted

/-! ## The start of a script -/

theorem Flip.le_of_mem_after {now : Instant} {offset : Span} {visible : Bool} {f : Flip}
    (h : f ∈ Flip.after now offset visible) :
    now ≤ f.instant ∧ (offset.nanos ≠ 0 → now < f.instant) := by
  rw [Flip.after, Option.mem_toList, Option.map_eq_some_iff] at h
  obtain ⟨t, ht, rfl⟩ := h
  rw [Instant.alarm?] at ht
  split at ht
  · obtain rfl := Option.some.inj ht
    unfold Span.ticks
    unfold Instant at *
    dsimp only
    omega
  · cases ht

/-- No flip of a script comes before its start. -/
theorem Script.le_of_mem_flips {script : Script} {now : Instant} {f : Flip}
    (h : f ∈ script.flips now) : now ≤ f.instant := by
  cases script with
  | reconnects d r =>
    rcases List.mem_append.1 h with h | h
    · exact (Flip.le_of_mem_after h).1
    · exact (Flip.le_of_mem_after h).1
  | staysDisconnected d => exact (Flip.le_of_mem_after h).1
  | neverDisconnects => cases h
  | transportFailure => cases h

/-- What was shown before a script started is not changed by it. -/
theorem visibleAfter_append_flips {flips : List Flip} {script : Script} {now t : Instant}
    (h : t < now) : visibleAfter (flips ++ script.flips now) t = visibleAfter flips t := by
  rw [visibleAfter_eq, visibleAfter_eq, latestFlip?_append_of_lt]
  intro f hf
  exact Int.lt_of_lt_of_le h (Script.le_of_mem_flips hf)

/-- Whether a script hides the device for some time or for good. -/
def Script.Hides : Script → Prop
  | reconnects d r => d < r
  | staysDisconnected _ => True
  | neverDisconnects => False
  | transportFailure => False

theorem hidden_append_after {flips : List Flip} {now : Instant} {offset : Span}
    (h : visibleAfter flips now = false) :
    visibleAfter (flips ++ Flip.after now offset false) now = false := by
  by_cases hoffset : offset.nanos = 0
  · have hflip : Flip.after now offset false = [⟨now, false⟩] := by
      have hticks : offset.ticks = 0 := by rw [Span.ticks, hoffset]
      have hseconds : offset.seconds < Instant.spanLimit := by
        rw [Span.seconds, hoffset]
        decide
      rw [Flip.after, Instant.alarm?, if_pos hseconds, hticks]
      show [(⟨now + 0, false⟩ : Flip)] = _
      rw [Int.add_zero]
    rw [hflip, visibleAfter_eq, latestFlip?_concat (f := ⟨now, false⟩)]
    rfl
  · rw [visibleAfter_eq, latestFlip?_append_of_lt fun f hf => (Flip.le_of_mem_after hf).2 hoffset]
    exact h

/-- A script that hides the device does not show it at its start. -/
theorem Script.Hides.hidden_append_flips {script : Script} (hhides : script.Hides)
    {flips : List Flip} {now : Instant} (h : visibleAfter flips now = false) :
    visibleAfter (flips ++ script.flips now) now = false := by
  cases script with
  | reconnects d r =>
    have hr : r.nanos ≠ 0 := Nat.ne_of_gt (Nat.lt_of_le_of_lt (Nat.zero_le _) hhides)
    rw [Script.flips, if_pos (Nat.le_of_lt hhides), ← List.append_assoc, visibleAfter_eq,
      latestFlip?_append_of_lt fun f hf => (Flip.le_of_mem_after hf).2 hr]
    exact hidden_append_after h
  | staysDisconnected d => exact hidden_append_after h
  | neverDisconnects => cases hhides
  | transportFailure => cases hhides

/-! ## A command -/

namespace Scripted

variable {d : Scripted} {issue : Instant} {command : String}

/-- The flips of a device to which a command was issued at an instant. -/
def flipsAfter (d : Scripted) (issue : Instant) : List Flip :=
  d.flips ++ d.script.flips issue

/-- The device after a command that was not refused. -/
def issued (d : Scripted) (issue : Instant) (command : String) : Scripted :=
  { d with
    commands := d.commands ++ [command]
    flips := d.flipsAfter issue }

theorem execute_eq (hreply : ∀ text, d.reply ≠ .error (.rejected text)) :
    Device.execute d issue command = (⟨0, d.reply⟩, d.issued issue command) := by
  obtain ⟨serial, properties, propertyFault, reply, script, flips, commands, reads⟩ := d
  cases reply with
  | ok raw => rfl
  | error fault =>
    cases fault with
    | linkLost text => rfl
    | rejected text => exact absurd rfl (hreply text)

end Scripted

/-! ## An outage -/

/-- What was to be seen of a device at the start of the clock stays so unless it gets a command. -/
structure Scripted.Still (d : Scripted) : Prop where
  past : ∀ f ∈ d.flips, f.instant ≤ 0
  shown : visibleAfter d.flips 0 = true

theorem Scripted.Still.stays_visible {d : Scripted} (h : d.Still) {t : Instant} (ht : 0 ≤ t) :
    visibleAfter d.flips t = true := by
  rw [← h.shown, visibleAfter_eq, visibleAfter_eq, latestFlip?_congr]
  intro f hf
  have hpast := h.past f hf
  exact ⟨fun _ => hpast, fun _ => Int.le_trans hpast ht⟩

/-- The flip of a script decides from its instant on if no other flip comes later. -/
theorem visibleAfter_append_after {flips : List Flip} {start t : Instant} {offset : Span}
    {visible : Bool} (h : ∀ f ∈ flips, ∀ a, start.alarm? offset = some a → f.instant ≤ a) :
    visibleAfter (flips ++ Flip.after start offset visible) t =
      if (start.alarm? offset).any (· ≤ t) then visible else visibleAfter flips t := by
  rw [Flip.after]
  cases halarm : start.alarm? offset with
  | none =>
    rw [Option.map_none, Option.toList_none, List.append_nil]
    rfl
  | some a =>
    rw [Option.map_some, Option.toList_some, visibleAfter_concat fun f hf => h f hf a halarm]
    simp

/-- A device whose script started is hidden from the one flip on and until the other. -/
theorem Scripted.Still.hidden_iff {d : Scripted} (h : d.Still) {issue t : Instant}
    {away back : Span}
    (hissue : 0 ≤ issue) (hle : away ≤ back) (ht : 0 ≤ t) :
    visibleAfter (d.flips ++ (Script.reconnects away back).flips issue) t = false ↔
      (∃ a, issue.alarm? away = some a ∧ a ≤ t) ∧ ∀ a, issue.alarm? back = some a → t < a := by
  have hpast : ∀ f ∈ d.flips, ∀ a, issue.alarm? away = some a → f.instant ≤ a := fun f hf a ha =>
    Int.le_trans (h.past f hf) (Int.le_trans hissue (Instant.le_alarm? ha))
  have hearlier : ∀ f ∈ d.flips ++ Flip.after issue away false,
      ∀ a, issue.alarm? back = some a → f.instant ≤ a := by
    intro f hf a ha
    rcases List.mem_append.1 hf with hf | hf
    · exact Int.le_trans (h.past f hf) (Int.le_trans hissue (Instant.le_alarm? ha))
    · rw [Flip.after, Option.mem_toList, Option.map_eq_some_iff] at hf
      obtain ⟨b, hb, rfl⟩ := hf
      exact Instant.alarm?_mono hle hb ha
  rw [Script.flips, if_pos (show away.nanos ≤ back.nanos from hle), ← List.append_assoc,
    visibleAfter_append_after hearlier, visibleAfter_append_after hpast, h.stays_visible ht]
  cases issue.alarm? away with
  | none => simp
  | some a =>
    cases issue.alarm? back with
    | none => simp
    | some b =>
      by_cases hb : b ≤ t
      · simp [hb]
      · simp [hb, Int.not_le.1 hb]

/-- A device that is away for five milliseconds after a command. -/
def Scripted.brief : Scripted where
  serial := "SN1"
  properties := []
  propertyFault := none
  reply := .ok ""
  script := .reconnects (.ofMillis 5) (.ofMillis 10)
  flips := []
  commands := []
  reads := 0

end ResetCheck
