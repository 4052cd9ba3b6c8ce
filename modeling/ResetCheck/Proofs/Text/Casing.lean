import ResetCheck.Text.Casing

/-!
# The lowercase of a part of a text

Lowercase is taken character by character, and only a capital sigma depends on what stands around
it: it takes its final form if it ends a word.  So a part of a text has in it the lowercase that it
has on its own, unless a capital sigma of it ends a word in the one but not in the other.
Characters that case rules look through let this depend on what stands around the part.

* `Text.lowerBetween`: the lowercase of a part of a text.
* `Text.lowerBetween_eq_lower_iff`: whether it is the lowercase of the part on its own.
* `Text.Settled`: texts whose lowercase is the same wherever they stand.
* `Text.settled_iff_infix`: these are the texts that are found in lowercase wherever they stand.
-/

namespace ResetCheck.Text

variable {before before' s t u v after after' : List Char} {c : Char}

/-! ## Looking for a cased character -/

/-- Whether a text consists of characters that case rules look through. -/
def SeenThrough (s : List Char) : Prop :=
  ∀ c ∈ s, isCaseIgnorable c

instance (s : List Char) : Decidable (SeenThrough s) :=
  decidable_of_iff (s.all isCaseIgnorable) List.all_eq_true

theorem seenThrough_reverse : SeenThrough s.reverse ↔ SeenThrough s := by
  simp [SeenThrough]

theorem meetsCased_append_of_seenThrough (h : SeenThrough s) (t : List Char) :
    meetsCased (s ++ t) = meetsCased t := by
  induction s with
  | nil => rfl
  | cons c s ih =>
    obtain ⟨hc, hs⟩ := List.forall_mem_cons.1 h
    rw [← ih hs, meetsCased, List.cons_append, List.dropWhile_cons_of_pos hc]
    rfl

theorem meetsCased_append_of_not (h : ¬SeenThrough s) (t : List Char) :
    meetsCased (s ++ t) = meetsCased s := by
  induction s with
  | nil => exact absurd (by simp [SeenThrough]) h
  | cons c s ih =>
    by_cases hc : isCaseIgnorable c
    · have hs : ¬SeenThrough s := fun hs => h (List.forall_mem_cons.2 ⟨hc, hs⟩)
      have hrest := ih hs
      rw [meetsCased, meetsCased] at hrest ⊢
      rwa [List.cons_append, List.dropWhile_cons_of_pos hc, List.dropWhile_cons_of_pos hc]
    · rw [meetsCased, meetsCased, List.cons_append, List.dropWhile_cons_of_neg hc,
        List.dropWhile_cons_of_neg hc]
      rfl

theorem not_meetsCased_of_seenThrough (h : SeenThrough s) : ¬meetsCased s := by
  have hend := meetsCased_append_of_seenThrough h []
  rw [List.append_nil] at hend
  rw [hend]
  decide

/-- Whether a place ends a word, given what stands before it, nearest first, and after it. -/
def EndsWord (before after : List Char) : Prop :=
  meetsCased before ∧ ¬meetsCased after

instance (before after : List Char) : Decidable (EndsWord before after) :=
  inferInstanceAs (Decidable (meetsCased before ∧ ¬meetsCased after))

theorem lowerSigma_eq_iff :
    lowerSigma before after = lowerSigma before' after' ↔
      (EndsWord before after ↔ EndsWord before' after') := by
  have hforms : Char.ofNat 0x3C2 ≠ Char.ofNat 0x3C3 := by decide
  have hsigma : ∀ before after, lowerSigma before after =
      if EndsWord before after then Char.ofNat 0x3C2 else Char.ofNat 0x3C3 := by
    intro before after
    simp only [lowerSigma, EndsWord, Bool.and_eq_true, Bool.not_eq_true', Bool.not_eq_true]
  rw [hsigma, hsigma]
  by_cases h : EndsWord before after <;> by_cases h' : EndsWord before' after' <;>
    simp [h, h', hforms, hforms.symm]

/-! ## Parts of a text -/

/-- The lowercase of one character of a text. -/
def lowerPiece (before : List Char) (c : Char) (after : List Char) : List Char :=
  if c = capitalSigma then [lowerSigma before after] else lowerChar c

/-- The lowercase of a part of a text, given what stands before it, nearest first, and after it. -/
def lowerBetween (before : List Char) : List Char → List Char → List Char
  | [], _ => []
  | c :: s, after => lowerPiece before c (s ++ after) ++ lowerBetween (c :: before) s after

theorem lowerAfter_append (before s t : List Char) :
    lowerAfter before (s ++ t) = lowerBetween before s t ++ lowerAfter (s.reverse ++ before) t := by
  induction s generalizing before with
  | nil => rfl
  | cons c s ih =>
    rw [List.cons_append, lowerAfter, ih, lowerBetween, List.append_assoc, List.reverse_cons,
      List.append_assoc]
    rfl

theorem lowerBetween_nil (before s : List Char) :
    lowerBetween before s [] = lowerAfter before s := by
  have happend := lowerAfter_append before s []
  rw [List.append_nil, lowerAfter, List.append_nil] at happend
  exact happend.symm

/-- The lowercase of a text is made of the lowercase of its parts. -/
theorem lower_append_append (a s b : List Char) :
    lower (a ++ s ++ b) =
      lowerBetween [] a (s ++ b) ++ lowerBetween a.reverse s b ++
        lowerBetween (s.reverse ++ a.reverse) b [] := by
  rw [lower, List.append_assoc, lowerAfter_append, lowerAfter_append, lowerBetween_nil,
    List.append_assoc, List.append_nil]

theorem length_lowerBetween (before before' s after after' : List Char) :
    (lowerBetween before s after).length = (lowerBetween before' s after').length := by
  induction s generalizing before before' with
  | nil => rfl
  | cons c s ih =>
    have hpiece : (lowerPiece before c (s ++ after)).length =
        (lowerPiece before' c (s ++ after')).length := by
      rw [lowerPiece, lowerPiece]
      split <;> rfl
    rw [lowerBetween, lowerBetween, List.length_append, List.length_append, hpiece,
      ih (c :: before) (c :: before')]

/-- The lowercase of a part is the same in two places if its capital sigmas end words in the one
where they do in the other. -/
theorem lowerBetween_eq_iff :
    lowerBetween before s after = lowerBetween before' s after' ↔
      ∀ u v, s = u ++ capitalSigma :: v →
        (EndsWord (u.reverse ++ before) (v ++ after) ↔
          EndsWord (u.reverse ++ before') (v ++ after')) := by
  induction s generalizing before before' with
  | nil =>
    refine iff_of_true rfl fun u v h => ?_
    cases u <;> cases h
  | cons c s ih =>
    have hfirst : lowerPiece before c (s ++ after) = lowerPiece before' c (s ++ after') ↔
        (c = capitalSigma → (EndsWord before (s ++ after) ↔ EndsWord before' (s ++ after'))) := by
      rw [lowerPiece, lowerPiece]
      by_cases hc : c = capitalSigma
      · simp only [hc, if_true, List.cons.injEq, and_true, true_implies, lowerSigma_eq_iff]
      · simp [hc]
    have hsplit : lowerBetween before (c :: s) after = lowerBetween before' (c :: s) after' ↔
        lowerPiece before c (s ++ after) = lowerPiece before' c (s ++ after') ∧
          lowerBetween (c :: before) s after = lowerBetween (c :: before') s after' := by
      rw [lowerBetween, lowerBetween]
      constructor
      · intro h
        exact List.append_inj' h (length_lowerBetween ..)
      · rintro ⟨hpiece, hrest⟩
        rw [hpiece, hrest]
    rw [hsplit, hfirst, ih]
    constructor
    · rintro ⟨hc, hrest⟩ u v hs
      cases u with
      | nil =>
        obtain ⟨rfl, rfl⟩ := List.cons.inj hs
        exact hc rfl
      | cons d u =>
        obtain ⟨rfl, rfl⟩ := List.cons.inj hs
        simpa using hrest u v rfl
    · intro h
      refine ⟨fun hc => ?_, fun u v hs => ?_⟩
      · simpa using h [] s (by rw [hc]; rfl)
      · simpa using h (c :: u) v (by rw [hs]; rfl)

/-- Whether every capital sigma of a part of a text ends a word if and only if it does in the part
alone. -/
def Undisturbed (before s after : List Char) : Prop :=
  ∀ u v, s = u ++ capitalSigma :: v →
    (EndsWord (u.reverse ++ before) (v ++ after) ↔ EndsWord u.reverse v)

/-- A part has the lowercase that it has alone if and only if its capital sigmas are undisturbed. -/
theorem lowerBetween_eq_lower_iff :
    lowerBetween before s after = lower s ↔ Undisturbed before s after := by
  rw [lower, ← lowerBetween_nil, lowerBetween_eq_iff]
  simp only [List.append_nil, Undisturbed]

/-- A part that is undisturbed is found in the lowercase of the text. -/
theorem Undisturbed.infix_lower {a b : List Char} (h : Undisturbed a.reverse s b) :
    lower s <:+: lower (a ++ s ++ b) := by
  rw [lower_append_append, lowerBetween_eq_lower_iff.2 h]
  exact List.infix_append ..

theorem length_lowerBetween_eq (before s after : List Char) :
    (lowerBetween before s after).length = (lower s).length := by
  rw [lower, ← lowerBetween_nil, length_lowerBetween]

/-- A part that is found at its own place in the lowercase of the text is undisturbed. -/
theorem undisturbed_of_lower_eq {a b front back : List Char}
    (h : lower (a ++ s ++ b) = front ++ lower s ++ back)
    (hplace : front.length = (lower a).length) : Undisturbed a.reverse s b := by
  rw [lower_append_append, List.append_assoc, List.append_assoc] at h
  obtain ⟨-, hrest⟩ := List.append_inj h (by rw [length_lowerBetween_eq, hplace])
  obtain ⟨hpart, -⟩ := List.append_inj hrest (length_lowerBetween_eq ..)
  exact lowerBetween_eq_lower_iff.1 hpart

/-! ## Texts that nothing disturbs -/

/-- Whether each capital sigma of a text ends a word or does not, whatever stands around the text:
it is followed by a cased character; or something stands before it that case rules do not look
through, and either that is not cased or something of the kind follows as well. -/
def Settled (s : List Char) : Prop :=
  ∀ u v, s = u ++ capitalSigma :: v →
    meetsCased v ∨ ¬SeenThrough u ∧ (¬meetsCased u.reverse ∨ ¬SeenThrough v)

theorem settled_iff : Settled s ↔
    ∀ n < s.length, s[n]? = some capitalSigma →
      meetsCased (s.drop (n + 1)) ∨ ¬SeenThrough (s.take n) ∧
        (¬meetsCased (s.take n).reverse ∨ ¬SeenThrough (s.drop (n + 1))) := by
  constructor
  · intro h n hn hsigma
    obtain ⟨_, hget⟩ := List.getElem?_eq_some_iff.1 hsigma
    refine h _ _ ?_
    rw [← hget, List.getElem_cons_drop, List.take_append_drop]
  · rintro h u v rfl
    have hn := h u.length (by simp) (by simp)
    simpa using hn

instance (s : List Char) : Decidable (Settled s) :=
  decidable_of_iff _ settled_iff.symm

theorem Settled.undisturbed (h : Settled s) (before after : List Char) :
    Undisturbed before s after := by
  rintro u v rfl
  rcases h u v rfl with hv | ⟨hu, hv⟩
  · have hfollowed : ¬SeenThrough v := fun hv' => not_meetsCased_of_seenThrough hv' hv
    simp only [EndsWord, meetsCased_append_of_not hfollowed, hv, not_true_eq_false, and_false]
  · rw [← seenThrough_reverse] at hu
    rw [EndsWord, EndsWord, meetsCased_append_of_not hu]
    rcases hv with hv | hv
    · simp only [hv, Bool.false_eq_true, false_and]
    · rw [meetsCased_append_of_not hv]

/-- A cased character before the text, or one after it, disturbs a text that is not settled. -/
theorem exists_disturbed (h : ¬Settled s) :
    (∀ x, isCased x → ¬isCaseIgnorable x → ¬Undisturbed [x] s []) ∨
      ∀ x, isCased x → ¬isCaseIgnorable x → ¬Undisturbed [] s [x] := by
  simp only [Settled, Classical.not_forall, not_or, not_and, Classical.not_not] at h
  obtain ⟨u, v, hs, hv, h⟩ := h
  have hmeets : ∀ x, isCased x → ¬isCaseIgnorable x → meetsCased [x] := by
    intro x hcased hx
    rw [meetsCased, List.dropWhile_cons_of_neg hx]
    exact hcased
  by_cases hu : SeenThrough u
  · left
    intro x hcased hx hundisturbed
    have hu' := seenThrough_reverse.2 hu
    have hends := (hundisturbed u v hs).1
    rw [EndsWord, EndsWord, meetsCased_append_of_seenThrough hu', List.append_nil] at hends
    exact not_meetsCased_of_seenThrough hu' (hends ⟨hmeets x hcased hx, hv⟩).1
  · right
    obtain ⟨hcased', hseen⟩ := h hu
    intro x hcased hx hundisturbed
    have hends := (hundisturbed u v hs).2
    rw [EndsWord, EndsWord, meetsCased_append_of_seenThrough hseen, List.append_nil] at hends
    exact (hends ⟨hcased', hv⟩).2 (hmeets x hcased hx)

/-! ## Texts that are found wherever they stand -/

theorem eq_of_infix_cons {w q : List Char} (hlength : w.length = q.length) (h : w <:+: c :: q)
    (hc : w.head? ≠ some c) : w = q := by
  rcases List.infix_cons_iff.1 h with hprefix | hinfix
  · cases w with
    | nil => exact (List.length_eq_zero_iff.1 hlength.symm).symm
    | cons d w => exact absurd (congrArg some (List.cons_prefix_cons.1 hprefix).1) hc
  · exact hinfix.eq_of_length hlength

theorem eq_of_infix_concat {w q : List Char} (hlength : w.length = q.length)
    (h : w <:+: q ++ [c]) (hc : w.getLast? ≠ some c) : w = q := by
  rw [← List.reverse_infix, List.reverse_concat] at h
  have hreverse : w.reverse = q.reverse :=
    eq_of_infix_cons (by simpa using hlength) h (by simpa using hc)
  exact List.reverse_inj.1 hreverse

/-- A cased character that is its own lowercase, and not a given one. -/
theorem exists_letter (o : Option Char) :
    ∃ x, isCased x ∧ ¬isCaseIgnorable x ∧ (∀ before after, lowerPiece before x after = [x]) ∧
      o ≠ some x := by
  have hletter : ∀ x, x = 'a' ∨ x = 'b' →
      isCased x ∧ ¬isCaseIgnorable x ∧ x ≠ capitalSigma ∧ lowerChar x = [x] := by
    rintro x (rfl | rfl) <;> decide +kernel
  have hother : ∃ x, (x = 'a' ∨ x = 'b') ∧ o ≠ some x := by
    by_cases ho : o = some 'a'
    · exact ⟨'b', .inr rfl, by simp [ho]⟩
    · exact ⟨'a', .inl rfl, ho⟩
  obtain ⟨x, hx, ho⟩ := hother
  obtain ⟨hcased, hignorable, hsigma, hlower⟩ := hletter x hx
  exact ⟨x, hcased, hignorable, fun _ _ => by rw [lowerPiece, if_neg hsigma, hlower], ho⟩

/-- A text that is not settled is not found in lowercase next to some letter. -/
theorem exists_not_infix (h : ¬Settled s) : ∃ a b, ¬lower s <:+: lower (a ++ s ++ b) := by
  have hlength : ∀ before after, (lower s).length = (lowerBetween before s after).length :=
    fun before after => (length_lowerBetween_eq before s after).symm
  rcases exists_disturbed h with hdisturbed | hdisturbed
  · obtain ⟨x, hcased, hx, hlower, hhead⟩ := exists_letter (lower s).head?
    refine ⟨[x], [], fun hinfix => hdisturbed x hcased hx ?_⟩
    refine lowerBetween_eq_lower_iff.1 (eq_of_infix_cons (hlength _ _) ?_ hhead).symm
    rw [lower_append_append] at hinfix
    simpa [lowerBetween, hlower] using hinfix
  · obtain ⟨x, hcased, hx, hlower, hlast⟩ := exists_letter (lower s).getLast?
    refine ⟨[], [x], fun hinfix => hdisturbed x hcased hx ?_⟩
    refine lowerBetween_eq_lower_iff.1 (eq_of_infix_concat (hlength _ _) ?_ hlast).symm
    rw [lower_append_append] at hinfix
    simpa [lowerBetween, hlower] using hinfix

/-- The texts that are found in lowercase wherever they stand are the settled ones. -/
theorem settled_iff_infix : Settled s ↔ ∀ a b, lower s <:+: lower (a ++ s ++ b) := by
  constructor
  · intro h a b
    exact (h.undisturbed a.reverse b).infix_lower
  · intro h
    refine Classical.not_not.1 fun hnot => ?_
    obtain ⟨a, b, hab⟩ := exists_not_infix hnot
    exact hab (h a b)

end ResetCheck.Text
