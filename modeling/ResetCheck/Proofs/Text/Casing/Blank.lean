import ResetCheck.Proofs.Text.Blank
import ResetCheck.Proofs.Text.Casing

/-!
# Lowercase and blanks

Blanks have no case and end a word, so the lowercase of a text among blanks is the lowercase of the
text, among the same blanks.  Nor does anything else become a blank in lowercase.  So it makes no
difference for a phrase without blanks at its ends whether those around a text are taken off before
it is searched.

* `Text.lower_padded`: the lowercase of a text among blanks.
* `Text.Trimmed.lower`: lowercase leaves the ends of a text without blanks.
* `Text.infix_lower_trimChars_iff`: searching a text with or without the blanks around it.
-/

namespace ResetCheck.Text

variable {before s t after : List Char} {c : Char}

/-! ## Blanks have no case -/

theorem exists_blank_range (h : isBlank c) :
    ∃ r ∈ blankRanges, r.1 ≤ c.toNat ∧ c.toNat ≤ r.2 := by
  obtain ⟨r, hr, hc⟩ := List.any_eq_true.1 h
  simp only [Bool.and_eq_true, decide_eq_true_eq] at hc
  exact ⟨r, hr, hc⟩

/-- Blanks have no case, and case rules do not look through them. -/
theorem blank_caseless (h : isBlank c) :
    c ≠ capitalSigma ∧ lowerChar c = [c] ∧ ¬isCased c ∧ ¬isCaseIgnorable c := by
  have hall : ∀ r ∈ blankRanges, ∀ k < r.2 + 1 - r.1,
      Char.ofNat (r.1 + k) ≠ capitalSigma ∧
        lowerChar (Char.ofNat (r.1 + k)) = [Char.ofNat (r.1 + k)] ∧
        ¬isCased (Char.ofNat (r.1 + k)) ∧ ¬isCaseIgnorable (Char.ofNat (r.1 + k)) := by
    decide +kernel
  obtain ⟨r, hr, hle, hge⟩ := exists_blank_range h
  have hc := hall r hr (c.toNat - r.1) (by omega)
  rwa [Nat.add_sub_cancel' hle, Char.ofNat_toNat] at hc

theorem lowerBetween_blank (h : Blank s) (before after : List Char) :
    lowerBetween before s after = s := by
  induction s generalizing before with
  | nil => rfl
  | cons c s ih =>
    obtain ⟨hc, hs⟩ := List.forall_mem_cons.1 h
    obtain ⟨hsigma, hlower, -⟩ := blank_caseless hc
    rw [lowerBetween, lowerPiece, if_neg hsigma, hlower, ih hs]
    rfl

theorem not_meetsCased_of_blank (h : Blank s) : ¬meetsCased s := by
  cases s with
  | nil => decide
  | cons c s =>
    obtain ⟨-, -, hcased, hignorable⟩ := blank_caseless (h c List.mem_cons_self)
    rw [meetsCased, List.dropWhile_cons_of_neg hignorable]
    exact hcased

theorem meetsCased_append_blank (h : Blank t) (s : List Char) :
    meetsCased (s ++ t) = meetsCased s := by
  by_cases hs : SeenThrough s
  · rw [meetsCased_append_of_seenThrough hs, Bool.eq_false_iff.2 (not_meetsCased_of_blank h),
      Bool.eq_false_iff.2 (not_meetsCased_of_seenThrough hs)]
  · exact meetsCased_append_of_not hs t

/-- Blanks around a text disturb nothing. -/
theorem undisturbed_of_blank (hbefore : Blank before) (hafter : Blank after) :
    Undisturbed before s after := by
  intro u v _
  rw [EndsWord, EndsWord, meetsCased_append_blank hbefore, meetsCased_append_blank hafter]

/-- The lowercase of a text among blanks is the lowercase of the text, among the same blanks. -/
theorem lower_padded (hbefore : Blank before) (hafter : Blank after) :
    lower (before ++ s ++ after) = before ++ lower s ++ after := by
  rw [lower_append_append, lowerBetween_blank hbefore, lowerBetween_blank hafter,
    lowerBetween_eq_lower_iff.2 (undisturbed_of_blank hbefore.reverse hafter)]

/-! ## Lowercase without blanks at its ends -/

/-- No run of the table leads to a blank. -/
theorem lowercaseRuns_not_blank : ∀ r ∈ lowercaseRuns, ∀ b ∈ blankRanges,
    r.2.1 + r.2.2.2 < r.1 + b.1 ∨ b.2 < r.2.2.2 := by
  decide +kernel

theorem toNat_ofNat (n : Nat) : (Char.ofNat n).toNat = n ∨ (Char.ofNat n).toNat = 0 := by
  by_cases h : n.isValidChar
  · left
    rw [Char.ofNat, dif_pos h]
    rfl
  · right
    rw [Char.ofNat, dif_neg h]
    rfl

theorem not_isBlank_of_runLower? {n m : Nat} {r : Nat × Nat × Nat × Nat} (hr : r ∈ lowercaseRuns)
    (h : runLower? n r = some m) : ¬isBlank (Char.ofNat m) := by
  obtain ⟨first, last, step, low⟩ := r
  rw [runLower?] at h
  split at h
  · next hin =>
    simp only [Bool.and_eq_true, decide_eq_true_eq] at hin
    obtain ⟨⟨hfirst, hlast⟩, -⟩ := hin
    obtain rfl := Option.some.inj h
    intro hblank
    have hpositive : ∀ b ∈ blankRanges, 0 < b.1 := by decide
    obtain ⟨b, hb, hle, hge⟩ := exists_blank_range hblank
    have hapart := lowercaseRuns_not_blank _ hr b hb
    have hzero := hpositive b hb
    dsimp only at hapart
    rcases toNat_ofNat (n - first + low) with hcode | hcode <;> omega
  · cases h

theorem not_isBlank_of_mem_lowerChar {d : Char} (hc : ¬isBlank c) (hd : d ∈ lowerChar c) :
    ¬isBlank d := by
  by_cases hascii : c.toNat < 0x80
  · have hall : ∀ n < 0x80, ¬isBlank (Char.ofNat n) →
        (lowerChar (Char.ofNat n)).all (!isBlank ·) := by
      decide +kernel
    have hc' := hall c.toNat hascii
    rw [Char.ofNat_toNat] at hc'
    simpa using List.all_eq_true.1 (hc' hc) d hd
  · rw [lowerChar, if_neg hascii] at hd
    split at hd
    · have hmarked : ['i', Char.ofNat 0x307].all (!isBlank ·) := by decide
      simpa using List.all_eq_true.1 hmarked d hd
    · split at hd
      · next n hrun =>
        obtain rfl := List.mem_singleton.1 hd
        obtain ⟨r, hr, hn⟩ := List.exists_of_findSome?_eq_some hrun
        exact not_isBlank_of_runLower? hr hn
      · rwa [List.mem_singleton.1 hd]

theorem lowerChar_ne_nil (c : Char) : lowerChar c ≠ [] := by
  rw [lowerChar]
  split
  · simp
  · split
    · simp
    · split <;> simp

theorem not_isBlank_of_mem_lowerPiece {d : Char} (hc : ¬isBlank c)
    (hd : d ∈ lowerPiece before c after) : ¬isBlank d := by
  rw [lowerPiece] at hd
  split at hd
  · obtain rfl := List.mem_singleton.1 hd
    rw [lowerSigma]
    split <;> decide
  · exact not_isBlank_of_mem_lowerChar hc hd

theorem lowerPiece_ne_nil (before : List Char) (c : Char) (after : List Char) :
    lowerPiece before c after ≠ [] := by
  rw [lowerPiece]
  split
  · simp
  · exact lowerChar_ne_nil c

theorem head?_append_not_blank {piece rest : List Char} (hne : piece ≠ [])
    (h : ∀ d ∈ piece, ¬isBlank d) : ∀ d, (piece ++ rest).head? = some d → ¬isBlank d := by
  obtain ⟨c, piece, rfl⟩ := List.exists_cons_of_ne_nil hne
  intro d hd
  obtain rfl := Option.some.inj hd
  exact h c List.mem_cons_self

theorem getLast?_append_not_blank {piece rest : List Char} (hne : piece ≠ [])
    (h : ∀ d ∈ piece, ¬isBlank d) : ∀ d, (rest ++ piece).getLast? = some d → ¬isBlank d := by
  intro d hd
  rw [← List.head?_reverse, List.reverse_append] at hd
  exact head?_append_not_blank (by simpa using hne) (by simpa using h) d hd

/-- A text without blanks at its ends has a lowercase without blanks at its ends. -/
theorem Trimmed.lower (h : Trimmed s) : Trimmed (lower s) where
  first := by
    cases s with
    | nil => exact nofun
    | cons c s =>
      exact head?_append_not_blank (lowerPiece_ne_nil [] c s)
        fun d hd => not_isBlank_of_mem_lowerPiece (h.first c rfl) hd
  last := by
    rcases List.eq_nil_or_concat s with rfl | ⟨s, c, hs⟩
    · exact nofun
    · obtain rfl := hs.trans List.concat_eq_append
      have hlower : Text.lower (s ++ [c]) =
          lowerBetween [] s [c] ++ lowerPiece (s.reverse ++ []) c [] := by
        rw [Text.lower, lowerAfter_append, lowerAfter, lowerAfter, List.append_nil]
        rfl
      have hc : ¬isBlank c := h.last c List.getLast?_concat
      rw [hlower]
      exact getLast?_append_not_blank (lowerPiece_ne_nil _ c [])
        fun d hd => not_isBlank_of_mem_lowerPiece hc hd

/-! ## Searching a text for a phrase -/

/-- A phrase without blanks at its ends is found in a text if and only if it is found in the text
without blanks at its ends. -/
theorem infix_lower_trimChars_iff {p : List Char} (h : Trimmed p) (s : List Char) :
    lower p <:+: lower (trimChars s) ↔ lower p <:+: lower s := by
  obtain ⟨before, after, hs, hbefore, hafter⟩ := padded_trimChars s
  have hlower : lower s = before ++ lower (trimChars s) ++ after := by
    rw [← lower_padded hbefore hafter, ← hs]
  rw [hlower, infix_padded_iff h.lower hbefore hafter]

end ResetCheck.Text
