import ResetCheck.Outcome
import ResetCheck.Proofs.Text.Blank

/-!
# Finding a phrase in any case of its letters

A reply is searched for phrases after both were mapped to lowercase.  Lowercase is that of Unicode,
in which a few letters that are not ASCII become ASCII letters.  A phrase in which none of these can
be mistaken for its own letters is found if and only if it is there up to the case of its ASCII
letters.

* `Text.folded`: a text without the case of its ASCII letters.
* `Text.Plain`: phrases that no other letters can be mistaken for.
* `Text.infix_lower_iff`: searching a text in lowercase for such a phrase.
* `Support.classify_eq_notSupported_iff`: what a reply tells, by the phrases it holds.
-/

namespace ResetCheck

namespace Text

/-- A text without the case of its ASCII letters. -/
def folded (s : List Char) : List Char :=
  s.map Char.toLower

@[simp]
theorem folded_cons (c : Char) (s : List Char) : folded (c :: s) = c.toLower :: folded s := rfl

@[simp]
theorem folded_append (a b : List Char) : folded (a ++ b) = folded a ++ folded b :=
  List.map_append

/-! ## The lowercase of one character -/

theorem asciiLower_eq {c : Char} (h : c.toNat < 0x80) : asciiLower c = c.toLower := by
  have hall : ∀ n < 0x80, asciiLower (Char.ofNat n) = (Char.ofNat n).toLower := by decide
  rw [← Char.ofNat_toNat c]
  exact hall _ h

theorem lowerChar_of_ascii {c : Char} (h : c.toNat < 0x80) : lowerChar c = [c.toLower] := by
  rw [lowerChar, if_pos h, asciiLower_eq h]

theorem toLower_eq_self {c : Char} (h : c.toNat < 'A'.toNat ∨ 'Z'.toNat < c.toNat) :
    c.toLower = c := by
  have hval : ¬(c.val ≥ 'A'.val ∧ c.val ≤ 'Z'.val) := by
    rintro ⟨hge, hle⟩
    have hge' : 'A'.toNat ≤ c.toNat := UInt32.le_iff_toNat_le.1 hge
    have hle' : c.toNat ≤ 'Z'.toNat := UInt32.le_iff_toNat_le.1 hle
    omega
  exact dif_neg hval

theorem toLower_of_not_ascii {c : Char} (h : 0x80 ≤ c.toNat) : c.toLower = c :=
  toLower_eq_self (.inr (Nat.lt_of_lt_of_le (by decide) h))

theorem ascii_of_toLower {c : Char} (h : c.toLower.toNat < 0x80) : c.toNat < 0x80 := by
  refine Nat.lt_of_not_le fun hc => ?_
  rw [toLower_of_not_ascii hc] at h
  exact Nat.not_lt.2 hc h

/-- Whether a character that is not ASCII may have this one as its lowercase. -/
def IsForeign (d : Char) : Prop :=
  0x80 ≤ d.toNat ∨ d = 'k'

/-- Where a run of letters that are not ASCII leads: to code points of characters that are not
ASCII, but for the sign of the unit Kelvin. -/
theorem lowercaseRuns_bounds : ∀ r ∈ lowercaseRuns, 0x80 ≤ r.2.1 →
    (0x80 ≤ r.2.2.2 ∧ (r.2.1 + r.2.2.2 < r.1 + 0xD800 ∨
        0xE000 ≤ r.2.2.2 ∧ r.2.1 + r.2.2.2 < r.1 + 0x110000)) ∨
      r.1 = r.2.1 ∧ r.2.2.2 = 'k'.toNat := by
  decide +kernel

theorem isForeign_of_runLower? {n m : Nat} {r : Nat × Nat × Nat × Nat} (hr : r ∈ lowercaseRuns)
    (hn : 0x80 ≤ n) (h : runLower? n r = some m) : IsForeign (Char.ofNat m) := by
  obtain ⟨first, last, step, lower⟩ := r
  rw [runLower?] at h
  split at h
  · next hin =>
    simp only [Bool.and_eq_true, decide_eq_true_eq] at hin
    obtain ⟨⟨hfirst, hlast⟩, -⟩ := hin
    obtain rfl := Option.some.inj h
    rcases lowercaseRuns_bounds _ hr (by dsimp only; omega) with ⟨hlow, hvalid⟩ | ⟨hsame, hk⟩
    · left
      have hchar : (n - first + lower).isValidChar := by
        rcases hvalid with hvalid | hvalid
        · exact .inl (by dsimp only at *; omega)
        · exact .inr (by dsimp only at *; omega)
      have hcode : (Char.ofNat (n - first + lower)).toNat = n - first + lower := by
        rw [Char.ofNat, dif_pos hchar]
        rfl
      rw [hcode]
      exact Nat.le_trans hlow (Nat.le_add_left _ _)
    · right
      have hzero : n - first + lower = 'k'.toNat := by dsimp only at *; omega
      rw [hzero]
      rfl
  · cases h

/-- The lowercase of a character that is not ASCII: one that is not ASCII either, a small K, or a
small I with a dot as a mark of its own. -/
theorem lowerChar_of_not_ascii {c : Char} (h : 0x80 ≤ c.toNat) :
    (∃ d, IsForeign d ∧ lowerChar c = [d]) ∨ lowerChar c = ['i', Char.ofNat 0x307] := by
  rw [lowerChar, if_neg (by omega)]
  split
  · exact .inr rfl
  · left
    cases hrun : lowercaseRuns.findSome? (runLower? c.toNat) with
    | none => exact ⟨c, .inl h, rfl⟩
    | some n =>
      obtain ⟨r, hr, hn⟩ := List.exists_of_findSome?_eq_some hrun
      exact ⟨Char.ofNat n, isForeign_of_runLower? hr h hn, rfl⟩

theorem isForeign_lowerSigma (before after : List Char) : IsForeign (lowerSigma before after) := by
  rw [lowerSigma]
  split
  · exact .inl (by decide)
  · exact .inl (by decide)

/-! ## The lowercase of a text -/

theorem lowerAfter_of_ascii {c : Char} (h : c.toNat < 0x80) (before s : List Char) :
    lowerAfter before (c :: s) = c.toLower :: lowerAfter (c :: before) s := by
  have hsigma : c ≠ capitalSigma := by
    rintro rfl
    exact absurd h (by decide)
  rw [lowerAfter, if_neg hsigma, lowerChar_of_ascii h]
  rfl

theorem lowerAfter_of_not_ascii {c : Char} (h : 0x80 ≤ c.toNat) (before s : List Char) :
    (∃ d, IsForeign d ∧ lowerAfter before (c :: s) = d :: lowerAfter (c :: before) s) ∨
      lowerAfter before (c :: s) = 'i' :: Char.ofNat 0x307 :: lowerAfter (c :: before) s := by
  rw [lowerAfter]
  split
  · exact .inl ⟨_, isForeign_lowerSigma before s, rfl⟩
  · rcases lowerChar_of_not_ascii h with ⟨d, hd, hlower⟩ | hlower
    · exact .inl ⟨d, hd, by rw [hlower]; rfl⟩
    · exact .inr (by rw [hlower]; rfl)

theorem lower_of_ascii {s : List Char} (h : ∀ c ∈ s, c.toNat < 0x80) : lower s = folded s := by
  have hafter : ∀ before, lowerAfter before s = folded s := by
    induction s with
    | nil => exact fun _ => rfl
    | cons c s ih =>
      obtain ⟨hc, hs⟩ := List.forall_mem_cons.1 h
      intro before
      rw [lowerAfter_of_ascii hc, ih hs, folded_cons]
  exact hafter []

/-- A phrase of small letters that the lowercase of no other letter can be mistaken for: it has no
K, and a mark may follow its last letter without being missed. -/
structure Plain (p : List Char) : Prop where
  ascii : ∀ c ∈ p, c.toNat < 0x80
  noK : 'k' ∉ p
  notLast : ¬['i'] <:+ p

instance (p : List Char) : Decidable (Plain p) :=
  decidable_of_iff (p.all (·.toNat < 0x80) ∧ 'k' ∉ p ∧ ¬['i'] <:+ p)
    ⟨fun h => ⟨by simpa using h.1, h.2.1, h.2.2⟩,
      fun h => ⟨by simpa using h.ascii, h.noK, h.notLast⟩⟩

theorem Plain.tail {a : Char} {p : List Char} (h : Plain (a :: p)) : Plain p where
  ascii c hc := h.ascii c (List.mem_cons_of_mem a hc)
  noK hk := h.noK (List.mem_cons_of_mem a hk)
  notLast hi := h.notLast (hi.trans (List.suffix_cons a p))

theorem Plain.not_isForeign {a : Char} {p : List Char} (h : Plain (a :: p)) : ¬IsForeign a := by
  rintro (ha | rfl)
  · have := h.ascii a List.mem_cons_self
    omega
  · exact h.noK List.mem_cons_self

/-- What stands at the front of a text in lowercase stands there up to case. -/
theorem prefix_lowerAfter_iff {p : List Char} (h : Plain p) (before s : List Char) :
    p <+: lowerAfter before s ↔ p <+: folded s := by
  induction p generalizing before s with
  | nil => simp
  | cons a p ih =>
    cases s with
    | nil => rfl
    | cons c s =>
      rw [folded_cons]
      by_cases hc : c.toNat < 0x80
      · rw [lowerAfter_of_ascii hc, List.cons_prefix_cons, List.cons_prefix_cons, ih h.tail]
      · have hother : a ≠ c := by
          rintro rfl
          exact hc (h.ascii a List.mem_cons_self)
        rw [toLower_of_not_ascii (by omega)]
        refine iff_of_false ?_ fun hp => hother (List.cons_prefix_cons.1 hp).1
        intro hp
        rcases lowerAfter_of_not_ascii (c := c) (by omega) before s with ⟨d, hd, hlower⟩ | hlower
        · rw [hlower, List.cons_prefix_cons] at hp
          exact h.not_isForeign (hp.1 ▸ hd)
        · rw [hlower, List.cons_prefix_cons] at hp
          obtain ⟨rfl, hp⟩ := hp
          -- the mark has to belong to the phrase, whose last letter this one is not
          cases p with
          | nil => exact h.notLast (List.suffix_refl _)
          | cons b p =>
            obtain ⟨rfl, -⟩ := List.cons_prefix_cons.1 hp
            exact h.tail.not_isForeign (.inl (by decide))

theorem infix_lowerAfter_iff {p : List Char} (h : Plain p) (before s : List Char) :
    p <:+: lowerAfter before s ↔ p <:+: folded s := by
  induction s generalizing before with
  | nil => rfl
  | cons c s ih =>
    have hfront := prefix_lowerAfter_iff h before (c :: s)
    rw [folded_cons] at hfront ⊢
    rw [List.infix_cons_iff, ← hfront]
    by_cases hc : c.toNat < 0x80
    · rw [lowerAfter_of_ascii hc, List.infix_cons_iff, ih]
    · rcases lowerAfter_of_not_ascii (c := c) (by omega) before s with ⟨d, -, hlower⟩ | hlower
      · rw [hlower, List.infix_cons_iff, ih]
      · rw [hlower, List.infix_cons_iff, List.infix_cons_iff, ih]
        cases p with
        | nil => simp
        | cons a p =>
          have hmark : ¬a :: p <+: Char.ofNat 0x307 :: lowerAfter (c :: before) s := by
            intro hp
            obtain ⟨rfl, -⟩ := List.cons_prefix_cons.1 hp
            exact h.not_isForeign (.inl (by decide))
          simp only [hmark, false_or]

/-- Searching a text in lowercase for a phrase finds it where it is up to case. -/
theorem infix_lower_iff {p : List Char} (h : Plain (folded p)) (s : List Char) :
    lower p <:+: lower s ↔ folded p <:+: folded s := by
  have hascii : ∀ c ∈ p, c.toNat < 0x80 := fun c hc =>
    ascii_of_toLower (h.ascii _ (List.mem_map_of_mem hc))
  rw [lower_of_ascii hascii]
  exact infix_lowerAfter_iff h [] s

/-! ## Blanks around a text -/

theorem toLower_of_isBlank {c : Char} (h : isBlank c) : c.toLower = c := by
  apply toLower_eq_self
  have ha : 'A'.toNat = 0x41 := rfl
  have hz : 'Z'.toNat = 0x5A := rfl
  simp only [isBlank, within, blankRanges, List.any_cons, List.any_nil, Bool.or_eq_true,
    Bool.and_eq_true, decide_eq_true_eq, Bool.false_eq_true, or_false] at h
  omega

theorem folded_of_blank {s : List Char} (h : Blank s) : folded s = s := by
  induction s with
  | nil => rfl
  | cons c s ih =>
    obtain ⟨hc, hs⟩ := List.forall_mem_cons.1 h
    rw [folded_cons, toLower_of_isBlank hc, ih hs]

/-- A phrase without blanks at its ends is in a text wherever it is in the text without blanks at
its ends. -/
theorem infix_folded_trimChars_iff {p : List Char} (hfirst : ∀ c, p.head? = some c → ¬isBlank c)
    (hlast : ∀ c, p.getLast? = some c → ¬isBlank c) (s : List Char) :
    p <:+: folded (trimChars s) ↔ p <:+: folded s := by
  obtain ⟨before, after, hs, hbefore, hafter⟩ := padded_trimChars s
  have hfolded : folded s = before ++ folded (trimChars s) ++ after := by
    calc folded s = folded (before ++ trimChars s ++ after) := congrArg folded hs
      _ = before ++ folded (trimChars s) ++ after := by
        rw [folded_append, folded_append, folded_of_blank hbefore, folded_of_blank hafter]
  rw [hfolded, infix_padded_iff ⟨hfirst, hlast⟩ hbefore hafter]

end Text

/-! ## What a reply tells -/

namespace Support

theorem mentions_iff {output phrase : List Char} :
    mentions output phrase ↔ phrase ≠ [] ∧ Text.lower phrase <:+: Text.lower output := by
  simp [mentions, Text.hasInfix_iff]

theorem classify_eq_notSupported_iff {output : String} {phrases : List String} :
    classify output phrases = .notSupported ↔
      ∃ phrase ∈ phrases, mentions output.toList phrase.toList := by
  rw [classify, ← List.any_eq_true]
  split <;> simp_all

end Support

end ResetCheck
