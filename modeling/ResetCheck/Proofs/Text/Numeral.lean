import Mathlib.Data.List.Induction
import Mathlib.Data.Nat.Digits.Defs
import ResetCheck.Proofs.Text.Blank
import ResetCheck.Text.Numeral

/-!
# Numerals

A numeral is a run of digits, and stands for the sum of its digits, each ten times the place of the
next.  What the readers of whole numbers take and what they make of it is said here without them.

* `Text.Numeral`: runs of digits and what they stand for.
* `Text.Unsigned`: numerals with or without a plus sign.
* `Text.unsigned?_eq_some_iff`, `Text.signed?_eq_some_iff`: what is read as a whole number.
-/

namespace ResetCheck.Text

/-- What digits stand for, place by place. -/
def decimal (digits : List Char) : Nat :=
  Nat.ofDigits 10 (digits.reverse.map digitValue)

/-- Whether a text is a run of digits that stand for a number; zeros may lead. -/
structure Numeral (digits : List Char) (n : Nat) : Prop where
  ne_nil : digits ≠ []
  all_digits : ∀ c ∈ digits, isDigit c
  value : decimal digits = n

/-- Whether a text is a numeral, perhaps after a plus sign. -/
def Unsigned (s : List Char) (n : Nat) : Prop :=
  ∃ sign digits, s = sign ++ digits ∧ (sign = [] ∨ sign = ['+']) ∧ Numeral digits n

variable {s digits : List Char} {n bound : Nat}

/-! ## Digits -/

theorem digitsValue_concat (s : List Char) (c : Char) :
    digitsValue (s ++ [c]) = 10 * digitsValue s + digitValue c := by
  simp [digitsValue]

theorem decimal_concat (s : List Char) (c : Char) :
    decimal (s ++ [c]) = 10 * decimal s + digitValue c := by
  simp [decimal, Nat.ofDigits_cons, Nat.add_comm]

/-- Reading digits one after the other adds up their places. -/
theorem digitsValue_eq_decimal (s : List Char) : digitsValue s = decimal s := by
  induction s using List.reverseRecOn with
  | nil => rfl
  | append_singleton s c ih => rw [digitsValue_concat, decimal_concat, ih]

theorem natural?_eq_some_iff : natural? s = some n ↔ Numeral s n := by
  rw [natural?, digitsValue_eq_decimal]
  constructor
  · intro h
    split at h
    · next hdigits =>
      simp only [Bool.and_eq_true, Bool.not_eq_true', List.isEmpty_eq_false_iff,
        List.all_eq_true] at hdigits
      exact ⟨hdigits.1, hdigits.2, Option.some.inj h⟩
    · cases h
  · rintro ⟨hne, hdigits, rfl⟩
    rw [if_pos]
    simp only [Bool.and_eq_true, Bool.not_eq_true', List.isEmpty_eq_false_iff, List.all_eq_true]
    exact ⟨hne, hdigits⟩

theorem Numeral.not_mem {c : Char} (h : Numeral digits n) (hc : ¬isDigit c) : c ∉ digits :=
  fun hmem => hc (h.all_digits c hmem)

/-! ## Signs -/

theorem not_isDigit_plus : ¬isDigit '+' := by decide

theorem not_isDigit_minus : ¬isDigit '-' := by decide

theorem dropPlus_of_not_mem (h : '+' ∉ s) : dropPlus s = s := by
  cases s with
  | nil => rfl
  | cons c s =>
    rw [dropPlus.eq_def]
    split
    · next heq => exact absurd ((List.cons.inj heq).1 ▸ List.mem_cons_self) h
    · rfl

theorem natural?_dropPlus_eq_some_iff : natural? (dropPlus s) = some n ↔ Unsigned s n := by
  rw [natural?_eq_some_iff]
  constructor
  · intro h
    by_cases hplus : ∃ t, s = '+' :: t
    · obtain ⟨t, rfl⟩ := hplus
      exact ⟨['+'], t, rfl, .inr rfl, h⟩
    · have hdrop : dropPlus s = s := by
        rw [dropPlus.eq_def]
        split
        · next t => exact absurd ⟨t, rfl⟩ hplus
        · rfl
      exact ⟨[], s, rfl, .inl rfl, hdrop ▸ h⟩
  · rintro ⟨sign, digits, rfl, rfl | rfl, h⟩
    · rwa [List.nil_append, dropPlus_of_not_mem (h.not_mem not_isDigit_plus)]
    · exact h

theorem unsigned?_eq_some_iff : unsigned? bound s = some n ↔ Unsigned s n ∧ n < bound := by
  rw [unsigned?, Option.filter_eq_some_iff, natural?_dropPlus_eq_some_iff, decide_eq_true_eq]

theorem Unsigned.head?_ne_minus (h : Unsigned s n) : s.head? ≠ some '-' := by
  obtain ⟨sign, digits, rfl, rfl | rfl, hdigits⟩ := h
  · intro hhead
    exact hdigits.not_mem not_isDigit_minus (List.mem_of_mem_head? hhead)
  · simp

theorem signed?_minus (bound : Nat) (digits : List Char) :
    signed? bound ('-' :: digits) =
      ((natural? digits).filter (· ≤ bound)).map fun n : Nat => -(n : Int) := by
  rw [signed?]
  cases (natural? digits).filter (· ≤ bound) <;> rfl

theorem signed?_of_head?_ne_minus (h : s.head? ≠ some '-') :
    signed? bound s = (unsigned? bound s).map Int.ofNat := by
  rw [signed?.eq_def]
  split
  · exact absurd rfl h
  · rfl

/-- What is read as an integer: a numeral, perhaps after a plus sign, or one after a minus sign. -/
theorem signed?_eq_some_iff {i : Int} :
    signed? bound s = some i ↔
      (∃ n, Unsigned s n ∧ n < bound ∧ i = n) ∨
        ∃ digits n, s = '-' :: digits ∧ Numeral digits n ∧ n ≤ bound ∧ i = -n := by
  constructor
  · intro h
    by_cases hminus : s.head? = some '-'
    · obtain ⟨digits, rfl⟩ := List.head?_eq_some_iff.1 hminus
      rw [signed?_minus, Option.map_eq_some_iff] at h
      obtain ⟨n, hn, rfl⟩ := h
      obtain ⟨hdigits, hle⟩ := Option.filter_eq_some_iff.1 hn
      exact .inr ⟨digits, n, rfl, natural?_eq_some_iff.1 hdigits, of_decide_eq_true hle, rfl⟩
    · rw [signed?_of_head?_ne_minus hminus, Option.map_eq_some_iff] at h
      obtain ⟨n, hn, rfl⟩ := h
      obtain ⟨hs, hlt⟩ := unsigned?_eq_some_iff.1 hn
      exact .inl ⟨n, hs, hlt, rfl⟩
  · rintro (⟨n, hs, hlt, rfl⟩ | ⟨digits, n, rfl, hdigits, hle, rfl⟩)
    · rw [signed?_of_head?_ne_minus hs.head?_ne_minus, unsigned?_eq_some_iff.2 ⟨hs, hlt⟩]
      rfl
    · rw [signed?_minus, natural?_eq_some_iff.2 hdigits, Option.filter_some,
        if_pos (decide_eq_true hle)]
      rfl

/-- A positive integer is read from nothing but a numeral, perhaps after a plus sign. -/
theorem signed?_eq_some_natCast_iff (h : 0 < n) :
    signed? bound s = some (n : Int) ↔ Unsigned s n ∧ n < bound := by
  rw [signed?_eq_some_iff]
  constructor
  · rintro (⟨k, hs, hlt, hk⟩ | ⟨digits, k, -, -, -, hk⟩)
    · obtain rfl := Int.ofNat.inj hk
      exact ⟨hs, hlt⟩
    · omega
  · rintro ⟨hs, hlt⟩
    exact .inl ⟨n, hs, hlt, rfl⟩

/-! ## Blanks -/

theorem not_isBlank_of_isDigit {c : Char} (h : isDigit c) : ¬isBlank c := by
  have hzero : '0'.toNat = 48 := rfl
  have hnine : '9'.toNat = 57 := rfl
  simp only [isDigit, Bool.and_eq_true, decide_eq_true_eq, Char.le_def, UInt32.le_iff_toNat_le] at h
  simp only [isBlank, within, blankRanges, List.any_cons, List.any_nil, Bool.or_eq_true,
    Bool.and_eq_true, decide_eq_true_eq, Bool.false_eq_true, or_false]
  have hle : '0'.toNat ≤ c.toNat ∧ c.toNat ≤ '9'.toNat := h
  omega

/-- No blank is part of a number. -/
theorem Unsigned.trimmed (h : Unsigned s n) : Trimmed s := by
  have hsolid : ∀ c ∈ s, ¬isBlank c := by
    obtain ⟨sign, digits, rfl, hsign, hdigits⟩ := h
    intro c hc
    rcases List.mem_append.1 hc with hc | hc
    · rcases hsign with rfl | rfl
      · cases hc
      · obtain rfl := List.mem_singleton.1 hc
        decide
    · exact not_isBlank_of_isDigit (hdigits.all_digits c hc)
  exact ⟨fun c hc => hsolid c (List.mem_of_mem_head? hc),
    fun c hc => hsolid c (List.mem_of_mem_getLast? hc)⟩

/-- A number is left of a text by trimming if and only if the text is the number among blanks. -/
theorem unsigned_trimChars_iff {padded : List Char} :
    Unsigned (trimChars padded) n ↔ ∃ s, Padded s padded ∧ Unsigned s n := by
  constructor
  · intro h
    exact ⟨_, padded_trimChars padded, h⟩
  · rintro ⟨s, hpadded, h⟩
    rwa [trimChars_eq_iff.2 ⟨h.trimmed, hpadded⟩]

end ResetCheck.Text
