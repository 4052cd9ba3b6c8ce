import ResetCheck.Proofs.Span.Words
import ResetCheck.Proofs.Text.Numeral
import ResetCheck.Property

/-!
# Multipliers and the budgets they give

The multiplier of a budget is read off a property of the device, as is any integer.  Both ways of
reading take the same texts for a multiplier.  Whatever the device answers, there is a multiplier,
and the times that follow from it are the exact products and sums, up to the longest span.

* `Multiplies`: texts that say a multiplier.
* `multiplier?_eq_some_iff`: what either way of reading takes for a multiplier.
* `Policy.budget_exact`: the times of a budget.
-/

namespace ResetCheck

/-! ## Texts that say a multiplier -/

/-- Whether a text says a multiplier: a whole number of at least one that fits 32 bits, in digits,
perhaps after a plus sign, and perhaps with blanks around it. -/
def Multiplies (raw : String) (m : Nat) : Prop :=
  (∃ s, Text.Padded s raw.toList ∧ Text.Unsigned s m) ∧ 1 ≤ m ∧ m ≤ 2 ^ 32 - 1

variable {raw : String} {m : Nat}

theorem multiplies_iff :
    Multiplies raw m ↔ Text.Unsigned (Text.trimChars raw.toList) m ∧ 1 ≤ m ∧ m < UInt32.size := by
  have hsize : UInt32.size = 2 ^ 32 - 1 + 1 := rfl
  rw [Multiplies, ← Text.unsigned_trimChars_iff, hsize, Nat.lt_succ_iff]

theorem Multiplies.unique {k : Nat} (hm : Multiplies raw m) (hk : Multiplies raw k) : m = k := by
  obtain ⟨hm, -⟩ := multiplies_iff.1 hm
  obtain ⟨hk, -⟩ := multiplies_iff.1 hk
  have hnatural := Text.natural?_dropPlus_eq_some_iff.2 hm
  rw [Text.natural?_dropPlus_eq_some_iff.2 hk] at hnatural
  exact (Option.some.inj hnatural).symm

theorem toNat_multiplier?_iff : (multiplier? raw).map UInt32.toNat = some m ↔ Multiplies raw m := by
  rw [multiplies_iff, multiplier?]
  constructor
  · intro h
    obtain ⟨k, hk, rfl⟩ := Option.map_eq_some_iff.1 h
    obtain ⟨n, hn, rfl⟩ := Option.map_eq_some_iff.1 hk
    obtain ⟨hread, hone⟩ := Option.filter_eq_some_iff.1 hn
    obtain ⟨hs, hlt⟩ := Text.unsigned?_eq_some_iff.1 hread
    rw [UInt32.toNat_ofNat_of_lt' hlt]
    exact ⟨hs, of_decide_eq_true hone, hlt⟩
  · rintro ⟨hs, hone, hlt⟩
    rw [Text.unsigned?_eq_some_iff.2 ⟨hs, hlt⟩, Option.filter_some, if_pos (decide_eq_true hone),
      Option.map_some, Option.map_some, UInt32.toNat_ofNat_of_lt' hlt]

theorem multiplier?_eq_some_iff_multiplies {k : UInt32} :
    multiplier? raw = some k ↔ Multiplies raw k.toNat := by
  rw [← toNat_multiplier?_iff]
  constructor
  · intro h
    rw [h]
    rfl
  · intro h
    obtain ⟨n, hn, heq⟩ := Option.map_eq_some_iff.1 h
    rw [hn, UInt32.toNat_inj.1 heq]

theorem integerOr_iff (h : 1 ≤ m) (hm : m < UInt32.size) :
    PropertyAnswer.integerOr 0 (.ok (some raw)) = m ↔ Multiplies raw m := by
  have hsigned : integer? raw = some (m : Int) ↔
      Text.Unsigned (Text.trimChars raw.toList) m ∧ m < Text.signedBound :=
    Text.signed?_eq_some_natCast_iff h
  have hbound : m < Text.signedBound := Nat.lt_trans hm (by decide)
  rw [multiplies_iff, PropertyAnswer.integerOr]
  cases hread : integer? raw with
  | none =>
    rw [hread] at hsigned
    have hnot : ¬Text.Unsigned (Text.trimChars raw.toList) m :=
      fun hs => nomatch hsigned.2 ⟨hs, hbound⟩
    refine iff_of_false ?_ fun hs => hnot hs.1
    show ¬(0 : Int) = m
    omega
  | some i =>
    rw [hread, Option.some.injEq] at hsigned
    show i = m ↔ _
    rw [hsigned]
    exact ⟨fun hs => ⟨hs.1, h, hm⟩, fun hs => ⟨hs.1, hbound⟩⟩

/-- **What is read as a multiplier.**  It is read from a text if and only if this is a number of at
least one that fits 32 bits, in digits, perhaps after a plus sign and perhaps among blanks.  These
are the texts from which the same integer is read, so the two ways of reading a property never
differ about a multiplier. -/
theorem multiplier?_eq_some_iff (raw : String) (m : Nat) :
    ((multiplier? raw).map UInt32.toNat = some m ↔
        (∃ before sign digits after, raw.toList = before ++ (sign ++ digits) ++ after ∧
          Text.Blank before ∧ Text.Blank after ∧ (sign = [] ∨ sign = ['+']) ∧
          digits ≠ [] ∧ (∀ c ∈ digits, Text.isDigit c) ∧ Text.decimal digits = m) ∧
        1 ≤ m ∧ m ≤ 2 ^ 32 - 1) ∧
      ((multiplier? raw).map UInt32.toNat = some m ↔
        PropertyAnswer.integerOr 0 (.ok (some raw)) = m ∧ 1 ≤ m ∧ m ≤ 2 ^ 32 - 1) := by
  rw [toNat_multiplier?_iff]
  constructor
  · refine and_congr_left' ?_
    constructor
    · rintro ⟨_, ⟨before, after, hraw, hbefore, hafter⟩, sign, digits, rfl, hsign, hdigits⟩
      exact ⟨before, sign, digits, after, hraw, hbefore, hafter, hsign, hdigits.ne_nil,
        hdigits.all_digits, hdigits.value⟩
    · rintro ⟨before, sign, digits, after, hraw, hbefore, hafter, hsign, hne, hall, hvalue⟩
      exact ⟨_, ⟨before, after, hraw, hbefore, hafter⟩, sign, digits, rfl, hsign, hne, hall, hvalue⟩
  · constructor
    · intro h
      exact ⟨(integerOr_iff h.2.1 (Nat.lt_succ_of_le h.2.2)).2 h, h.2⟩
    · rintro ⟨h, hone, hle⟩
      exact (integerOr_iff hone (Nat.lt_succ_of_le hle)).1 h

/-- Blanks and leading zeros make no difference, but nothing may stand between sign and digits. -/
example : multiplier? "\t+007\r\n" = some 7 ∧ multiplier? "+ 7" = none ∧
    multiplier? "4294967296" = none := by
  decide +kernel

/-! ## The multiplier of an answer -/

/-- Whether a multiplier is the one that an answer gives: the one it says, or else one. -/
def PropertyAnswer.Gives (answer : PropertyAnswer) (m : UInt32) : Prop :=
  (∃ raw, answer = .ok (some raw) ∧ Multiplies raw m.toNat) ∨
    m = 1 ∧ ∀ raw k, answer = .ok (some raw) → ¬Multiplies raw k

theorem PropertyAnswer.gives_multiplier (answer : PropertyAnswer) :
    answer.Gives answer.multiplier := by
  rw [multiplier.eq_def]
  split
  · next raw =>
    cases hread : multiplier? raw with
    | some m => exact .inl ⟨raw, rfl, multiplier?_eq_some_iff_multiplies.1 hread⟩
    | none =>
      refine .inr ⟨rfl, fun other k heq hk => ?_⟩
      cases heq
      have hsome := toNat_multiplier?_iff.2 hk
      rw [hread] at hsome
      cases hsome
  · next h => exact .inr ⟨rfl, fun raw _ hraw => absurd hraw (h raw)⟩

theorem PropertyAnswer.Gives.unique {answer : PropertyAnswer} {m k : UInt32} (hm : answer.Gives m)
    (hk : answer.Gives k) : m = k := by
  rcases hm with ⟨raw, rfl, hm⟩ | ⟨rfl, hm⟩
  · rcases hk with ⟨_, heq, hk⟩ | ⟨rfl, hk⟩
    · cases heq
      exact UInt32.toNat_inj.1 (hm.unique hk)
    · exact absurd hm (hk raw _ rfl)
  · rcases hk with ⟨raw, rfl, hk⟩ | ⟨rfl, hk⟩
    · exact absurd hk (hm raw _ rfl)
    · rfl

theorem PropertyAnswer.Gives.one_le {answer : PropertyAnswer} {m : UInt32} (h : answer.Gives m) :
    1 ≤ m := by
  rcases h with ⟨raw, -, -, hone, -⟩ | ⟨rfl, -⟩
  · exact UInt32.le_iff_toNat_le.2 hone
  · exact UInt32.le_refl 1

/-! ## The times of a budget -/

namespace Span

theorem scale_mono {a b : Span} {j k : Nat} (hab : a ≤ b) (hjk : j ≤ k) :
    a.scale j ≤ b.scale k := by
  have hproduct : a.nanos * j ≤ b.nanos * k := Nat.mul_le_mul hab hjk
  rw [le_def, nanos_scale, nanos_scale]
  omega

theorem add_mono {a b c d : Span} (hab : a ≤ b) (hcd : c ≤ d) : a + c ≤ b + d := by
  rw [le_def] at hab hcd ⊢
  rw [nanos_add, nanos_add]
  omega

end Span

namespace Policy

/-- The guard against a multiplier of zero does nothing to a multiplier that was read. -/
theorem multiplier_budget (base allowance : Span) {answer : PropertyAnswer} {m : UInt32}
    (h : answer.Gives m) : (budget base allowance answer).multiplier = m := by
  obtain rfl := answer.gives_multiplier.unique h
  show (if answer.multiplier ≤ 1 then 1 else answer.multiplier) = _
  split
  · next hle => exact UInt32.le_antisymm h.one_le hle
  · rfl

theorem timeout_budget (base allowance : Span) {answer : PropertyAnswer} {m : UInt32}
    (h : answer.Gives m) : (budget base allowance answer).timeout = base.scale m.toNat := by
  rw [Budget.timeout, multiplier_budget base allowance h]
  rfl

theorem timeout_budget_mono {base base' allowance allowance' : Span}
    {answer answer' : PropertyAnswer} {m m' : UInt32} (hm : answer.Gives m) (hm' : answer'.Gives m')
    (hbase : base ≤ base') (hle : m ≤ m') :
    (budget base allowance answer).timeout ≤ (budget base' allowance' answer').timeout := by
  rw [timeout_budget base allowance hm, timeout_budget base' allowance' hm']
  exact Span.scale_mono hbase (UInt32.le_iff_toNat_le.1 hle)

/-- **The times of a budget.**  Whatever a device answers, it gives a multiplier.  The timeout of
the budget is its base times this multiplier, as it is for a base on its own, and the window is the
timeout and the allowance together, in exact nanoseconds up to the longest span.  Calculating in
words, with less than a second of nanoseconds in theirs, gives the same, and no word overflows.
With a longer base, a larger multiplier or a longer allowance neither of the two is shorter. -/
theorem budget_exact (base allowance : Span) (answer : PropertyAnswer) :
    ∃ m, answer.Gives m ∧
      let b := budget base allowance answer
      adjusted base answer = b.timeout ∧
      b.timeout.nanos = min Span.maxNanos (base.nanos * m.toNat) ∧
      b.window.nanos = min Span.maxNanos (b.timeout.nanos + allowance.nanos) ∧
      base.words.times? m = some b.timeout.words ∧
      b.timeout.words.plus? allowance.words = some b.window.words ∧
      ∀ base' allowance' answer' m', answer'.Gives m' → base ≤ base' → allowance ≤ allowance' →
        m ≤ m' →
        let b' := budget base' allowance' answer'
        b.timeout ≤ b'.timeout ∧ b.window ≤ b'.window := by
  have hm := answer.gives_multiplier
  refine ⟨answer.multiplier, hm, ?_⟩
  intro b
  have htimeout : b.timeout = base.scale answer.multiplier.toNat := timeout_budget base allowance hm
  have hwindow : b.window = b.timeout + allowance := rfl
  refine ⟨?_, ?_, ?_, ?_, ?_, ?_⟩
  · rw [htimeout]
    rfl
  · rw [htimeout, Span.nanos_scale, Nat.min_comm]
  · rw [hwindow, Span.nanos_add, Nat.min_comm]
  · rw [Span.Words.times?_eq, Span.Words.toSpan_words, htimeout]
  · rw [Span.Words.plus?_eq, Span.Words.toSpan_words, Span.Words.toSpan_words, hwindow]
  · intro base' allowance' answer' m' hm' hbase hallowance hle b'
    have hmono : b.timeout ≤ b'.timeout := timeout_budget_mono hm hm' hbase hle
    exact ⟨hmono, Span.add_mono hmono hallowance⟩

/-- An unreadable multiplier counts as one, and the longest base is cut off under any larger one. -/
theorem budget_exact_longest :
    let unreadable : PropertyAnswer := .ok (some "fast")
    let triple : PropertyAnswer := .ok (some "\t+003\n")
    let short := budget (.ofMillis 5000) (.ofMillis 250) unreadable
    let long := budget .longest (.ofMillis 250) triple
    unreadable.Gives 1 ∧ triple.Gives 3 ∧ short.window.nanos = 5250000000 ∧
      long.timeout.nanos = Span.maxNanos ∧ short.window ≤ long.window := by
  intro unreadable triple short long
  have hone : unreadable.Gives 1 := unreadable.gives_multiplier
  have hthree : triple.Gives 3 := triple.gives_multiplier
  obtain ⟨m, hm, -, htimeout, hwindow, -, -, hmono⟩ :=
    budget_exact (.ofMillis 5000) (.ofMillis 250) unreadable
  obtain ⟨k, hk, -, hlong, -⟩ := budget_exact .longest (.ofMillis 250) triple
  obtain rfl := hm.unique hone
  obtain rfl := hk.unique hthree
  rw [htimeout] at hwindow
  have hle := hmono .longest (.ofMillis 250) triple 3 hthree (by decide) (by decide) (by decide)
  exact ⟨hone, hthree, hwindow.trans (by decide), hlong.trans (by decide), hle.2⟩

end Policy

end ResetCheck
