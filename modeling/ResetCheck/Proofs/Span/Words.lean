import ResetCheck.Span

/-!
# Spans in words

A clock keeps a span in two words: the whole seconds in one of 64 bits, and the nanoseconds beyond
them in one of 32.  Sums and multiples are calculated word by word, with a carry from nanoseconds to
seconds, and are the longest span if the seconds do not fit their word.  Here these calculations are
shown to give what the spans themselves give, without any word overflowing on the way.

* `Span.Words`: spans in two words, and `Span.words` of a span.
* `Span.Words.times?_eq`: multiples.
* `Span.Words.plus?_eq`: sums.
-/

namespace ResetCheck.Span

/-- The nanoseconds of a second. -/
def second : Nat :=
  1000000000

/-- A span in two words. -/
structure Words where
  seconds : UInt64
  subsecond : UInt32
  subsecond_lt : subsecond.toNat < second
deriving DecidableEq

namespace Words

/-! ## Calculating in words -/

/-- A number as a word of 64 bits, if it fits. -/
def word64? (n : Nat) : Option UInt64 :=
  if n < UInt64.size then some (.ofNat n) else none

/-- A number as a word of 32 bits, if it fits. -/
def word32? (n : Nat) : Option UInt32 :=
  if n < UInt32.size then some (.ofNat n) else none

def longest : Words :=
  ⟨.ofNat (UInt64.size - 1), 999999999, by decide⟩

/-- The span of these seconds and some nanoseconds, or the longest if there are no such seconds. -/
def ofSeconds (seconds : Option UInt64) (subsecond : Nat) (h : subsecond < second) : Words :=
  match seconds with
  | none => longest
  | some seconds => ⟨seconds, .ofNat subsecond, by
      rwa [UInt32.toNat_ofNat_of_lt' (Nat.lt_trans h (by decide))]⟩

theorem mod_second_lt (n : Nat) : n % second < second :=
  Nat.mod_lt n (by decide)

/-- A multiple of a span, with the seconds that the nanoseconds amount to carried over.  There is
none if the multiple of the nanoseconds does not fit a word. -/
def times? (a : Words) (k : UInt32) : Option Words := do
  let product ← word64? (a.subsecond.toNat * k.toNat)
  let seconds := do
    let seconds ← word64? (a.seconds.toNat * k.toNat)
    word64? (seconds.toNat + product.toNat / second)
  some (ofSeconds seconds (product.toNat % second) (mod_second_lt _))

/-- The sum of two spans, with a second carried over if the nanoseconds amount to one.  There is
none if the nanoseconds together do not fit a word. -/
def plus? (a b : Words) : Option Words := do
  let sum ← word32? (a.subsecond.toNat + b.subsecond.toNat)
  let seconds := word64? (a.seconds.toNat + b.seconds.toNat)
  if h : sum.toNat < second then some (ofSeconds seconds sum.toNat h)
  else
    let seconds := do
      let seconds ← seconds
      word64? (seconds.toNat + 1)
    some (ofSeconds seconds (sum.toNat % second) (mod_second_lt _))

/-! ## What words stand for -/

def nanos (a : Words) : Nat :=
  a.seconds.toNat * second + a.subsecond.toNat

theorem nanos_le (a : Words) : a.nanos ≤ maxNanos := by
  have hseconds := a.seconds.toNat_lt
  have hsubsecond := a.subsecond_lt
  simp only [nanos, maxNanos, second, UInt64.size] at *
  omega

def toSpan (a : Words) : Span :=
  ⟨a.nanos, a.nanos_le⟩

/-- The words of a number of nanoseconds are determined. -/
theorem ext_nanos {a b : Words} (h : a.nanos = b.nanos) : a = b := by
  obtain ⟨s, n, hn⟩ := a
  obtain ⟨t, m, hm⟩ := b
  simp only [nanos, second] at h hn hm
  have hseconds : s = t := UInt64.toNat_inj.1 (by omega)
  have hsubsecond : n = m := UInt32.toNat_inj.1 (by omega)
  subst hseconds hsubsecond
  rfl

theorem nanos_longest : longest.nanos = maxNanos := rfl

theorem word64?_of_lt {n : Nat} (h : n < UInt64.size) : word64? n = some (.ofNat n) :=
  if_pos h

theorem word64?_of_le {n : Nat} (h : UInt64.size ≤ n) : word64? n = none :=
  if_neg (Nat.not_lt.2 h)

theorem word32?_of_lt {n : Nat} (h : n < UInt32.size) : word32? n = some (.ofNat n) :=
  if_pos h

/-- Seconds that fit their word are kept; others are cut off together with the nanoseconds. -/
theorem nanos_ofSeconds (n : Nat) {r : Nat} (h : r < second) :
    (ofSeconds (word64? n) r h).nanos = min (n * second + r) maxNanos := by
  have hmax : maxNanos + 1 = UInt64.size * second := by decide
  by_cases hn : n < UInt64.size
  · have hle : (n + 1) * second ≤ UInt64.size * second := Nat.mul_le_mul_right _ hn
    have hr : r < UInt32.size := Nat.lt_trans h (by decide)
    rw [word64?_of_lt hn]
    show (UInt64.ofNat n).toNat * second + (UInt32.ofNat r).toNat = _
    rw [UInt64.toNat_ofNat_of_lt' hn, UInt32.toNat_ofNat_of_lt' hr]
    rw [Nat.add_mul] at hle
    omega
  · have hle : UInt64.size * second ≤ n * second := Nat.mul_le_mul_right _ (Nat.not_lt.1 hn)
    rw [word64?_of_le (Nat.not_lt.1 hn)]
    show longest.nanos = _
    rw [nanos_longest]
    omega

/-- Carrying over in a second step fits a word if and only if it does in one step. -/
theorem word64?_carry (m n : Nat) :
    (do let seconds ← word64? m; word64? (seconds.toNat + n)) = word64? (m + n) := by
  by_cases hm : m < UInt64.size
  · rw [word64?_of_lt hm]
    show word64? ((UInt64.ofNat m).toNat + n) = _
    rw [UInt64.toNat_ofNat_of_lt' hm]
  · rw [word64?_of_le (by omega), word64?_of_le (by omega)]
    rfl

end Words

/-- A span in two words. -/
def words (a : Span) : Words :=
  .ofSeconds (Words.word64? (a.nanos / second)) (a.nanos % second) (Words.mod_second_lt _)

theorem nanos_words (a : Span) : a.words.nanos = a.nanos := by
  rw [words, Words.nanos_ofSeconds, Nat.div_add_mod', Nat.min_eq_left a.nanos_le]

namespace Words

theorem toSpan_words (a : Span) : a.words.toSpan = a :=
  Span.ext a.nanos_words

theorem words_toSpan (a : Words) : a.toSpan.words = a :=
  ext_nanos a.toSpan.nanos_words

/-! ## Multiples and sums -/

/-- The nanoseconds of a multiple fit 64 bits, and the multiple is the one of the span. -/
theorem times?_eq (a : Words) (k : UInt32) : a.times? k = some (a.toSpan.scale k.toNat).words := by
  have hproduct : a.subsecond.toNat * k.toNat < UInt64.size :=
    Nat.lt_of_le_of_lt (Nat.mul_le_mul (Nat.le_of_lt a.subsecond_lt) (Nat.le_of_lt k.toNat_lt))
      (by decide)
  have htotal : a.nanos * k.toNat =
      (a.seconds.toNat * k.toNat + a.subsecond.toNat * k.toNat / second) * second +
        a.subsecond.toNat * k.toNat % second := by
    rw [Nat.add_mul, Nat.add_assoc, Nat.div_add_mod', nanos, Nat.add_mul, Nat.mul_right_comm]
  rw [times?, word64?_of_lt hproduct]
  show some (ofSeconds _ _ _) = _
  refine congrArg some (ext_nanos ?_)
  simp only [UInt64.toNat_ofNat_of_lt' hproduct]
  rw [word64?_carry, nanos_ofSeconds, ← htotal, nanos_words, nanos_scale]
  rfl

/-- The nanoseconds of a sum fit 32 bits, and the sum is the one of the spans. -/
theorem plus?_eq (a b : Words) : a.plus? b = some (a.toSpan + b.toSpan).words := by
  have ha := a.subsecond_lt
  have hb := b.subsecond_lt
  have hsum : a.subsecond.toNat + b.subsecond.toNat < UInt32.size :=
    Nat.lt_of_lt_of_le (Nat.add_lt_add ha hb) (by decide)
  have htotal : (a.toSpan + b.toSpan).nanos = min (a.nanos + b.nanos) maxNanos := rfl
  rw [plus?, word32?_of_lt hsum]
  show dite _ _ _ = _
  simp only [UInt32.toNat_ofNat_of_lt' hsum]
  split
  · refine congrArg some (ext_nanos ?_)
    rw [nanos_ofSeconds, nanos_words, htotal, nanos, nanos, Nat.add_mul]
    refine congrArg (min · maxNanos) ?_
    omega
  · next hcarry =>
    have hrest : (a.subsecond.toNat + b.subsecond.toNat) % second + second =
        a.subsecond.toNat + b.subsecond.toNat := by
      rw [Nat.mod_eq_sub_mod (Nat.not_lt.1 hcarry), Nat.mod_eq_of_lt (by omega)]
      omega
    refine congrArg some (ext_nanos ?_)
    rw [word64?_carry, nanos_ofSeconds, nanos_words, htotal, nanos, nanos, Nat.add_mul, Nat.add_mul]
    refine congrArg (min · maxNanos) ?_
    omega

end Words

end ResetCheck.Span
