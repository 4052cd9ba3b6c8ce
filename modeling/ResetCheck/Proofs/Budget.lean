import ResetCheck.Property
import ResetCheck.Proofs.Stored.RoundTrip

/-!
# Budgets and where they come from

A budget is made from its parts, from what a device says about its multiplier, or out of stored
data, and its allowance may be set later.  Whoever makes a budget sees to it that its multiplier is
at least one, and then neither its timeout nor its window is shorter than its base.  Whoever reads
one does not.

* `Budget.multiplierOf?_of_decode`: the multiplier of a budget that was read is the stored one.
* `Budget.Obtained`: the ways to a budget.
* `Budget.Obtained.bounded_iff`: which budgets keep the order.
-/

namespace ResetCheck

/-! ## Stored multipliers -/

theorem Shape.eq_int_of_natural {bound n : Nat} {wanted : String} {v : Data}
    (h : natural bound wanted v = .ok n) : v = .int n := by
  cases v with
  | int i =>
    rw [natural] at h
    split at h
    · next hi =>
      obtain rfl := Except.ok.inj h
      rw [Int.toNat_of_nonneg hi.1]
    · cases h
  | _ => cases h

theorem Shape.word32_eq_ok_iff {v : Data} {n : UInt32} : word32 v = .ok n ↔ v = .int n.toNat := by
  constructor
  · intro h
    obtain ⟨k, hk, rfl⟩ := exists_of_map h
    rw [eq_int_of_natural hk, UInt32.toNat_ofNat_of_lt' (lt_of_natural hk)]
  · rintro rfl
    exact word32_stored.decode_encode n trivial

namespace Budget

/-- What stored data has for the multiplier of a budget. -/
def multiplierOf? (v : Data) : Option Data :=
  (Shape.sourceOf v).find? multiplierField.name 1

/-- The multiplier of a budget that was read is the one that was stored. -/
theorem multiplierOf?_of_decode {v : Data} {b : Budget} (h : decode v = .ok b) :
    multiplierOf? v = some (.int b.multiplier.toNat) := by
  obtain ⟨expected, h⟩ := Shape.exists_build_sourceOf h
  obtain ⟨base, -, h⟩ := Shape.exists_of_bind h
  obtain ⟨multiplier, hmultiplier, h⟩ := Shape.exists_of_bind h
  obtain ⟨allowance, -, h⟩ := Shape.exists_of_bind h
  cases h
  obtain ⟨w, hw, hread⟩ := Shape.Field.exists_find? rfl hmultiplier
  obtain rfl := Shape.word32_eq_ok_iff.1 hread
  exact hw

theorem exists_decode_of_report {v : Data} {r : Report} (h : Report.decode v = .ok r) :
    ∃ w, decode w = .ok r.budget := by
  obtain ⟨expected, h⟩ := Shape.exists_build_sourceOf h
  obtain ⟨variant, -, h⟩ := Shape.exists_of_bind h
  obtain ⟨final, -, h⟩ := Shape.exists_of_bind h
  obtain ⟨milestones, -, h⟩ := Shape.exists_of_bind h
  obtain ⟨budget, hbudget, h⟩ := Shape.exists_of_bind h
  obtain ⟨outcome, -, h⟩ := Shape.exists_of_bind h
  cases h
  exact Shape.Field.exists_shape rfl hbudget

theorem exists_decode_of_verdict {v : Data} {verdict : Verdict}
    (h : Verdict.decode v = .ok verdict) : ∃ w, Report.decode w = .ok verdict.report := by
  obtain ⟨expected, h⟩ := Shape.exists_build_sourceOf h
  obtain ⟨kind, -, h⟩ := Shape.exists_of_bind h
  obtain ⟨reason, -, h⟩ := Shape.exists_of_bind h
  obtain ⟨report, hreport, h⟩ := Shape.exists_of_bind h
  cases h
  exact Shape.Field.exists_shape rfl hreport

/-! ## Ways to a budget -/

/-- How a budget can be obtained. -/
inductive Obtained : Budget → Prop
  | of (base : Span) (multiplier : UInt32) (allowance : Span) :
      Obtained (.of base multiplier allowance)
  | withAllowance {b : Budget} (h : Obtained b) (allowance : Span) :
      Obtained { b with allowance }
  | policy (base allowance : Span) (answer : PropertyAnswer) :
      Obtained (Policy.budget base allowance answer)
  | decoded {v : Data} {b : Budget} (h : decode v = .ok b) : Obtained b
  | reported {v : Data} {r : Report} (h : Report.decode v = .ok r) : Obtained r.budget
  | judged {v : Data} {verdict : Verdict} (h : Verdict.decode v = .ok verdict) :
      Obtained verdict.report.budget

/-- Whether a budget goes back to stored data with a multiplier of zero. -/
def FromZero (b : Budget) : Prop :=
  ∃ v c, decode v = .ok c ∧ multiplierOf? v = some (.int 0) ∧
    b = { c with allowance := b.allowance }

theorem fromZero_of_decode {v : Data} {b : Budget} (h : decode v = .ok b)
    (hzero : b.multiplier = 0) : b.FromZero := by
  have hstored := multiplierOf?_of_decode h
  rw [hzero] at hstored
  exact ⟨v, b, h, hstored, rfl⟩

/-- Only a stored multiplier can be zero. -/
theorem Obtained.fromZero {b : Budget} (h : b.Obtained) (hzero : b.multiplier = 0) :
    b.FromZero := by
  have hone : ¬(1 : UInt32) ≤ 0 := by decide
  induction h with
  | of base multiplier allowance =>
    exact absurd (hzero ▸ one_le_multiplier_of base multiplier allowance) hone
  | @withAllowance b h allowance ih =>
    obtain ⟨v, c, hc, hstored, hb⟩ := ih hzero
    refine ⟨v, c, hc, hstored, ?_⟩
    rw [hb]
  | policy base allowance answer =>
    exact absurd (hzero ▸ one_le_multiplier_of base answer.multiplier allowance) hone
  | decoded h => exact fromZero_of_decode h hzero
  | reported h =>
    obtain ⟨w, hw⟩ := exists_decode_of_report h
    exact fromZero_of_decode hw hzero
  | judged h =>
    obtain ⟨w, hw⟩ := exists_decode_of_verdict h
    obtain ⟨u, hu⟩ := exists_decode_of_report hw
    exact fromZero_of_decode hu hzero

/-- **The order of the times of a budget.**  However a budget is obtained, its multiplier is at
least one and its base no longer than its timeout, and that no longer than its window, unless it
goes back to stored data with a multiplier of zero. -/
theorem Obtained.bounded_iff {b : Budget} (h : b.Obtained) :
    (1 ≤ b.multiplier ∧ b.base ≤ b.timeout ∧ b.timeout ≤ b.window) ↔ ¬b.FromZero := by
  constructor
  · rintro ⟨hone, -, -⟩ ⟨v, c, hc, hstored, hb⟩
    have hmultiplier := multiplierOf?_of_decode hc
    rw [hstored, Option.some.injEq, Data.int.injEq] at hmultiplier
    have hzero : b.multiplier.toNat = 0 := by
      rw [hb]
      exact (Int.ofNat.inj hmultiplier).symm
    have hle := UInt32.le_iff_toNat_le.1 hone
    rw [hzero] at hle
    exact absurd hle (by decide)
  · intro hnot
    have hone : 1 ≤ b.multiplier := by
      refine UInt32.not_lt.1 fun hlt => hnot (h.fromZero ?_)
      exact UInt32.lt_one_iff.1 hlt
    exact ⟨hone, base_le_timeout hone, b.timeout_le_window⟩

/-- A stored budget of five seconds. -/
def storedWith (multiplier : Nat) : Data :=
  .record [(baseField.name, .int 5000), (multiplierField.name, .int multiplier),
    (allowanceField.name, .int 0)]

/-- A stored multiplier of three keeps the order, whatever the allowance is later. -/
theorem Obtained.bounded_iff_three :
    ∃ b : Budget, decode (storedWith 3) = .ok b ∧
      Obtained { b with allowance := .ofMillis 1000 } ∧
      ¬FromZero { b with allowance := .ofMillis 1000 } := by
  have hdecode : decode (storedWith 3) = .ok ⟨.ofMillis 5000, 3, 0⟩ := rfl
  have hobtained := (Obtained.decoded hdecode).withAllowance (.ofMillis 1000)
  exact ⟨_, hdecode, hobtained, hobtained.bounded_iff.1 (by decide)⟩

/-- A stored multiplier of zero is read as it stands, and the timeout is shorter than the base. -/
theorem not_bounded_zero :
    ∃ b : Budget, decode (storedWith 0) = .ok b ∧ b.Obtained ∧ b.multiplier = 0 ∧
      b.timeout < b.base :=
  have hdecode : decode (storedWith 0) = .ok ⟨.ofMillis 5000, 0, 0⟩ := rfl
  ⟨_, hdecode, .decoded hdecode, rfl, by decide⟩

end Budget

end ResetCheck
