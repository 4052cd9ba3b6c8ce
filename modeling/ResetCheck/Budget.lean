import ResetCheck.Span

/-!
# Budgets

The time a session may take: a base time, a multiplier for slow hardware, and an allowance for
the recovery of the link.
-/

namespace ResetCheck

structure Budget where
  base : Span
  multiplier : UInt32
  allowance : Span
deriving DecidableEq

namespace Budget

/-- A budget whose multiplier is at least one. -/
def of (base : Span) (multiplier : UInt32) (allowance : Span) : Budget :=
  ⟨base, max multiplier 1, allowance⟩

/-- The time the device may take to leave. -/
def timeout (b : Budget) : Span :=
  b.base.scale b.multiplier.toNat

/-- The time the whole reset may take. -/
def window (b : Budget) : Span :=
  b.timeout + b.allowance

theorem one_le_multiplier_of (base : Span) (multiplier : UInt32) (allowance : Span) :
    1 ≤ (of base multiplier allowance).multiplier := by
  show (1 : UInt32) ≤ if multiplier ≤ 1 then 1 else multiplier
  split
  · exact UInt32.le_refl 1
  · next h => exact UInt32.le_of_lt (UInt32.not_le.1 h)

theorem base_le_timeout {b : Budget} (h : 1 ≤ b.multiplier) : b.base ≤ b.timeout := by
  have hpos : 1 ≤ b.multiplier.toNat := UInt32.le_iff_toNat_le.1 h
  rw [timeout, Span.le_def, Span.nanos_scale]
  exact Nat.le_min.2 ⟨Nat.le_mul_of_pos_right _ hpos, b.base.nanos_le⟩

theorem timeout_le_window (b : Budget) : b.timeout ≤ b.window := by
  rw [window, Span.le_def, Span.nanos_add]
  exact Nat.le_min.2 ⟨Nat.le_add_right _ _, b.timeout.nanos_le⟩

end Budget

end ResetCheck
