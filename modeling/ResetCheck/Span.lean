/-!
# Spans of time

A span is a whole number of nanoseconds, at most one less than `2 ^ 64` seconds.  Sums and
products that would be longer are the longest span.
-/

namespace ResetCheck

/-- The nanoseconds of the longest span. -/
def Span.maxNanos : Nat :=
  UInt64.size * 1000000000 - 1

structure Span where
  nanos : Nat
  nanos_le : nanos ≤ Span.maxNanos
deriving DecidableEq

namespace Span

@[ext]
theorem ext {a b : Span} (h : a.nanos = b.nanos) : a = b := by
  cases a; cases b; cases h; rfl

def ofNanos (n : Nat) : Span :=
  ⟨min n maxNanos, Nat.min_le_right _ _⟩

def ofMillis (n : Nat) : Span :=
  ofNanos (n * 1000000)

def longest : Span :=
  ⟨maxNanos, Nat.le_refl _⟩

instance : Zero Span :=
  ⟨⟨0, Nat.zero_le _⟩⟩

instance : Inhabited Span :=
  ⟨0⟩

instance : LE Span :=
  ⟨fun a b => a.nanos ≤ b.nanos⟩

instance : LT Span :=
  ⟨fun a b => a.nanos < b.nanos⟩

instance (a b : Span) : Decidable (a ≤ b) :=
  inferInstanceAs (Decidable (a.nanos ≤ b.nanos))

instance (a b : Span) : Decidable (a < b) :=
  inferInstanceAs (Decidable (a.nanos < b.nanos))

instance : Add Span :=
  ⟨fun a b => ofNanos (a.nanos + b.nanos)⟩

/-- A span taken several times over. -/
def scale (a : Span) (k : Nat) : Span :=
  ofNanos (a.nanos * k)

/-- The whole milliseconds of a span. -/
def millis (a : Span) : Nat :=
  a.nanos / 1000000

/-- The milliseconds a timer takes for a span: a started millisecond counts in full. -/
def ticks (a : Span) : Nat :=
  (a.nanos + 999999) / 1000000

/-- The whole seconds of a span. -/
def seconds (a : Span) : Nat :=
  a.nanos / 1000000000

@[simp]
theorem nanos_ofNanos (n : Nat) : (ofNanos n).nanos = min n maxNanos := rfl

@[simp]
theorem nanos_zero : (0 : Span).nanos = 0 := rfl

@[simp]
theorem nanos_longest : longest.nanos = maxNanos := rfl

theorem nanos_add (a b : Span) : (a + b).nanos = min (a.nanos + b.nanos) maxNanos := rfl

theorem nanos_scale (a : Span) (k : Nat) : (a.scale k).nanos = min (a.nanos * k) maxNanos := rfl

theorem le_def {a b : Span} : a ≤ b ↔ a.nanos ≤ b.nanos := Iff.rfl

theorem lt_def {a b : Span} : a < b ↔ a.nanos < b.nanos := Iff.rfl

end Span

end ResetCheck
