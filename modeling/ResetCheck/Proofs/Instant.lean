import ResetCheck.Instant

/-!
# The order of instants

A sleep never ends before it begins, and later instants are further away.  The instant at which a
timer goes off is the last instant of its span, or the one after it if the span has a part of a
millisecond left over.
-/

namespace ResetCheck

namespace Instant

theorem le_wake (now : Instant) (a : Span) : now ≤ now.wake a :=
  Int.le_min.2 ⟨Int.le_add_of_nonneg_right (Int.natCast_nonneg _),
    Int.le_add_of_nonneg_right (Int.natCast_nonneg _)⟩

theorem lt_wake (now : Instant) {a : Span} (h : a.nanos ≠ 0) : now < now.wake a := by
  unfold wake far farMillis Span.ticks Instant at *
  omega

theorem wake_of_nanos_eq_zero {now : Instant} {a : Span} (h : a.nanos = 0) : now.wake a = now := by
  have hticks : a.ticks = 0 := by rw [Span.ticks, h]
  rw [wake, hticks]
  exact (Int.min_eq_left (Int.add_le_add_left (Int.natCast_nonneg _) now)).trans (Int.add_zero now)

theorem spanTo_mono (start : Instant) {t t' : Instant} (h : t ≤ t') :
    (start.spanTo t).nanos ≤ (start.spanTo t').nanos := by
  unfold Instant at *
  simp only [spanTo, Span.ofMillis, Span.nanos_ofNanos]
  omega

/-- The last instant within a span and the instant at which its timer goes off. -/
theorem alarm?_limit? (now : Instant) (a : Span) :
    (∃ limit alarm, now.limit? a = some limit ∧ now.alarm? a = some alarm ∧
        now ≤ limit ∧ limit ≤ alarm ∧ alarm ≤ limit + 1) ∨
      now.limit? a = none ∧ now.alarm? a = none := by
  unfold limit? alarm?
  by_cases h : a.seconds < spanLimit
  · refine .inl ⟨now + a.millis, now + a.ticks, if_pos h, if_pos h, ?_⟩
    unfold Span.millis Span.ticks Instant at *
    omega
  · exact .inr ⟨if_neg h, if_neg h⟩

theorem le_alarm? {now t : Instant} {a : Span} (h : now.alarm? a = some t) : now ≤ t := by
  rw [alarm?] at h
  split at h
  · exact Option.some.inj h ▸ Int.le_add_of_nonneg_right (Int.natCast_nonneg _)
  · cases h

theorem alarm?_of_seconds_lt (now : Instant) {a : Span} (h : a.seconds < spanLimit) :
    now.alarm? a = some (now + a.ticks) :=
  if_pos h

theorem eq_of_alarm? {now t : Instant} {a : Span} (h : now.alarm? a = some t) :
    t = now + a.ticks := by
  rw [alarm?] at h
  split at h
  · exact (Option.some.inj h).symm
  · cases h

theorem spanTo_add (start : Instant) (n : Nat) : start.spanTo (start + n) = Span.ofMillis n := by
  have h : start + n - start = (n : Int) := by
    unfold Instant at *
    omega
  rw [spanTo, h, Int.toNat_natCast]

theorem alarm?_mono {now t t' : Instant} {a b : Span} (hab : a ≤ b) (h : now.alarm? a = some t)
    (h' : now.alarm? b = some t') : t ≤ t' := by
  have hticks : a.ticks ≤ b.ticks := Nat.div_le_div_right (Nat.add_le_add_right hab _)
  rw [alarm?] at h h'
  split at h
  · split at h'
    · obtain rfl := Option.some.inj h
      obtain rfl := Option.some.inj h'
      exact Int.add_le_add_left (Int.ofNat_le.2 hticks) now
    · cases h'
  · cases h

/-- A timer for a span that is too long for the clock is not reached by a longer span either. -/
theorem alarm?_eq_none_mono {now : Instant} {a b : Span} (hab : a ≤ b) (h : now.alarm? a = none) :
    now.alarm? b = none := by
  have hseconds : a.seconds ≤ b.seconds := Nat.div_le_div_right hab
  rw [alarm?] at h ⊢
  split at h
  · cases h
  · next hlong => exact if_neg (by omega)

theorem max_add (t : Instant) (m n : Nat) : max (t + m) (t + n) = t + (max m n : Nat) := by
  unfold Instant at *
  omega

theorem add_add (t : Instant) (m n : Nat) : t + m + n = t + (m + n : Nat) := by
  unfold Instant at *
  omega

/-- An end before an instant that is waited for anyway may be any. -/
theorem max_min_eq {issue e : Instant} {limit window : Int} {n : Nat} (hissue : 0 ≤ issue)
    (hle : limit ≤ window) (he : max issue e = max issue limit) :
    max (issue + n) (min e (issue + window)) = max (issue + n) limit := by
  unfold Instant at *
  omega

/-- The milliseconds a sleep takes. -/
def slept (a : Span) : Nat :=
  min a.ticks farMillis

theorem wake_eq (now : Instant) (a : Span) : now.wake a = now + (slept a : Nat) := by
  unfold wake far slept Instant at *
  omega

end Instant

/-! ## Whole milliseconds -/

namespace Span

variable {a : Span} {n : Nat}

/-- A whole number of milliseconds is less than a span if the timer of the span takes longer. -/
theorem ofMillis_lt_iff (ha : a.seconds < Instant.spanLimit) : ofMillis n < a ↔ n < a.ticks := by
  rw [lt_def, ofMillis, nanos_ofNanos]
  simp only [seconds, ticks, Instant.spanLimit, maxNanos, UInt64.size] at *
  omega

theorem ofMillis_le_iff (ha : a.seconds < Instant.spanLimit) : ofMillis n ≤ a ↔ n ≤ a.millis := by
  rw [le_def, ofMillis, nanos_ofNanos]
  simp only [seconds, millis, Instant.spanLimit, maxNanos, UInt64.size] at *
  omega

theorem lt_ofMillis_iff (ha : a.seconds < Instant.spanLimit) : a < ofMillis n ↔ a.millis < n := by
  rw [lt_def, ← Nat.not_le, ← le_def, ofMillis_le_iff ha, Nat.not_le]

theorem millis_le_ticks : a.millis ≤ a.ticks :=
  Nat.div_le_div_right (Nat.le_add_right _ _)

theorem ticks_le_millis_succ : a.ticks ≤ a.millis + 1 := by
  unfold ticks millis
  omega

theorem ticks_mono {b : Span} (h : a ≤ b) : a.ticks ≤ b.ticks :=
  Nat.div_le_div_right (Nat.add_le_add_right h _)

theorem seconds_mono {b : Span} (h : a ≤ b) : a.seconds ≤ b.seconds :=
  Nat.div_le_div_right h

/-- A span of whole milliseconds. -/
theorem ofMillis_eq (hle : n ≤ a.millis) (hge : a.ticks ≤ n) : ofMillis n = a := by
  have hnanos := a.nanos_le
  refine ext ?_
  rw [ofMillis, nanos_ofNanos]
  unfold millis at hle
  unfold ticks at hge
  omega

theorem lt_of_seconds_lt {b : Span} (h : a.seconds < b.seconds) : a < b := by
  rw [lt_def]
  unfold seconds at h
  omega

theorem le_of_ticks_le_millis {b : Span} (h : a.ticks ≤ b.millis) : a ≤ b := by
  rw [le_def]
  unfold ticks millis at h
  omega

/-- A span is one that the clock has if it is shorter than one that the clock has. -/
theorem seconds_lt_of_ticks_lt {b : Span} (hb : b.seconds < Instant.spanLimit)
    (h : a.ticks < b.ticks) : a.seconds < Instant.spanLimit := by
  simp only [seconds, ticks, Instant.spanLimit] at *
  omega

end Span

end ResetCheck
