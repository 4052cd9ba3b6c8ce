import ResetCheck.Span

/-!
# Instants

An instant is a whole number of milliseconds from the start of the clock.  Timers go off at
instants, so a span with a part of a millisecond left over lets its timer wait for the next one.
Spans may be too long for the clock; a timer for such a span never goes off.
-/

namespace ResetCheck

abbrev Instant := Int

namespace Instant

/-- Spans from this number of seconds on lead to no instant of the clock, which counts seconds in 63
bits from some instant before its start. -/
def spanLimit : Nat :=
  9223372036854775807

/-- Thirty years in milliseconds. -/
def farMillis : Nat :=
  30 * 365 * 86400 * 1000

/-- The instant at which a timer set for `d` goes off, if the clock has that instant. -/
def alarm? (now : Instant) (d : Span) : Option Instant :=
  if d.seconds < spanLimit then some (now + d.ticks) else none

/-- The last instant within `d` of `now`, if the clock has that instant. -/
def limit? (now : Instant) (d : Span) : Option Instant :=
  if d.seconds < spanLimit then some (now + d.millis) else none

def far (now : Instant) : Instant :=
  now + farMillis

/-- The instant at which a sleep of `d` is over.  No sleep is longer than thirty years. -/
def wake (now : Instant) (d : Span) : Instant :=
  min (now + d.ticks) now.far

/-- The span from one instant to another, zero if the other is not later. -/
def spanTo (start finish : Instant) : Span :=
  Span.ofMillis (finish - start).toNat

end Instant

end ResetCheck
