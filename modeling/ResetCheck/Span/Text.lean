import ResetCheck.Span

/-!
# The text of a span

A span is written in the largest of its units (seconds, milliseconds, microseconds, nanoseconds)
that it reaches, as a decimal fraction without zeros at its end.
-/

namespace ResetCheck.Span

/-- A fraction `n / 10 ^ width`, below one, as digits after a point; no digits for zero. -/
def fractionText (width n : Nat) : String :=
  if n = 0 then ""
  else
    let digits := Nat.toDigits 10 n
    let padded := List.replicate (width - digits.length) '0' ++ digits
    String.ofList ('.' :: (padded.reverse.dropWhile (· == '0')).reverse)

/-- A number of nanoseconds in a unit of `10 ^ width` nanoseconds. -/
def inUnit (nanos width : Nat) (unit : String) : String :=
  toString (nanos / Nat.pow 10 width) ++ fractionText width (nanos % Nat.pow 10 width) ++ unit

def text (a : Span) : String :=
  if 1000000000 ≤ a.nanos then inUnit a.nanos 9 "s"
  else if 1000000 ≤ a.nanos then inUnit a.nanos 6 "ms"
  else if 1000 ≤ a.nanos then inUnit a.nanos 3 "µs"
  else inUnit a.nanos 0 "ns"

end ResetCheck.Span
