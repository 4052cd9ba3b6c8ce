/-!
# Ranges of code points

Character classes that go beyond ASCII are given as lists of ranges; `within` tells whether a
character lies in one of them.
-/

namespace ResetCheck.Text

/-- Whether a character lies in one of the ranges, both ends included. -/
def within (ranges : List (Nat × Nat)) (c : Char) : Bool :=
  ranges.any fun r => r.1 ≤ c.toNat && c.toNat ≤ r.2

end ResetCheck.Text
