/-!
# Finding one text inside another

`hasInfix p s` tells whether `p` occurs in `s` at any place.
-/

namespace ResetCheck.Text

def hasInfix (p : List Char) : List Char → Bool
  | [] => p.isEmpty
  | c :: s => p.isPrefixOf (c :: s) || hasInfix p s

theorem hasInfix_iff {p s : List Char} : hasInfix p s = true ↔ p <:+: s := by
  induction s with
  | nil => simp [hasInfix, List.isEmpty_iff]
  | cons c s ih =>
    simp only [hasInfix, Bool.or_eq_true, List.isPrefixOf_iff_prefix, ih]
    exact List.infix_cons_iff.symm

end ResetCheck.Text
