import ResetCheck.Text.Casing.Table
import ResetCheck.Text.Letters

/-!
# Lowercase

`lower` maps a whole text to lowercase.  It depends on one character's neighbours in a single
case: a capital sigma that ends a word becomes the final form of the letter.
-/

namespace ResetCheck.Text

/-- A to Z only. -/
def asciiLower (c : Char) : Char :=
  if 'A' ≤ c && c ≤ 'Z' then Char.ofNat (c.toNat + 32) else c

/-- The run of the table that holds a code point, with the code point's lowercase. -/
def runLower? (n : Nat) : Nat × Nat × Nat × Nat → Option Nat
  | (first, last, step, lower) =>
    if first ≤ n && n ≤ last && (n - first) % step == 0 then some (n - first + lower) else none

/-- The lowercase of one character.  A capital I with a dot keeps the dot as a mark of its own. -/
def lowerChar (c : Char) : List Char :=
  if c.toNat < 0x80 then [asciiLower c]
  else if c.toNat == 0x130 then ['i', Char.ofNat 0x307]
  else match lowercaseRuns.findSome? (runLower? c.toNat) with
    | some n => [Char.ofNat n]
    | none => [c]

def isCased (c : Char) : Bool :=
  within casedRanges c

def isCaseIgnorable (c : Char) : Bool :=
  within caseIgnorableRanges c

/-- Whether the first character that case rules do not look through carries case. -/
def meetsCased (s : List Char) : Bool :=
  (s.dropWhile isCaseIgnorable).head?.any isCased

def capitalSigma : Char := Char.ofNat 0x3A3

/-- The lowercase of a capital sigma, given what stands before it, nearest first, and after it. -/
def lowerSigma (before after : List Char) : Char :=
  if meetsCased before && !meetsCased after then Char.ofNat 0x3C2 else Char.ofNat 0x3C3

/-- The lowercase of a text that follows `before`, which is given from its end. -/
def lowerAfter (before : List Char) : List Char → List Char
  | [] => []
  | c :: s =>
    (if c = capitalSigma then [lowerSigma before s] else lowerChar c) ++ lowerAfter (c :: before) s

def lower (s : List Char) : List Char :=
  lowerAfter [] s

end ResetCheck.Text
