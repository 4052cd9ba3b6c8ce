/-!
# Reading numbers

A numeral is one or more ASCII digits; leading zeros are allowed.  `unsigned?` lets a plus sign
stand before it, `signed?` a plus or a minus sign.  Both take the bounds of the number.  `isReal`
only tells whether a text is a number, which may have a fraction.
-/

namespace ResetCheck.Text

def isDigit (c : Char) : Bool :=
  '0' ≤ c && c ≤ '9'

def digitValue (c : Char) : Nat :=
  c.toNat - '0'.toNat

def digitsValue (s : List Char) : Nat :=
  s.foldl (fun n c => 10 * n + digitValue c) 0

/-- Signed integers of 64 bits are below this number and not below its negative. -/
def signedBound : Nat :=
  9223372036854775808

def natural? (s : List Char) : Option Nat :=
  if !s.isEmpty && s.all isDigit then some (digitsValue s) else none

def dropPlus : List Char → List Char
  | '+' :: s => s
  | s => s

/-- A numeral below `bound`, perhaps after a plus sign. -/
def unsigned? (bound : Nat) (s : List Char) : Option Nat :=
  (natural? (dropPlus s)).filter (· < bound)

/-- A numeral from `-bound` up to but not including `bound`, perhaps after a sign. -/
def signed? (bound : Nat) : List Char → Option Int
  | '-' :: s => ((natural? s).filter (· ≤ bound)).map fun n => -(n : Int)
  | s => (unsigned? bound s).map Int.ofNat

def dropSign : List Char → List Char
  | '-' :: s => s
  | s => dropPlus s

def isExponent : List Char → Bool
  | [] => true
  | c :: s => (c = 'e' || c = 'E') && (natural? (dropSign s)).isSome

/-- Whether a text is a number: digits with or without a point and an exponent, or a word for an
infinity or for no number; a sign may stand before it. -/
def isReal (s : List Char) : Bool :=
  let s := dropSign s
  let whole := s.takeWhile isDigit
  let (fraction, rest) := match s.dropWhile isDigit with
    | '.' :: rest => (rest.takeWhile isDigit, rest.dropWhile isDigit)
    | rest => ([], rest)
  ["inf", "infinity", "nan"].contains (String.ofList (s.map Char.toLower))
    || (!(whole ++ fraction).isEmpty && isExponent rest)

/-- One digit of base sixteen, in either case of its letter. -/
def hexDigit? (c : Char) : Option Nat :=
  if '0' ≤ c && c ≤ '9' then some (c.toNat - '0'.toNat)
  else if 'a' ≤ c && c ≤ 'f' then some (c.toNat - 'a'.toNat + 10)
  else if 'A' ≤ c && c ≤ 'F' then some (c.toNat - 'A'.toNat + 10)
  else none

/-- The value of a text of digits in base `base`, the digits of base sixteen serving all bases. -/
def inBase? (base : Nat) (s : List Char) : Option Nat :=
  s.foldl
    (fun value c => do
      let n ← value
      let d ← hexDigit? c
      if d < base then some (base * n + d) else none)
    (some 0)

/-- The least number of digits of base sixteen that show a number. -/
def hexText (n : Nat) : String :=
  String.ofList (Nat.toDigits 16 n)

/-- Digits of a number, with zeros in front up to a width. -/
def padded (base width n : Nat) : String :=
  let digits := Nat.toDigits base n
  String.ofList (List.replicate (width - digits.length) '0' ++ digits)

end ResetCheck.Text
