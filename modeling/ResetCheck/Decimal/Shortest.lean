import ResetCheck.Decimal.Binary64

/-!
# Shortest decimal texts of binary floating point

`shortest` finds the coarsest power of ten of which a multiple reads back as the given number,
and the nearest such multiple.  It is written positionally, or with an exponent where the point
would stand far from the digits.
-/

namespace ResetCheck.Binary64

/-- Whether `num / den` lies among the numbers that round to `m * 2 ^ e`.  All is compared in
quarters of `2 ^ e`. -/
def readsBack (m : Nat) (e : Int) (num den : Nat) : Bool :=
  let (n, d) := scaled (4 * num) den e
  let lowGap := if m = leastFull && minExponent < e then 1 else 2
  if m % 2 == 0 then (4 * m - lowGap) * d ≤ n && n ≤ (4 * m + 2) * d
  else (4 * m - lowGap) * d < n && n < (4 * m + 2) * d

def decimalRatio (n : Nat) (k : Int) : Nat × Nat :=
  if 0 ≤ k then (n * Nat.pow 10 k.toNat, 1) else (n, Nat.pow 10 (-k).toNat)

/-- The multiple of `10 ^ k` nearest to `m * 2 ^ e` that reads back, if one does. -/
def onGrid? (m : Nat) (e k : Int) : Option Nat :=
  let (num, den) := if 0 ≤ e then (m * Nat.pow 2 e.toNat, 1) else (m, Nat.pow 2 (-e).toNat)
  let (num, den) :=
    if 0 ≤ k then (num, den * Nat.pow 10 k.toNat) else (num * Nat.pow 10 (-k).toNat, den)
  let below := num / den
  let fits := fun n => n != 0 && (let (a, b) := decimalRatio n k; readsBack m e a b)
  let nearest := roundRatio num den
  if fits nearest then some nearest
  else if fits below then some below
  else if fits (below + 1) then some (below + 1)
  else none

/-- Goes down the powers of ten from `10 ^ k`. -/
def searchGrid (m : Nat) (e : Int) : Nat → Int → Nat × Int
  | 0, k => (0, k)
  | fuel + 1, k =>
    match onGrid? m e k with
    | some n => (n, k)
    | none => searchGrid m e fuel (k - 1)

/-- The shortest `digits * 10 ^ exponent` for a number other than zero. -/
def shortest (significand : Nat) (exponent : Int) : Nat × Int :=
  searchGrid significand exponent 700 309

def zeros (n : Nat) : List Char :=
  List.replicate n '0'

/-- Digits with the point after `point` of them, zeros filling up on either side. -/
def positional (digits : List Char) (point : Int) : List Char :=
  if point ≤ 0 then ['0', '.'] ++ zeros (-point).toNat ++ digits
  else
    let n := point.toNat
    if digits.length ≤ n then digits ++ zeros (n - digits.length) ++ ['.', '0']
    else digits.take n ++ ['.'] ++ digits.drop n

def exponentText (n : Int) : List Char :=
  ['e', if n < 0 then '-' else '+'] ++ Nat.toDigits 10 n.natAbs

/-- One digit before the point and a power of ten; no point after a single digit. -/
def scientific (digits : List Char) (point : Int) : List Char :=
  digits.take 1 ++ (if digits.length ≤ 1 then [] else '.' :: digits.drop 1)
    ++ exponentText (point - 1)

/-- When a number is written without an exponent, told from the place of its point. -/
structure Style where
  isPositional : Int → Bool

def plainStyle : Style :=
  ⟨fun _ => true⟩

/-- An exponent once the point stands over sixteen digits to the right or five to the left. -/
def compactStyle : Style :=
  ⟨fun point => -5 < point && point ≤ 16⟩

def text (style : Style) : Binary64 → String
  | finite negative m e =>
    let sign := if negative then "-" else ""
    if m = 0 then sign ++ "0.0"
    else
      let (n, k) := shortest m e
      let digits := Nat.toDigits 10 n
      let point : Int := digits.length + k
      sign ++ String.ofList
        (if style.isPositional point then positional digits point else scientific digits point)
  | infinite negative => if negative then "-inf" else "inf"
  | nan => "NaN"

end ResetCheck.Binary64
