/-!
# Binary floating point

A number of the 64-bit format is a significand below `2 ^ 53` times a power of two not below
`2 ^ (-1074)`, or an infinity, or no number.  `ofDecimal` rounds a decimal number to the nearest
of them, a tie going to the even significand.
-/

namespace ResetCheck

inductive Binary64
  | finite (negative : Bool) (significand : Nat) (exponent : Int)
  | infinite (negative : Bool)
  | nan
deriving DecidableEq

namespace Binary64

def minExponent : Int :=
  -1074

/-- The least significand of 53 bits. -/
def leastFull : Nat :=
  4503599627370496

/-- `num / den`, rounded to the nearest whole number, a tie to the even one. -/
def roundRatio (num den : Nat) : Nat :=
  let q := num / den
  let twice := 2 * (num % den)
  if den < twice || (den == twice && q % 2 == 1) then q + 1 else q

/-- `num / den` as a multiple of `2 ^ e`. -/
def scaled (num den : Nat) (e : Int) : Nat × Nat :=
  if 0 ≤ e then (num, den * Nat.pow 2 e.toNat) else (num * Nat.pow 2 (-e).toNat, den)

/-- The exponent with which `num / den` keeps 53 bits. -/
def exponentOf (num den : Nat) : Int :=
  let e : Int := (num.log2 : Int) - den.log2 - 52
  let (n, d) := scaled num den e
  max minExponent (if n < d * leastFull then e - 1 else e)

def ofRatio (negative : Bool) (num den : Nat) : Binary64 :=
  if num = 0 then finite negative 0 0
  else
    let e := exponentOf num den
    let (n, d) := scaled num den e
    let m := roundRatio n d
    let (m, e) := if m = 2 * leastFull then (leastFull, e + 1) else (m, e)
    if 971 < e then infinite negative else finite negative m e

/-- The nearest number to `digits * 10 ^ exponent`.  Exponents beyond the range of the format are
told from the number of digits. -/
def ofDecimal (negative : Bool) (digits : Nat) (exponent : Int) : Binary64 :=
  let magnitude := (digits.log2 / 4 : Int) + exponent
  if digits = 0 then finite negative 0 0
  else if 400 < magnitude then infinite negative
  else if (digits.log2 : Int) + exponent < -400 then finite negative 0 0
  else if 0 ≤ exponent then ofRatio negative (digits * Nat.pow 10 exponent.toNat) 1
  else ofRatio negative digits (Nat.pow 10 (-exponent).toNat)

end Binary64

end ResetCheck
