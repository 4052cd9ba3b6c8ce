import ResetCheck.Data
import ResetCheck.Text.Numeral

/-!
# Reading JSON

`read?` turns a JSON text into data.  Records are sorted by their keys, and of two entries with
one key the later one stays.  A number without fraction and exponent is an integer if it fits 64
bits, signed or unsigned; all other numbers, minus zero among them, are floating point.
-/

namespace ResetCheck.Json

def isSpace (c : Char) : Bool :=
  c = ' ' || c = '\t' || c = '\n' || c = '\r'

def skipSpace (s : List Char) : List Char :=
  s.dropWhile isSpace

/-- The value of four digits of base sixteen. -/
def hexWord? : List Char → Option (Nat × List Char)
  | a :: b :: c :: d :: rest => (Text.inBase? 16 [a, b, c, d]).map (·, rest)
  | _ => none

/-- The character whose code unit `unit` was written with `\u`, and the text after it.  A high
half of a pair needs its low half, written the same way. -/
def unitChar? (unit : Nat) (s : List Char) : Option (Char × List Char) :=
  if 0xDC00 ≤ unit && unit ≤ 0xDFFF then none
  else if 0xD800 ≤ unit && unit ≤ 0xDBFF then
    match s with
    | '\\' :: 'u' :: rest => do
      let (low, rest) ← hexWord? rest
      if 0xDC00 ≤ low && low ≤ 0xDFFF then
        some (Char.ofNat (0x10000 + (unit - 0xD800) * 0x400 + (low - 0xDC00)), rest)
      else none
    | _ => none
  else some (Char.ofNat unit, s)

def escape? : List Char → Option (Char × List Char)
  | '"' :: s => some ('"', s)
  | '\\' :: s => some ('\\', s)
  | '/' :: s => some ('/', s)
  | 'b' :: s => some (Char.ofNat 0x08, s)
  | 'f' :: s => some (Char.ofNat 0x0C, s)
  | 'n' :: s => some ('\n', s)
  | 'r' :: s => some ('\r', s)
  | 't' :: s => some ('\t', s)
  | 'u' :: s => do
    let (unit, s) ← hexWord? s
    unitChar? unit s
  | _ => none

/-- The rest of a text after its opening quote; `acc` holds what was read, last character first. -/
def text? : Nat → List Char → List Char → Option (String × List Char)
  | 0, _, _ => none
  | _ + 1, _, [] => none
  | _ + 1, acc, '"' :: s => some (String.ofList acc.reverse, s)
  | fuel + 1, acc, '\\' :: s => do
    let (c, s) ← escape? s
    text? fuel (c :: acc) s
  | fuel + 1, acc, c :: s => if c.toNat < 0x20 then none else text? fuel (c :: acc) s

def digits? (s : List Char) : Option (List Char × List Char) :=
  let digits := s.takeWhile Text.isDigit
  if digits.isEmpty then none else some (digits, s.dropWhile Text.isDigit)

/-- The digits of a fraction, none if there is no point. -/
def fraction? : List Char → Option (List Char × List Char)
  | '.' :: s => digits? s
  | s => some ([], s)

def exponent? : List Char → Option (Option Int × List Char)
  | c :: s =>
    if c = 'e' || c = 'E' then
      match s with
      | '-' :: s => (digits? s).map fun (d, s) => (some (-(Text.digitsValue d : Int)), s)
      | '+' :: s => (digits? s).map fun (d, s) => (some (Text.digitsValue d : Int), s)
      | s => (digits? s).map fun (d, s) => (some (Text.digitsValue d : Int), s)
    else some (none, c :: s)
  | [] => some (none, [])

/-- An integer, or floating point if it is minus zero or does not fit. -/
def integerOf (negative : Bool) (n : Nat) : Data :=
  if negative then
    if n = 0 || Text.signedBound < n then .real (.ofDecimal true n 0) else .int (-(n : Int))
  else if n < UInt64.size then .int n
  else .real (.ofDecimal false n 0)

def number? (negative : Bool) (s : List Char) : Option (Data × List Char) := do
  let (whole, s) ← digits? s
  if 1 < whole.length && whole.head? = some '0' then none
  let (fraction, s) ← fraction? s
  let (exponent, s) ← exponent? s
  let n := Text.digitsValue (whole ++ fraction)
  if fraction.isEmpty && exponent.isNone then some (integerOf negative n, s)
  else some (.real (.ofDecimal negative n (exponent.getD 0 - fraction.length)), s)

mutual

def value? : Nat → List Char → Option (Data × List Char)
  | 0, _ => none
  | fuel + 1, s =>
    match skipSpace s with
    | 'n' :: 'u' :: 'l' :: 'l' :: s => some (.null, s)
    | 't' :: 'r' :: 'u' :: 'e' :: s => some (.bool true, s)
    | 'f' :: 'a' :: 'l' :: 's' :: 'e' :: s => some (.bool false, s)
    | '"' :: s => (text? (s.length + 1) [] s).map fun (t, s) => (.text t, s)
    | '[' :: s =>
      match skipSpace s with
      | ']' :: s => some (.list [], s)
      | s => items? fuel [] s
    | '{' :: s =>
      match skipSpace s with
      | '}' :: s => some (.record [], s)
      | s => members? fuel [] s
    | '-' :: s => number? true s
    | s => number? false s

/-- The items of a list up to its closing bracket; `acc` holds the items read, last one first. -/
def items? : Nat → List Data → List Char → Option (Data × List Char)
  | 0, _, _ => none
  | fuel + 1, acc, s => do
    let (v, s) ← value? fuel s
    match skipSpace s with
    | ',' :: s => items? fuel (v :: acc) s
    | ']' :: s => some (.list (v :: acc).reverse, s)
    | _ => none

/-- The entries of a record up to its closing brace. -/
def members? : Nat → List (String × Data) → List Char → Option (Data × List Char)
  | 0, _, _ => none
  | fuel + 1, acc, s =>
    match skipSpace s with
    | '"' :: s => do
      let (key, s) ← text? (s.length + 1) [] s
      match skipSpace s with
      | ':' :: s =>
        let (v, s) ← value? fuel s
        let acc := Data.insertSorted key v acc
        match skipSpace s with
        | ',' :: s => members? fuel acc s
        | '}' :: s => some (.record acc, s)
        | _ => none
      | _ => none
    | _ => none

end

def read? (s : String) : Option Data := do
  let s := s.toList
  let (v, rest) ← value? (s.length + 1) s
  if (skipSpace rest).isEmpty then some v else none

end ResetCheck.Json
