import ResetCheck.Data
import ResetCheck.Text.Numeral

/-!
# TOML scalars

Readers for texts, numbers and dates.  Each reads a value off the front of a text and gives the
rest of it.
-/

namespace ResetCheck.Toml

abbrev Reader (α : Type) := List Char → Option (α × List Char)

def isBlankChar (c : Char) : Bool :=
  c = ' ' || c = '\t'

def skipBlanks (s : List Char) : List Char :=
  s.dropWhile isBlankChar

/-- Whether a character may stand in a comment or a literal text: no control but the tab. -/
def isPrintable (c : Char) : Bool :=
  c = '\t' || (0x20 ≤ c.toNat && c.toNat != 0x7F)

/-- Removes a newline, which may have a carriage return before it. -/
def newline? : List Char → Option (List Char)
  | '\n' :: s => some s
  | '\r' :: '\n' :: s => some s
  | _ => none

/-! ## Texts -/

def codePoint? (n : Nat) (s : List Char) : Option (Char × List Char) :=
  let digits := s.take n
  if digits.length < n then none
  else do
    let code ← Text.inBase? 16 digits
    if code.isValidChar then some (Char.ofNat code, s.drop n) else none

def escape? : Reader Char
  | 'b' :: s => some (Char.ofNat 0x08, s)
  | 't' :: s => some ('\t', s)
  | 'n' :: s => some ('\n', s)
  | 'f' :: s => some (Char.ofNat 0x0C, s)
  | 'r' :: s => some ('\r', s)
  | '"' :: s => some ('"', s)
  | '\\' :: s => some ('\\', s)
  | 'u' :: s => codePoint? 4 s
  | 'U' :: s => codePoint? 8 s
  | _ => none

/-- The rest of a text in double quotes; `acc` holds what was read, last character first. -/
def basicText? : Nat → List Char → Reader String
  | 0, _, _ => none
  | _ + 1, _, [] => none
  | _ + 1, acc, '"' :: s => some (String.ofList acc.reverse, s)
  | fuel + 1, acc, '\\' :: s => do
    let (c, s) ← escape? s
    basicText? fuel (c :: acc) s
  | fuel + 1, acc, c :: s => if isPrintable c then basicText? fuel (c :: acc) s else none

def literalText? (s : List Char) : Option (String × List Char) :=
  let text := s.takeWhile fun c => c != '\'' && isPrintable c
  match s.dropWhile fun c => c != '\'' && isPrintable c with
  | '\'' :: rest => some (String.ofList text, rest)
  | _ => none

/-- What follows a backslash at the end of a line: blanks and newlines, at least one of these. -/
def continued? : Nat → List Char → Option (List Char)
  | 0, _ => none
  | fuel + 1, s => do
    let s ← newline? (skipBlanks s)
    some ((continued? fuel s).getD (skipBlanks s))

/-- The number of quotes of one kind at the front of a text. -/
def countQuotes (quote : Char) (s : List Char) : Nat :=
  (s.takeWhile (· = quote)).length

/-- The rest of a text in three double quotes.  One or two quotes belong to the text, also where
they stand before the closing ones. -/
def longBasicText? : Nat → List Char → Reader String
  | 0, _, _ => none
  | _ + 1, _, [] => none
  | fuel + 1, acc, '"' :: s =>
    let n := countQuotes '"' s + 1
    if n < 3 then longBasicText? fuel ('"' :: acc) s
    else
      let kept := min (n - 3) 2
      some (String.ofList (acc.reverse ++ List.replicate kept '"'), s.drop (kept + 2))
  | fuel + 1, acc, '\\' :: s =>
    match continued? (s.length + 1) s with
    | some s => longBasicText? fuel acc s
    | none => do
      let (c, s) ← escape? s
      longBasicText? fuel (c :: acc) s
  | fuel + 1, acc, c :: s =>
    match newline? (c :: s) with
    | some s => longBasicText? fuel ('\n' :: acc) s
    | none => if isPrintable c then longBasicText? fuel (c :: acc) s else none

def longLiteralText? : Nat → List Char → Reader String
  | 0, _, _ => none
  | _ + 1, _, [] => none
  | fuel + 1, acc, '\'' :: s =>
    let n := countQuotes '\'' s + 1
    if n < 3 then longLiteralText? fuel ('\'' :: acc) s
    else
      let kept := min (n - 3) 2
      some (String.ofList (acc.reverse ++ List.replicate kept '\''), s.drop (kept + 2))
  | fuel + 1, acc, c :: s =>
    match newline? (c :: s) with
    | some s => longLiteralText? fuel ('\n' :: acc) s
    | none => if isPrintable c then longLiteralText? fuel (c :: acc) s else none

/-- A newline right after the opening quotes does not belong to the text. -/
def dropFirstNewline (s : List Char) : List Char :=
  (newline? s).getD s

def shortText? : Reader String
  | '"' :: s => basicText? (s.length + 1) [] s
  | '\'' :: s => literalText? s
  | _ => none

def text? : Reader String
  | '"' :: '"' :: '"' :: s => longBasicText? (s.length + 1) [] (dropFirstNewline s)
  | '\'' :: '\'' :: '\'' :: s => longLiteralText? (s.length + 1) [] (dropFirstNewline s)
  | s => shortText? s

/-! ## Numbers -/

/-- Further digits, with single underscores between digits. -/
def moreDigits (isDigit : Char → Bool) : List Char → List Char × List Char
  | '_' :: c :: s =>
    if isDigit c then
      let (digits, rest) := moreDigits isDigit s
      (c :: digits, rest)
    else ([], '_' :: c :: s)
  | c :: s =>
    if isDigit c then
      let (digits, rest) := moreDigits isDigit s
      (c :: digits, rest)
    else ([], c :: s)
  | [] => ([], [])

def digitGroup? (isDigit : Char → Bool) : Reader (List Char)
  | c :: s =>
    if isDigit c then
      let (digits, rest) := moreDigits isDigit s
      some (c :: digits, rest)
    else none
  | [] => none

/-- Whether there is a minus sign; a plus sign may stand as well. -/
def sign : List Char → Bool × List Char
  | '-' :: s => (true, s)
  | '+' :: s => (false, s)
  | s => (false, s)

/-- Digits without a leading zero. -/
def wholeDigits? : Reader (List Char)
  | '0' :: s => some (['0'], s)
  | s => digitGroup? Text.isDigit s

def isBaseDigit (base : Nat) (c : Char) : Bool :=
  (Text.hexDigit? c).any (· < base)

/-- The rest of an integer in another base. -/
def basedInteger? (base : Nat) (s : List Char) : Option (Data × List Char) := do
  let (digits, s) ← digitGroup? (isBaseDigit base) s
  let n ← Text.inBase? base digits
  if n < Text.signedBound then some (.int n, s) else none

def integer? : Reader Data
  | '0' :: 'x' :: s => basedInteger? 16 s
  | '0' :: 'o' :: s => basedInteger? 8 s
  | '0' :: 'b' :: s => basedInteger? 2 s
  | s => do
    let (negative, s) := sign s
    let (digits, s) ← wholeDigits? s
    let n := Text.digitsValue digits
    if negative then if n ≤ Text.signedBound then some (.int (-(n : Int)), s) else none
    else if n < Text.signedBound then some (.int n, s) else none

/-- The digits after a point, none if there is no point. -/
def fraction? : Reader (List Char)
  | '.' :: s => digitGroup? Text.isDigit s
  | s => some ([], s)

def exponent? : Reader (Option Int)
  | c :: s =>
    if c = 'e' || c = 'E' then do
      let (negative, s) := sign s
      let (digits, s) ← digitGroup? Text.isDigit s
      let n : Int := Text.digitsValue digits
      some (some (if negative then -n else n), s)
    else some (none, c :: s)
  | [] => some (none, [])

/-- Infinities and the absent number, after the sign. -/
def specialReal? (negative : Bool) : Reader Data
  | 'i' :: 'n' :: 'f' :: s => some (.real (.infinite negative), s)
  | 'n' :: 'a' :: 'n' :: s => some (.real .nan, s)
  | _ => none

/-- A number with a fraction or an exponent.  One too large for the format is refused, unless it
is negative. -/
def decimalReal? (negative : Bool) (s : List Char) : Option (Data × List Char) := do
  let (whole, s) ← wholeDigits? s
  let (fraction, s) ← fraction? s
  let (exponent, s) ← exponent? s
  if fraction.isEmpty && exponent.isNone then none
  let x := Binary64.ofDecimal negative (Text.digitsValue (whole ++ fraction))
    (exponent.getD 0 - fraction.length)
  if x = .infinite false then none else some (.real x, s)

def real? (s : List Char) : Option (Data × List Char) :=
  let (negative, s) := sign s
  decimalReal? negative s <|> specialReal? negative s

/-! ## Dates and times -/

/-- Exactly `n` digits whose value lies between two bounds. -/
def fixedDigits? (n low high : Nat) (s : List Char) : Option (Nat × List Char) :=
  let digits := s.take n
  if digits.length = n ∧ digits.all Text.isDigit then
    let value := Text.digitsValue digits
    if low ≤ value ∧ value ≤ high then some (value, s.drop n) else none
  else none

def exactly? (c : Char) : List Char → Option (List Char)
  | d :: s => if d = c then some s else none
  | [] => none

def isLeapYear (year : Nat) : Bool :=
  year % 4 == 0 && (year % 100 != 0 || year % 400 == 0)

def daysOf (year month : Nat) : Nat :=
  if month = 2 then if isLeapYear year then 29 else 28
  else if [4, 6, 9, 11].contains month then 30
  else 31

def date? (s : List Char) : Option (List Char) := do
  let (year, s) ← fixedDigits? 4 0 9999 s
  let s ← exactly? '-' s
  let (month, s) ← fixedDigits? 2 1 12 s
  let s ← exactly? '-' s
  let (_, s) ← fixedDigits? 2 1 (daysOf year month) s
  some s

def subsecond? : List Char → Option (List Char)
  | '.' :: s => if s.head?.any Text.isDigit then some (s.dropWhile Text.isDigit) else none
  | _ => none

def time? (s : List Char) : Option (List Char) := do
  let (_, s) ← fixedDigits? 2 0 23 s
  let s ← exactly? ':' s
  let (_, s) ← fixedDigits? 2 0 59 s
  let s ← exactly? ':' s
  let (_, s) ← fixedDigits? 2 0 60 s
  some ((subsecond? s).getD s)

def offset? : List Char → Option (List Char)
  | c :: s =>
    if c = 'Z' || c = 'z' then some s
    else if c = '+' || c = '-' then do
      let (_, s) ← fixedDigits? 2 0 23 s
      let s ← exactly? ':' s
      let (_, s) ← fixedDigits? 2 0 59 s
      some s
    else none
  | [] => none

/-- What may follow a date: a time, perhaps with an offset. -/
def timeOfDay? : List Char → Option (List Char)
  | c :: s =>
    if c = 'T' || c = 't' || c = ' ' then (time? s).map fun s => (offset? s).getD s else none
  | [] => none

def momentEnd? (s : List Char) : Option (List Char) :=
  match date? s with
  | some s => some ((timeOfDay? s).getD s)
  | none => time? s

def moment? (s : List Char) : Option (Data × List Char) :=
  (momentEnd? s).map fun rest =>
    (.moment (String.ofList (s.take (s.length - rest.length))), rest)

/-! ## All scalars -/

def scalar? : Reader Data
  | 't' :: 'r' :: 'u' :: 'e' :: s => some (.bool true, s)
  | 'f' :: 'a' :: 'l' :: 's' :: 'e' :: s => some (.bool false, s)
  | s =>
    if s.head? = some '"' || s.head? = some '\'' then
      (text? s).map fun (t, s) => (.text t, s)
    else moment? s <|> real? s <|> integer? s

end ResetCheck.Toml
