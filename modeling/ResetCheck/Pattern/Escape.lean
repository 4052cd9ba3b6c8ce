import ResetCheck.Pattern.Options
import ResetCheck.Text.Numeral

/-!
# Escapes in patterns

A backslash takes the meaning from a mark, or gives one to a letter.  `escape?` reads what follows
it.  Classes by property are refused, as there are none.
-/

namespace ResetCheck.Pattern

/-- The least parts of a pattern. -/
inductive Atom
  /-- A character; `byte` if it is written by two digits of base sixteen. -/
  | char (value : Char) (byte : Bool)
  | anyChar
  /-- Digits, blanks or letters of words, or all characters but those. -/
  | letterClass (negated : Bool)
  /-- A place in the text. -/
  | place
  /-- A place at the boundary of a word, or away from it. -/
  | wordBoundary

/-- Whether a character stands for itself after a backslash, as marks and blanks of ASCII do.  Angle
brackets do not: they name boundaries of words. -/
def standsForItself (c : Char) : Bool :=
  c.toNat < 0x80 && !c.isAlphanum && c ≠ '<' && c ≠ '>'

def isHexDigit (c : Char) : Bool :=
  (Text.hexDigit? c).isSome

def charOf? (digits : List Char) : Option Char := do
  let n ← Text.inBase? 16 digits
  if n.isValidChar then some (Char.ofNat n) else none

def hexDigits? (o : Options) : Nat → List Char → Option (List Char × List Char)
  | 0, s => some ([], s)
  | n + 1, c :: s =>
    if isHexDigit c then (hexDigits? o n (o.skip s)).map fun (digits, s) => (c :: digits, s)
    else none
  | _ + 1, [] => none

/-- A character by its code point: digits in braces, or so many digits as the letter before them
asks for. -/
def charByCode? (o : Options) (width : Nat) (s : List Char) : Option (Atom × List Char) :=
  match o.skip s with
  | '\x7b' :: s =>
    match o.span isHexDigit (o.skip s) with
    | (digits, '\x7d' :: s) =>
      if digits.isEmpty then none else (charOf? digits).map fun c => (.char c false, o.skip s)
    | _ => none
  | s => do
    let (digits, s) ← hexDigits? o width s
    let c ← charOf? digits
    some (.char c (width == 2), s)

def boundaryNames : List String :=
  ["start", "end", "start-half", "end-half"]

def isBoundaryLetter (c : Char) : Bool :=
  c.isAlpha || c = '-'

/-- Reads the name of a kind and the closing brace. -/
def boundaryName? (o : Options) (s : List Char) : Option (List Char) :=
  match o.span isBoundaryLetter s with
  | (name, '\x7d' :: s) => if boundaryNames.contains (String.ofList name) then some s else none
  | _ => none

/-- Reads on after the letter of a word boundary.  Braces hold the name of a kind if they begin
with a letter or hyphen, and are left to be read as a repetition otherwise. -/
def boundary? (o : Options) : List Char → Option (List Char)
  | '\x7b' :: s =>
    match o.skip s with
    | [] => none
    | c :: rest =>
      if isBoundaryLetter c then boundaryName? o (c :: rest) else some ('\x7b' :: s)
  | s => some s

/-- What an escape stands for; the text begins after the backslash. -/
def escape? (o : Options) : List Char → Option (Atom × List Char)
  | [] => none
  | c :: s =>
    if standsForItself c then some (.char c false, s)
    else match c with
      | 'x' => charByCode? o 2 s
      | 'u' => charByCode? o 4 s
      | 'U' => charByCode? o 8 s
      | 'd' | 's' | 'w' => some (.letterClass false, s)
      | 'D' | 'S' | 'W' => some (.letterClass true, s)
      | 'a' => some (.char (Char.ofNat 0x07) false, s)
      | 'f' => some (.char (Char.ofNat 0x0C) false, s)
      | 't' => some (.char '\t' false, s)
      | 'n' => some (.char '\n' false, s)
      | 'r' => some (.char '\r' false, s)
      | 'v' => some (.char (Char.ofNat 0x0B) false, s)
      | 'A' | 'z' => some (.place, s)
      | 'b' => (boundary? o s).map (.wordBoundary, ·)
      | 'B' | '<' | '>' => some (.wordBoundary, s)
      | _ => none

end ResetCheck.Pattern
