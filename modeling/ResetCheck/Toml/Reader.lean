import ResetCheck.Toml.Document
import ResetCheck.Toml.Scalar

/-!
# Reading TOML

`read?` turns a TOML text into the record that its tables form, entries in the order of their
first mention.  Arrays and inline tables may stand in one another, and keys may have parts, up to
a fixed number of levels.
-/

namespace ResetCheck.Toml

/-- Below this many levels of nesting, and this many parts of a key, a text is read. -/
def levelLimit : Nat :=
  80

def isBareKeyChar (c : Char) : Bool :=
  Text.isDigit c || ('a' ≤ c && c ≤ 'z') || ('A' ≤ c && c ≤ 'Z') || c = '_' || c = '-'

def keyPart? (s : List Char) : Option (String × List Char) :=
  if s.head? = some '"' || s.head? = some '\'' then shortText? s
  else
    let part := s.takeWhile isBareKeyChar
    if part.isEmpty then none else some (String.ofList part, s.dropWhile isBareKeyChar)

/-- The parts of a key with the blanks around them; `acc` holds the parts read, last one first. -/
def keyParts? : Nat → List String → Reader (List String)
  | 0, _, _ => none
  | fuel + 1, acc, s => do
    let (part, s) ← keyPart? (skipBlanks s)
    match skipBlanks s with
    | '.' :: s => keyParts? fuel (part :: acc) s
    | s => some (part :: acc, s)

/-- A key, as the path to its table and its last part. -/
def key? (s : List Char) : Option ((List String × String) × List Char) := do
  let (parts, s) ← keyParts? (s.length + 1) [] s
  match parts with
  | last :: path => if parts.length < levelLimit then some ((path.reverse, last), s) else none
  | [] => none

def skipComment : List Char → List Char
  | '#' :: s => s.dropWhile isPrintable
  | s => s

/-- Skips blanks, newlines and comments that end in a newline. -/
def skipGaps : Nat → List Char → List Char
  | 0, s => s
  | fuel + 1, s =>
    match newline? (skipComment (skipBlanks s)) with
    | some s => skipGaps fuel s
    | none => skipBlanks s

def skipAllGaps (s : List Char) : List Char :=
  skipGaps (s.length + 1) s

def items? (item : Reader Data) : Nat → List Data → Reader Data
  | 0, _, _ => none
  | fuel + 1, acc, s =>
    match skipAllGaps s with
    | ']' :: s => some (.list acc.reverse, s)
    | s => do
      let (v, s) ← item s
      match skipAllGaps s with
      | ',' :: s => items? item fuel (v :: acc) s
      | ']' :: s => some (.list (v :: acc).reverse, s)
      | _ => none

def assignment? (value : Reader Data) (s : List Char) : Option (Assignment × List Char) := do
  let ((path, key), s) ← key? s
  let s ← exactly? '=' s
  let (v, s) ← value (skipBlanks s)
  some (⟨path, key, v⟩, s)

/-- The assignments of an inline table up to its closing brace. -/
def members? (value : Reader Data) : Nat → List Assignment → Reader (List Assignment)
  | 0, _, _ => none
  | fuel + 1, acc, s => do
    let (a, s) ← assignment? value s
    match skipBlanks s with
    | ',' :: s => members? value fuel (a :: acc) s
    | '}' :: s => some ((a :: acc).reverse, s)
    | _ => none

/-- A value in which arrays and inline tables stand in one another at most `levels` deep. -/
def value? : Nat → Reader Data
  | 0, s => scalar? s
  | levels + 1, s =>
    match s with
    | '[' :: s => items? (value? levels) (s.length + 1) [] s
    | '{' :: s =>
      match skipBlanks s with
      | '}' :: s => some (.record [], s)
      | s => do
        let (as, s) ← members? (value? levels) (s.length + 1) [] s
        some (← inline? as, s)
    | s => scalar? s

/-- What may follow on a line that is complete: blanks, a comment, and a newline or the end. -/
def lineEnd? (s : List Char) : Option (List Char) :=
  match skipComment (skipBlanks s) with
  | [] => some []
  | s => newline? s

def header? : Reader Header
  | '[' :: s => do
    let ((path, key), s) ← key? s
    let s ← exactly? ']' s
    let s ← exactly? ']' s
    some (.tableItem path key, s)
  | s => do
    let ((path, key), s) ← key? s
    let s ← exactly? ']' s
    some (.table path key, s)

/-- The lines of a document; `sections` holds the sections read before the current one and `as`
the assignments of the current one, each with the last one first. -/
def lines? : Nat → List Section → Header → List Assignment → List Char → Option (List Section)
  | 0, _, _, _, _ => none
  | fuel + 1, sections, header, as, s =>
    let done := ⟨header, as.reverse⟩ :: sections
    match skipBlanks s with
    | [] => some done.reverse
    | '[' :: s => do
      let (next, s) ← header? s
      lines? fuel done next [] (← lineEnd? s)
    | s =>
      match lineEnd? s with
      | some s => lines? fuel sections header as s
      | none => do
        let (a, s) ← assignment? (value? (levelLimit - 1)) s
        lines? fuel sections header (a :: as) (← lineEnd? s)

def dropMark : List Char → List Char
  | c :: s => if c.toNat = 0xFEFF then s else c :: s
  | [] => []

def read? (text : String) : Option Data := do
  let s := dropMark text.toList
  assemble? (← lines? (s.length + 1) [] .top [] s)

end ResetCheck.Toml
