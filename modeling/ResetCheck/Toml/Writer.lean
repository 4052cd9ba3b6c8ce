import ResetCheck.Data
import ResetCheck.Decimal.Shortest
import ResetCheck.Text.Numeral
import ResetCheck.Toml.Reader

/-!
# Writing TOML

Documents are written with one section for each table, arrays of more than one item with one item
a line, and texts in the plainest quotes that can hold them.  Values that are null are left out.
Integers beyond 63 bits cannot be written.
-/

namespace ResetCheck.Toml

/-! ## Texts -/

/-- Whether a character shows only as an escape in every kind of quotes. -/
def needsEscape (c : Char) : Bool :=
  (c.toNat < 0x20 && c != '\t' && c != '\n') || c.toNat == 0x7F

def longestRun (c : Char) (s : List Char) : Nat :=
  (s.foldl
    (fun (best, run) d => if d = c then (max best (run + 1), run + 1) else (best, 0))
    (0, 0)).1

inductive Quoting
  | basic
  | literal
  | longBasic
  | longLiteral
deriving DecidableEq

/-- The plainest quotes that can hold a text, with escapes only if nothing else works. -/
def quoting (s : List Char) : Quoting :=
  let escapes := s.any needsEscape
  let backslash := s.contains '\\'
  let newline := s.contains '\n'
  if !escapes && !backslash && !newline && !s.contains '"' then .basic
  else if !escapes && !newline && !s.contains '\'' then .literal
  else if !escapes && !backslash && longestRun '"' s ≤ 2 then .longBasic
  else if !escapes && longestRun '\'' s ≤ 2 then .longLiteral
  else if newline then .longBasic
  else .basic

/-- An escape, of two characters where there is one and by the code point otherwise. -/
def escape (c : Char) : List Char :=
  if c.toNat == 0x08 then ['\\', 'b']
  else if c = '\t' then ['\\', 't']
  else if c = '\n' then ['\\', 'n']
  else if c.toNat == 0x0C then ['\\', 'f']
  else if c = '\r' then ['\\', 'r']
  else if c = '"' then ['\\', '"']
  else if c = '\\' then ['\\', '\\']
  else ['\\', 'u'] ++ ((Text.padded 16 4 c.toNat).toList.map Char.toUpper)

/-- Whether a character of a basic text is always escaped. -/
def isEscaped (c : Char) : Bool :=
  c = '\\' || c = '\t' || needsEscape c

def basicBody (s : List Char) : List Char :=
  s.flatMap fun c => if isEscaped c || c = '"' || c = '\n' then escape c else [c]

/-- A text between three double quotes; `run` counts the quotes right before it.  The third quote
in a row is escaped. -/
def longBasicBody : Nat → List Char → List Char
  | _, [] => []
  | run, c :: s =>
    if c = '"' then
      if run < 2 then '"' :: longBasicBody (run + 1) s else escape '"' ++ longBasicBody 0 s
    else if isEscaped c then escape c ++ longBasicBody 0 s
    else c :: longBasicBody 0 s

/-- Three quotes on either side, and a newline after the first ones if the text has any. -/
def longQuotes (quote : Char) (s body : List Char) : List Char :=
  List.replicate 3 quote ++ (if s.contains '\n' then ['\n'] else []) ++ body
    ++ List.replicate 3 quote

def textLiteral (s : List Char) : List Char :=
  match quoting s with
  | .basic => '"' :: basicBody s ++ ['"']
  | .literal => '\'' :: s ++ ['\'']
  | .longBasic => longQuotes '"' s (longBasicBody 0 s)
  | .longLiteral => longQuotes '\'' s s

/-! ## Values and documents -/

inductive WriteFault
  | outOfRange (n : Int)
deriving DecidableEq

def WriteFault.message : WriteFault → String
  | outOfRange _ => "out-of-range value for `u64` type"

def integerText (n : Int) : Except WriteFault (List Char) :=
  if n < Text.signedBound then .ok (toString n).toList else .error (.outOfRange n)

def boolText (b : Bool) : List Char :=
  (if b then "true" else "false").toList

/-- The items of an array, one a line if there are several. -/
def arrayText : List (List Char) → List Char
  | [] => ['[', ']']
  | [item] => '[' :: item ++ [']']
  | items =>
    ['[', '\n'] ++ items.flatMap (fun item => List.replicate 4 ' ' ++ item ++ [',', '\n']) ++ [']']

mutual

def valueText : Data → Except WriteFault (List Char)
  | .int n => integerText n
  | .text s => .ok (textLiteral s.toList)
  | .bool b => .ok (boolText b)
  | .real x => .ok (x.text Binary64.plainStyle).toList
  | .moment s => .ok s.toList
  | .list items => (itemTexts items).map arrayText
  | .null => .ok []
  | .record _ => .ok ['{', '}']

def itemTexts : List Data → Except WriteFault (List (List Char))
  | [] => .ok []
  | v :: rest => do
    let text ← valueText v
    return text :: (← itemTexts rest)

end

def keyText (key : String) : List Char :=
  if !key.isEmpty && key.toList.all isBareKeyChar then key.toList else textLiteral key.toList

/-- An assignment, for entries that are neither tables nor null. -/
def assignmentText : String × Data → Except WriteFault (List Char)
  | (_, .record _) => .ok []
  | (_, .null) => .ok []
  | (key, v) => (valueText v).map fun text => keyText key ++ [' ', '=', ' '] ++ text ++ ['\n']

def headerText (path : List String) : List Char :=
  '[' :: List.intercalate ['.'] (path.map keyText) ++ [']', '\n']

/-- Whether an entry is written in the section of its table. -/
def isAssignment : Data → Bool
  | .record _ => false
  | .null => false
  | _ => true

/-- The section of a table's own entries.  A table has one if it has entries to assign, or no
entries at all. -/
def sectionText? (path : List String) (entries : List (String × Data)) :
    Except WriteFault (Option (List Char)) := do
  let body := (← entries.mapM assignmentText).flatten
  if entries.any (isAssignment ·.2) || entries.all (·.2 matches .null) then
    return some (headerText path ++ body)
  else return none

mutual

def tableSections (path : List String) : Data → Except WriteFault (List (List Char))
  | .record entries => do
    let own ← sectionText? path entries
    return own.toList ++ (← entrySections path entries)
  | _ => .ok []

def entrySections (path : List String) : List (String × Data) →
    Except WriteFault (List (List Char))
  | [] => .ok []
  | (key, v) :: rest => do
    return (← tableSections (path ++ [key]) v) ++ (← entrySections path rest)

end

def write (entries : List (String × Data)) : Except WriteFault String :=
  (entrySections [] entries).map fun sections =>
    String.ofList (List.intercalate ['\n'] sections)

end ResetCheck.Toml
