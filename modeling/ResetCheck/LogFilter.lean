import ResetCheck.Pattern.Reader
import ResetCheck.Text.Blank
import ResetCheck.Text.Letters
import ResetCheck.Text.Numeral
import ResetCheck.Text.Slice

/-!
# Log filters

A log filter is a list of directives with commas between them.  A directive is a level, or a
target with a level after an equals sign, and the target may end in a span in square brackets
that may hold a field in braces.  A field is a name, or a name and a value with an equals sign
between them.  `fault?` tells what is wrong with a filter, if anything is.
-/

namespace ResetCheck.LogFilter

inductive Fault
  /-- A directive is not built as directives are. -/
  | directive
  /-- What stands for a level is none. -/
  | level
  /-- The value of a field cannot be used as a pattern. -/
  | field (fault : Pattern.Fault)
deriving DecidableEq, Repr

def levelNames : List String :=
  ["off", "error", "warn", "info", "debug", "trace"]

def Fault.message : Fault → String
  | directive => "invalid filter directive"
  | level =>
    "error parsing level filter: expected one of "
      ++ ", ".intercalate (levelNames.map fun name => "\"" ++ name ++ "\"")
      ++ ", or a number 0-5"
  | field fault => s!"invalid field filter: {fault.message}"

/-- Whether a text is the name or the number of a level; the case of letters does not matter. -/
def isLevel (s : List Char) : Bool :=
  levelNames.any (fun name => name.toList = s.map Char.toLower)
    || (Text.unsigned? 6 s).isSome

def opensTarget (c : Char) : Bool :=
  c = '-' || c = ':' || c = '_' || Text.isAlphanumeric c

/-- What a field is compared with: what stands between its first two equals signs. -/
def fieldValue? (field : List Char) : Option (List Char) :=
  match field.dropWhile (· ≠ '=') with
  | [] => none
  | _ :: rest => some (rest.takeWhile (· ≠ '='))

/-- What is wrong with a field.  A value that is no number is a pattern. -/
def fieldFault? (field : List Char) : Option Fault := do
  let value ← fieldValue? field
  if Text.isReal value then none else (Pattern.fault? value).map .field

/-- What a directive has for a level, if it names one, or the fault in how it is built. -/
abbrev LevelText := Except Fault (Option (List Char))

def afterSpan : List Char → LevelText
  | [] => .ok none
  | '=' :: level => .ok (some level)
  | _ => .error .directive

def afterField : List Char → LevelText
  | ']' :: rest => afterSpan rest
  | _ => .error .directive

/-- A directive as it is written, with the blanks around it. -/
structure Directive where
  written : List Char

namespace Directive

def bare (d : Directive) : List Char :=
  Text.trimChars d.written

/-- The place in the bare directive where its rest begins. -/
def place (d : Directive) (rest : List Char) : Nat :=
  Text.size d.bare - Text.size rest

/-- Reads on within a field that begins at a place of the bare directive.  The field is looked up
between the same places of what is written, where the blanks in front count as well. -/
def inField (d : Directive) (start : Nat) : List Char → LevelText
  | [] => .error .directive
  | '\x7d' :: rest =>
    let stop := d.place ('\x7d' :: rest)
    if start = stop then .error .directive
    else match fieldFault? (Text.slice start stop d.written) with
      | some e => .error e
      | none => afterField rest
  | _ :: rest => d.inField start rest

def inSpan (d : Directive) : List Char → LevelText
  | [] => .error .directive
  | ']' :: rest => afterSpan rest
  | '\x7b' :: rest => d.inField (d.place rest) rest
  | _ :: rest => d.inSpan rest

/-- Reads on within a target, or a level that stands alone. -/
def inTarget (d : Directive) : List Char → LevelText
  | [] => .ok none
  | '=' :: level => .ok (some level)
  | '[' :: rest => d.inSpan rest
  | _ :: rest => d.inTarget rest

def levelText (d : Directive) : LevelText :=
  match d.bare with
  | [] => .error .directive
  | '[' :: rest => d.inSpan rest
  | c :: rest => if opensTarget c then d.inTarget (c :: rest) else .error .directive

/-- What is wrong with a directive.  One that names a level may not have blanks at its ends; with
nothing after the equals sign, it names all levels. -/
def fault? (d : Directive) : Option Fault :=
  match d.levelText with
  | .error e => some e
  | .ok none => none
  | .ok (some level) =>
    if d.bare = d.written ∧ (level = [] ∨ isLevel level) then none else some .level

end Directive

/-- What is wrong with a filter: the fault of its first directive that has one. -/
def fault? (filter : String) : Option Fault :=
  (Text.piecesOf (· = ',') filter.toList).findSome? fun s => (⟨s⟩ : Directive).fault?

end ResetCheck.LogFilter
