import ResetCheck.Data
import ResetCheck.Decimal.Shortest
import ResetCheck.Text.Quoted

/-!
# Shapes of data

Reading a value of a certain shape out of data.  A record's fields may come by name or, in a
list, by place; entries nobody asks for are ignored.  By name, the first entry that does not fit
decides the fault, and only if all fit, the first field that is missing.
-/

namespace ResetCheck

inductive Dialect
  | json
  | toml
deriving DecidableEq

inductive ShapeFault
  | mistyped (found : Data) (wanted : String)
  | outOfRange (found : Data) (wanted : String)
  | wrongLength (found : Nat) (wanted : String)
  | missingField (name : String)
  | unknownField (name : String) (known : List String)
  | unknownChoice (name : String) (known : List String)
  /-- A choice was a record of no or several entries. -/
  | notSingle (entries : Nat)
  | notChoice (found : Data)
  /-- A choice that takes no data came with some. -/
  | surplusData (found : Data)
  | described (text : String)

namespace ShapeFault

def ticked (s : String) : String :=
  "`" ++ s ++ "`"

/-- What was found, in the words of a message. -/
def describe (dialect : Dialect) : Data → String
  | .null => "null"
  | .bool b => "boolean " ++ ticked (if b then "true" else "false")
  | .int n => "integer " ++ ticked (toString n)
  | .real x =>
    let style := match dialect with
      | .json => Binary64.compactStyle
      | .toml => Binary64.plainStyle
    "floating point " ++ ticked (x.text style)
  | .text s => "string " ++ Text.quoted s
  | .moment _ => "map"
  | .list _ => "sequence"
  | .record _ => "map"

def typeName : Data → String
  | .null => "null"
  | .bool _ => "boolean"
  | .int _ => "integer"
  | .real _ => "float"
  | .text _ => "string"
  | .moment _ => "datetime"
  | .list _ => "array"
  | .record _ => "table"

def alternatives : List String → String
  | [] => "there are no variants"
  | [a] => "expected " ++ ticked a
  | [a, b] => "expected " ++ ticked a ++ " or " ++ ticked b
  | names => "expected one of " ++ ", ".intercalate (names.map ticked)

def message (dialect : Dialect) : ShapeFault → String
  | mistyped found wanted => s!"invalid type: {describe dialect found}, expected {wanted}"
  | outOfRange found wanted => s!"invalid value: {describe dialect found}, expected {wanted}"
  | wrongLength found wanted => s!"invalid length {found}, expected {wanted}"
  | missingField name => "missing field " ++ ticked name
  | unknownField name known => "unknown field " ++ ticked name ++ ", " ++ alternatives known
  | unknownChoice name known => "unknown variant " ++ ticked name ++ ", " ++ alternatives known
  | notSingle entries =>
    match dialect with
    | .json => "invalid value: map, expected map with a single key"
    | .toml =>
      "wanted exactly 1 element, "
        ++ if entries = 0 then "found 0 elements" else "more than 1 element"
  | notChoice found =>
    match dialect with
    | .json => s!"invalid type: {describe dialect found}, expected string or map"
    | .toml => "wanted string or table"
  | surplusData found =>
    match dialect, found with
    | .json, _ => s!"invalid type: {describe dialect found}, expected unit"
    | .toml, .record _ => "expected empty table"
    | .toml, .list _ => "expected empty array"
    | .toml, _ => s!"expected table, found {typeName found}"
  | described text => text

end ShapeFault

/-- A reader of values of one shape. -/
abbrev Shape (α : Type) := Data → Except ShapeFault α

namespace Shape

def text : Shape String
  | .text s => .ok s
  | v => .error (.mistyped v "a string")

/-- A whole number from zero up to but not including `bound`. -/
def natural (bound : Nat) (wanted : String) : Shape Nat
  | .int n =>
    if 0 ≤ n ∧ n < bound then .ok n.toNat else .error (.outOfRange (.int n) wanted)
  | v => .error (.mistyped v wanted)

def word64 : Shape UInt64 :=
  fun v => (natural UInt64.size "u64" v).map UInt64.ofNat

def word32 : Shape UInt32 :=
  fun v => (natural UInt32.size "u32" v).map UInt32.ofNat

/-- A value that may be null. -/
def optional (shape : Shape α) : Shape (Option α)
  | .null => .ok none
  | v => (shape v).map some

def list (shape : Shape α) : Shape (List α)
  | .list items => items.mapM shape
  | v => .error (.mistyped v "a sequence")

/-- Whether the data that comes with a choice is as good as none. -/
def isVoid : Dialect → Data → Bool
  | .json, .null => true
  | .toml, .record [] => true
  | .toml, .list [] => true
  | _, _ => false

/-- One of several names, standing alone or as the only key of a record. -/
def choice (dialect : Dialect) (names : List (String × α)) : Shape α :=
  let named := fun name => match names.lookup name with
    | some a => Except.ok a
    | none => .error (ShapeFault.unknownChoice name (names.map (·.1)))
  fun
  | .text name => named name
  | .record [(name, v)] => do
    let a ← named name
    if isVoid dialect v then return a else throw (.surplusData v)
  | .record entries => .error (.notSingle entries.length)
  | v => .error (.notChoice v)

/-- A field of a record.  A field with a default may be missing. -/
structure Field (α : Type) where
  name : String
  shape : Shape α
  default : Option α

/-- Where the fields of a record come from. -/
inductive Source
  | byName (entries : List (String × Data))
  | byPlace (items : List Data)

/-- Whether a field's entry fits, whatever its value. -/
structure FieldCheck where
  name : String
  check : Data → Except ShapeFault Unit

def Field.toCheck (field : Field α) : FieldCheck :=
  ⟨field.name, fun v => (field.shape v).map fun _ => ()⟩

/-- The first fault among the entries of a record. -/
def checkEntries (checks : List FieldCheck) : List (String × Data) → Except ShapeFault Unit
  | [] => .ok ()
  | (key, v) :: rest =>
    match checks.find? (·.name == key) with
    | some c => match c.check v with
      | .ok () => checkEntries checks rest
      | .error e => .error e
    | none => checkEntries checks rest

/-- The value of the field that stands at `place`, of a record with the given name for messages. -/
def Field.read (field : Field α) (place : Nat) (expected : String) :
    Source → Except ShapeFault α
  | .byName entries =>
    match Data.find? field.name entries with
    | some v => field.shape v
    | none => match field.default with
      | some a => .ok a
      | none => .error (.missingField field.name)
  | .byPlace items =>
    match items[place]? with
    | some v => field.shape v
    | none => match field.default with
      | some a => .ok a
      | none => .error (.wrongLength place expected)

/-- The name of a record in messages about its length. -/
def withElements (name : String) (n : Nat) : String :=
  s!"{name} with {n} element" ++ if n = 1 then "" else "s"

/-- A record with the given name and fields.  A date counts as a record without known entries. -/
def record (dialect : Dialect) (name : String) (checks : List FieldCheck)
    (build : String → Source → Except ShapeFault α) : Shape α
  | .record entries => do
    checkEntries checks entries
    build name (.byName entries)
  | .list items => do
    let a ← build (withElements name checks.length) (.byPlace items)
    if dialect = .json ∧ checks.length < items.length then
      throw (.wrongLength items.length "fewer elements in array")
    return a
  | .moment _ => build name (.byName [])
  | v => .error (.mistyped v name)

end Shape

end ResetCheck
