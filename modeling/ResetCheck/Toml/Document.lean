import ResetCheck.Data

/-!
# TOML documents

A document is a list of sections, each with its header and its assignments.  Putting the sections
together gives the tables: a header opens a table below the one that the document is, a header
in double brackets adds a table to a list of tables, and a dotted key goes through tables of its
own.  A table that was only passed through on the way to another may still be opened once;
everything else may be defined only once.
-/

namespace ResetCheck.Toml

/-- An assignment to a key in the table that `path` leads to. -/
structure Assignment where
  path : List String
  key : String
  value : Data

inductive Header
  /-- What stands before the first header. -/
  | top
  | table (path : List String) (key : String)
  | tableItem (path : List String) (key : String)

structure Section where
  header : Header
  assignments : List Assignment

inductive Origin
  /-- By a header of its own. -/
  | opened
  /-- On the way of a header to another table. -/
  | passed
  /-- On the way of a dotted key. -/
  | dotted
deriving DecidableEq

/-- What a key stands for while a document is put together. -/
inductive Node
  | leaf (value : Data)
  | table (origin : Origin) (entries : List (String × Node))
  /-- A list of tables, of which only the last one can still grow. -/
  | tables (earlier : List (List (String × Node))) (last : List (String × Node))

abbrev Entries := List (String × Node)

mutual

def Node.toData : Node → Data
  | .leaf value => value
  | .table _ entries => .record (entriesData entries)
  | .tables earlier last => .list (tablesData earlier ++ [.record (entriesData last)])

def entriesData : List (String × Node) → List (String × Data)
  | [] => []
  | (key, node) :: rest => (key, node.toData) :: entriesData rest

def tablesData : List (List (String × Node)) → List Data
  | [] => []
  | entries :: rest => .record (entriesData entries) :: tablesData rest

end

namespace Entries

def find? (key : String) (es : Entries) : Option Node :=
  es.lookup key

def replace (key : String) (node : Node) (es : Entries) : Entries :=
  es.map fun (k, n) => if k = key then (k, node) else (k, n)

def erase (key : String) (es : Entries) : Entries :=
  es.filter (·.1 != key)

/-- Changes the table that a path leads to.  Tables that are missing on the way come to be with
the origin `way`.  A dotted key does not go through tables that were opened. -/
def descend (way : Origin) (change : Origin → Entries → Option Entries) :
    List String → Origin → Entries → Option Entries
  | [], origin, es => change origin es
  | key :: path, _, es =>
    match es.find? key with
    | none => (descend way change path way []).map fun sub => es ++ [(key, .table way sub)]
    | some (.leaf _) => none
    | some (.tables earlier last) =>
      (descend way change path .opened last).map fun sub => es.replace key (.tables earlier sub)
    | some (.table origin sub) =>
      if way = .dotted ∧ origin = .opened then none
      else (descend way change path origin sub).map fun sub =>
        es.replace key (.table origin sub)

/-- Adds an assignment to a table.  A dotted key may only end in a table of dotted keys. -/
def assign (es : Entries) (a : Assignment) : Option Entries :=
  descend .dotted
    (fun origin sub =>
      if (origin = .dotted ↔ a.path = []) ∨ (sub.find? a.key).isSome then none
      else some (sub ++ [(a.key, .leaf a.value)]))
    a.path .opened es

def assignAll (es : Entries) (as : List Assignment) : Option Entries :=
  as.foldlM assign es

/-- Opens the table under a key and fills it.  A table that was passed on the way keeps what it
holds and moves to the end. -/
def openTable (key : String) (as : List Assignment) (es : Entries) : Option Entries :=
  let start := match es.find? key with
    | none => some []
    | some (.table .passed sub) => some sub
    | some _ => none
  do
    let sub ← assignAll (← start) as
    some (es.erase key ++ [(key, .table .opened sub)])

/-- Adds a table to the list of tables under a key and fills it. -/
def addTable (key : String) (as : List Assignment) (es : Entries) : Option Entries :=
  match es.find? key with
  | none => (assignAll [] as).map fun sub => es ++ [(key, .tables [] sub)]
  | some (.tables earlier last) =>
    (assignAll [] as).map fun sub => es.replace key (.tables (earlier ++ [last]) sub)
  | some _ => none

def addSection (es : Entries) (s : Section) : Option Entries :=
  match s.header with
  | .top => assignAll es s.assignments
  | .table path key => descend .passed (fun _ => openTable key s.assignments) path .opened es
  | .tableItem path key => descend .passed (fun _ => addTable key s.assignments) path .opened es

end Entries

/-- The data of a document, unless something in it is defined twice. -/
def assemble? (sections : List Section) : Option Data :=
  (sections.foldlM Entries.addSection []).map fun es => .record (entriesData es)

/-- The data of an inline table. -/
def inline? (as : List Assignment) : Option Data :=
  (Entries.assignAll [] as).map fun es => .record (entriesData es)

end ResetCheck.Toml
