import ResetCheck.Decimal.Binary64

/-!
# Data

The values that stored documents are made of.  A record keeps the order of its entries; each key
stands once.
-/

namespace ResetCheck

inductive Data
  | null
  | bool (b : Bool)
  | int (n : Int)
  | real (x : Binary64)
  | text (s : String)
  /-- A date, a time of day or both, as it was written. -/
  | moment (s : String)
  | list (items : List Data)
  | record (entries : List (String × Data))
deriving Inhabited

namespace Data

def find? (key : String) (entries : List (String × Data)) : Option Data :=
  (entries.find? (·.1 == key)).map (·.2)

def get? (key : String) : Data → Option Data
  | record entries => find? key entries
  | _ => none

/-- Puts an entry into entries that are sorted by their keys, in place of one with the same key. -/
def insertSorted (key : String) (value : Data) : List (String × Data) → List (String × Data)
  | [] => [(key, value)]
  | (k, v) :: rest =>
    if key = k then (key, value) :: rest
    else if key < k then (key, value) :: (k, v) :: rest
    else (k, v) :: insertSorted key value rest

/-- A value that may be left unset. -/
def ofOption (encode : α → Data) : Option α → Data
  | some a => encode a
  | none => null

end Data

end ResetCheck
