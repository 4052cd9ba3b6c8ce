/-!
# Paths

A path is a text of names with slashes between them.
-/

namespace ResetCheck.Path

def join (directory rest : String) : String :=
  if directory.isEmpty || directory.toList.getLast? = some '/' then directory ++ rest
  else directory ++ "/" ++ rest

def pieces (path : List Char) : List (List Char) :=
  path.foldr
    (fun c pieces =>
      if c = '/' then [] :: pieces
      else match pieces with
        | [] => [[c]]
        | piece :: rest => (c :: piece) :: rest)
    [[]]

/-- The names along a path.  An empty name stands wherever a slash has none beside it. -/
def names (path : String) : List String :=
  (pieces path.toList).map String.ofList

def isAbsolute (path : String) : Bool :=
  path.toList.head? = some '/'

/-- Whether a path is a mere name. -/
def isBare (path : String) : Bool :=
  !path.toList.contains '/'

/-- The number of bytes a name may have. -/
def nameLimit : Nat :=
  255

def isLongName (name : String) : Bool :=
  nameLimit < name.utf8ByteSize

/-- Paths are shorter than this number of bytes. -/
def lengthLimit : Nat :=
  4096

def isLong (path : String) : Bool :=
  lengthLimit ≤ path.utf8ByteSize

def parent (path : String) : String :=
  let upTo := path.toList.reverse.dropWhile (· ≠ '/')
  match upTo.dropWhile (· = '/') with
  | [] => if upTo.isEmpty then "" else "/"
  | rest => String.ofList rest.reverse

end ResetCheck.Path
