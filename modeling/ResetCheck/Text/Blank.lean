import ResetCheck.Text.Ranges

/-!
# Blank space, lines and fields

Blank characters are those with the property White_Space.  `trim` removes them from both ends,
`fields` splits at runs of them, and `lines` splits at newlines, a carriage return before the
newline going with it.
-/

namespace ResetCheck.Text

/-- The property White_Space. -/
def blankRanges : List (Nat × Nat) :=
  [(0x9, 0xD), (0x20, 0x20), (0x85, 0x85), (0xA0, 0xA0), (0x1680, 0x1680), (0x2000, 0x200A),
   (0x2028, 0x2029), (0x202F, 0x202F), (0x205F, 0x205F), (0x3000, 0x3000)]

def isBlank (c : Char) : Bool :=
  within blankRanges c

def trimStart (s : List Char) : List Char :=
  s.dropWhile isBlank

def trimEnd (s : List Char) : List Char :=
  (s.reverse.dropWhile isBlank).reverse

def trimChars (s : List Char) : List Char :=
  trimEnd (trimStart s)

def trim (s : String) : String :=
  String.ofList (trimChars s.toList)

/-- Splits at every character of a class and drops the empty pieces. -/
def piecesOf (sep : Char → Bool) (s : List Char) : List (List Char) :=
  let (piece, pieces) := s.foldr
    (fun c (piece, pieces) =>
      if sep c then ([], if piece.isEmpty then pieces else piece :: pieces)
      else (c :: piece, pieces))
    ([], [])
  if piece.isEmpty then pieces else piece :: pieces

/-- The pieces of a text between runs of blanks. -/
def fields (s : List Char) : List (List Char) :=
  piecesOf isBlank s

def splitNewlines (s : List Char) : List (List Char) :=
  s.foldr
    (fun c pieces =>
      if c = '\n' then [] :: pieces
      else match pieces with
        | [] => [[c]]
        | piece :: rest => (c :: piece) :: rest)
    [[]]

/-- Removes one carriage return from the end of a line. -/
def dropReturn (line : List Char) : List Char :=
  if line.getLast? = some '\r' then line.dropLast else line

/-- The lines of a text.  A text that ends in a newline has no empty last line. -/
def lines (s : List Char) : List (List Char) :=
  let pieces := splitNewlines s
  match pieces.getLast? with
  | some [] => pieces.dropLast.map dropReturn
  | _ => pieces.dropLast.map dropReturn ++ pieces.getLast?.toList

end ResetCheck.Text
