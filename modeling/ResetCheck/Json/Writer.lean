import ResetCheck.Data
import ResetCheck.Decimal.Shortest
import ResetCheck.Text.Numeral

/-!
# Writing JSON

`compact` writes data on one line without spaces, `pretty` one entry a line with two spaces for
each level.  Entries keep their order.
-/

namespace ResetCheck.Json

def escapedChar : Char → List Char
  | '"' => ['\\', '"']
  | '\\' => ['\\', '\\']
  | '\n' => ['\\', 'n']
  | '\r' => ['\\', 'r']
  | '\t' => ['\\', 't']
  | c =>
    if c.toNat == 0x08 then ['\\', 'b']
    else if c.toNat == 0x0C then ['\\', 'f']
    else if c.toNat < 0x20 then ['\\', 'u'] ++ (Text.padded 16 4 c.toNat).toList
    else [c]

def textLiteral (s : String) : String :=
  String.ofList ('"' :: s.toList.flatMap escapedChar ++ ['"'])

def realLiteral : Binary64 → String
  | x@(.finite ..) => x.text Binary64.compactStyle
  | _ => "null"

/-- A value that is neither a list nor a record. -/
def scalar : Data → String
  | .null => "null"
  | .bool b => if b then "true" else "false"
  | .int n => toString n
  | .real x => realLiteral x
  | .text s => textLiteral s
  | .moment s => textLiteral s
  | .list _ => "[]"
  | .record _ => "\x7b\x7d"

mutual

def compact : Data → String
  | .list items => "[" ++ compactItems items ++ "]"
  | .record entries => "\x7b" ++ compactEntries entries ++ "\x7d"
  | v => scalar v

def compactItems : List Data → String
  | [] => ""
  | [v] => compact v
  | v :: w :: rest => compact v ++ "," ++ compactItems (w :: rest)

def compactEntries : List (String × Data) → String
  | [] => ""
  | [(k, v)] => textLiteral k ++ ":" ++ compact v
  | (k, v) :: e :: rest => textLiteral k ++ ":" ++ compact v ++ "," ++ compactEntries (e :: rest)

end

/-- A new line at a level. -/
def newline (level : Nat) : String :=
  String.ofList ('\n' :: List.replicate (2 * level) ' ')

mutual

/-- Data that begins on a line of the given level. -/
def prettyAt (level : Nat) : Data → String
  | .list (v :: rest) =>
    "[" ++ prettyItems (level + 1) (v :: rest) ++ newline level ++ "]"
  | .record (e :: rest) =>
    "\x7b" ++ prettyEntries (level + 1) (e :: rest) ++ newline level ++ "\x7d"
  | v => scalar v

def prettyItems (level : Nat) : List Data → String
  | [] => ""
  | [v] => newline level ++ prettyAt level v
  | v :: w :: rest => newline level ++ prettyAt level v ++ "," ++ prettyItems level (w :: rest)

def prettyEntries (level : Nat) : List (String × Data) → String
  | [] => ""
  | [(k, v)] => newline level ++ textLiteral k ++ ": " ++ prettyAt level v
  | (k, v) :: e :: rest =>
    newline level ++ textLiteral k ++ ": " ++ prettyAt level v ++ ","
      ++ prettyEntries level (e :: rest)

end

def pretty (v : Data) : String :=
  prettyAt 0 v

end ResetCheck.Json
