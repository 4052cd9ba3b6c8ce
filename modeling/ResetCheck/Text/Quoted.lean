import ResetCheck.Text.Numeral
import ResetCheck.Text.Quoted.Table
import ResetCheck.Text.Ranges

/-!
# Quoted texts

`quoted` puts a text between double quotes so that each character can be told: the quote, the
backslash and the common controls have two-character escapes, and every other character that
would not show is written by its code point.
-/

namespace ResetCheck.Text

/-- Whether a character is written by its code point when it is quoted. -/
def isHidden (c : Char) : Bool :=
  c.toNat < 0x20 || c.toNat == 0x7F || (0x7F < c.toNat && within hiddenRanges c)

def quotedChar : Char → List Char
  | '"' => ['\\', '"']
  | '\\' => ['\\', '\\']
  | '\t' => ['\\', 't']
  | '\n' => ['\\', 'n']
  | '\r' => ['\\', 'r']
  | c =>
    if c.toNat == 0 then ['\\', '0']
    else if isHidden c then ['\\', 'u', '{'] ++ (hexText c.toNat).toList ++ ['}']
    else [c]

def quoted (s : String) : String :=
  String.ofList ('"' :: s.toList.flatMap quotedChar ++ ['"'])

end ResetCheck.Text
