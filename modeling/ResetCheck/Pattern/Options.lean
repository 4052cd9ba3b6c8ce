import ResetCheck.Text.Blank

/-!
# Options of patterns

Flags at the start of a group, or in parentheses of their own, say how the rest of a group is
read.  Three of the flags decide what is a pattern: `i`, `u` and `x`.
-/

namespace ResetCheck.Pattern

structure Options where
  /-- Flag `i`: letters stand for both their cases. -/
  anyCase : Bool
  /-- Flag `u`: texts are characters, not bytes. -/
  unicode : Bool
  /-- Flag `x`: blanks do not count, and neither do comments from a number sign to the end of the
  line. -/
  loose : Bool

namespace Options

def standard : Options :=
  ⟨false, true, false⟩

def flagLetters : List Char :=
  ['i', 'm', 's', 'U', 'u', 'R', 'x']

def put (o : Options) (flag : Char) (value : Bool) : Options :=
  match flag with
  | 'i' => { o with anyCase := value }
  | 'u' => { o with unicode := value }
  | 'x' => { o with loose := value }
  | _ => o

/-- Drops blanks and comments; `comment` tells whether the text begins inside a comment. -/
def dropLoose : Bool → List Char → List Char
  | _, [] => []
  | true, c :: s => dropLoose (c ≠ '\n') s
  | false, c :: s =>
    if c = '#' then dropLoose true s else if Text.isBlank c then dropLoose false s else c :: s

/-- Drops what does not count before the next part of a pattern. -/
def skip (o : Options) (s : List Char) : List Char :=
  if o.loose then dropLoose false s else s

/-- The characters of a class at the front of a text, without what does not count between them and
after them. -/
def spanFrom (o : Options) (p : Char → Bool) : Bool → List Char → List Char × List Char
  | _, [] => ([], [])
  | true, c :: s => o.spanFrom p (c ≠ '\n') s
  | false, c :: s =>
    if p c then
      let (taken, rest) := o.spanFrom p false s
      (c :: taken, rest)
    else if o.loose && c = '#' then o.spanFrom p true s
    else if o.loose && Text.isBlank c then o.spanFrom p false s
    else ([], c :: s)

def span (o : Options) (p : Char → Bool) (s : List Char) : List Char × List Char :=
  o.spanFrom p false s

/-- The character that decides whether a hyphen is one end of a range.  A comment that follows the
hyphen is taken to end at once. -/
def peek (o : Options) (s : List Char) : Option Char :=
  if !o.loose then s.head?
  else
    let next := s.dropWhile Text.isBlank
    let next := if next.head? = some '#' then (next.drop 1).dropWhile Text.isBlank else next
    next.head? <|> s.head?

/-- Reads flags up to the colon or parenthesis that ends them: the options they leave, whether
there are any, and the text from the end mark on.  `seen` holds the marks read so far, last one
first; a minus sign among them takes back the flags after it. -/
def flags? (o : Options) (seen : List Char) : List Char → Option (Options × Bool × List Char)
  | [] => none
  | c :: s =>
    if c = ':' || c = ')' then
      if seen.head? = some '-' then none else some (o, !seen.isEmpty, c :: s)
    else if seen.contains c then none
    else if c = '-' then o.flags? (c :: seen) s
    else if flagLetters.contains c then (o.put c (!seen.contains '-')).flags? (c :: seen) s
    else none

end Options

end ResetCheck.Pattern
