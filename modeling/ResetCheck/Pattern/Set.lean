import ResetCheck.Pattern
import ResetCheck.Pattern.Escape

/-!
# Sets of characters in patterns

A set in brackets holds characters, ranges, classes and further sets, and may combine what stands
before and after `&&`, `--` or `~~`.  A hyphen or a closing bracket at the very front stands for
itself.  `set?` reads a set.  What an item asks for has to go with the options: without tables for
both cases no character has its other case, and where texts are bytes, a set may only hold bytes
that are characters by themselves.
-/

namespace ResetCheck.Pattern

namespace Options

def allowsItem (o : Options) (c : Char) : Bool :=
  if o.unicode then !o.anyCase else c.toNat < 0x80

/-- Whether a class of letters may be used by its escape.  Classes of characters would need tables;
what is not in a class of bytes is no character. -/
def allowsLetterClass (o : Options) (negated : Bool) : Bool :=
  !o.unicode && !negated

/-- Whether a class of ASCII may be used by its name. -/
def allowsAsciiClass (o : Options) (negated : Bool) : Bool :=
  if o.unicode then !o.anyCase else !negated

def allowsComplement (o : Options) : Bool :=
  o.unicode

end Options

/-- A set that is being read: the left side of an operator, if there was one, and the items since
then, last one first. -/
structure OpenSet where
  left : Option CharSet
  items : List CharSet

namespace OpenSet

def push (u : OpenSet) (part : CharSet) : OpenSet :=
  { u with items := part :: u.items }

def content (u : OpenSet) : CharSet :=
  let right := CharSet.ofParts u.items.reverse
  match u.left with
  | none => right
  | some left => .combined left right

end OpenSet

/-- Reads on after the bracket that opens a set, up to its first proper item. -/
def openSet? (o : Options) (s : List Char) : Option (OpenSet × List Char) := do
  let s := o.skip s
  let negated := s.head? = some '^'
  if negated && !o.allowsComplement then none
  let (hyphens, s) := o.span (· = '-') (if negated then o.skip (s.drop 1) else s)
  if !hyphens.isEmpty && !o.allowsItem '-' then none
  let items := hyphens.map fun _ => CharSet.item
  match s with
  | [] => none
  | ']' :: rest =>
    if !items.isEmpty then some (⟨none, items⟩, s)
    else if o.allowsItem ']' then some (⟨none, [.item]⟩, o.skip rest)
    else none
  | _ => some (⟨none, items⟩, s)

def asciiClassNames : List String :=
  ["alnum", "alpha", "ascii", "blank", "cntrl", "digit", "graph", "lower", "print", "punct",
    "space", "upper", "word", "xdigit"]

/-- Reads a class by its name, from the text after its opening bracket: whether it is negated, and
the text after it. -/
def asciiClass? : List Char → Option (Bool × List Char)
  | ':' :: s =>
    let negated := s.head? = some '^'
    let s := if negated then s.drop 1 else s
    match s.dropWhile (· ≠ ':') with
    | ':' :: ']' :: rest =>
      let name := String.ofList (s.takeWhile (· ≠ ':'))
      if asciiClassNames.contains name then some (negated, rest) else none
    | _ => none
  | _ => none

/-- A character of a set, or what an escape in it stands for. -/
def setAtom? (o : Options) : List Char → Option (Atom × List Char)
  | [] => none
  | '\\' :: s => escape? o s
  | c :: s => some (.char c false, s)

def setItem? (o : Options) : Atom → Option CharSet
  | .char c _ => if o.allowsItem c then some .item else none
  | .letterClass negated => if o.allowsLetterClass negated then some .item else none
  | _ => none

def setRange? (o : Options) : Atom → Atom → Option CharSet
  | .char a _, .char b _ => if a ≤ b && o.allowsItem a && o.allowsItem b then some .item else none
  | _, _ => none

def setPart? (o : Options) (s : List Char) : Option (CharSet × List Char) := do
  let (first, s) ← setAtom? o s
  match o.skip s with
  | [] => none
  | '-' :: rest =>
    if o.peek rest = some ']' || o.peek rest = some '-' then
      (setItem? o first).map (·, '-' :: rest)
    else do
      let (last, s) ← setAtom? o (o.skip rest)
      (setRange? o first last).map (·, s)
  | s => (setItem? o first).map (·, s)

/-- Reads on in a set; `outer` holds the sets around it, the nearest first. -/
def inSet? (o : Options) : Nat → List OpenSet → OpenSet → List Char → Option (CharSet × List Char)
  | 0, _, _, _ => none
  | fuel + 1, outer, inner, s =>
    match o.skip s with
    | [] => none
    | '[' :: rest =>
      match asciiClass? rest with
      | some (negated, rest) =>
        if o.allowsAsciiClass negated then inSet? o fuel outer (inner.push .item) rest else none
      | none => do
        let (nested, rest) ← openSet? o rest
        inSet? o fuel (inner :: outer) nested rest
    | ']' :: rest =>
      match outer with
      | [] => some (inner.content, rest)
      | parent :: outer => inSet? o fuel outer (parent.push (.bracketed inner.content)) rest
    | '&' :: '&' :: rest | '-' :: '-' :: rest | '~' :: '~' :: rest =>
      inSet? o fuel outer ⟨some inner.content, []⟩ rest
    | s => do
      let (part, rest) ← setPart? o s
      inSet? o fuel outer (inner.push part) rest

/-- Reads a set; the text begins after its opening bracket. -/
def set? (o : Options) (s : List Char) : Option (CharSet × List Char) := do
  let (inner, rest) ← openSet? o s
  inSet? o (s.length + 1) [] inner rest

end ResetCheck.Pattern
