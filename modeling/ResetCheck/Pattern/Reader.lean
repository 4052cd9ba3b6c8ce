import ResetCheck.Pattern.Set
import ResetCheck.Text.Letters

/-!
# Reading patterns

`read?` reads a pattern from left to right.  Groups that are open stand on a stack, each with the
options to return to.  `fault?` tells why a text cannot be used as a pattern.
-/

namespace ResetCheck.Pattern

/-- A group that is being read: the finished branches of its choice and the parts of the branch
that is not finished, the last one first in both. -/
structure OpenGroup where
  branches : List Pattern
  parts : List Pattern

namespace OpenGroup

def push (g : OpenGroup) (part : Pattern) : OpenGroup :=
  { g with parts := part :: g.parts }

def branch (g : OpenGroup) : Pattern :=
  ofParts g.parts.reverse

def another (g : OpenGroup) : OpenGroup :=
  ⟨g.branch :: g.branches, []⟩

def content (g : OpenGroup) : Pattern :=
  match g.branches with
  | [] => g.branch
  | branches => .choice (g.branch :: branches).reverse

end OpenGroup

/-- A pattern that has been read in part. -/
structure Progress where
  options : Options
  /-- The names that groups have. -/
  names : List (List Char)
  inner : OpenGroup
  /-- The groups around, the nearest first, with the options in force after the group in them. -/
  outer : List (Options × OpenGroup)

namespace Progress

def start : Progress :=
  ⟨.standard, [], ⟨[], []⟩, []⟩

def push (p : Progress) (part : Pattern) : Progress :=
  { p with inner := p.inner.push part }

def openGroup (p : Progress) (o : Options) : Progress :=
  { p with options := o, inner := ⟨[], []⟩, outer := (p.options, p.inner) :: p.outer }

def closeGroup? (p : Progress) : Option Progress :=
  match p.outer with
  | [] => none
  | (o, parent) :: outer =>
    some { p with options := o, inner := parent.push (.group p.inner.content), outer }

def repeat? (p : Progress) (never : Bool) : Option Progress :=
  match p.inner.parts with
  | [] => none
  | part :: parts =>
    if part.isRepeatable then
      some { p with inner := { p.inner with parts := .repeated part never :: parts } }
    else none

end Progress

/-- Whether a character may stand in the name of a group. -/
def isNameChar (first : Bool) (c : Char) : Bool :=
  if first then c = '_' || Text.isAlphabetic c
  else c = '_' || c = '.' || c = '[' || c = ']' || Text.isAlphanumeric c

def groupName? (s : List Char) : Option (List Char × List Char) :=
  let name := s.takeWhile (· ≠ '>')
  match name, s.dropWhile (· ≠ '>') with
  | c :: rest, _ :: s =>
    if isNameChar true c && rest.all (isNameChar false) then some (name, s) else none
  | _, _ => none

/-- Opens a group with a name that no other group has. -/
def namedGroup? (p : Progress) (s : List Char) : Option (Progress × List Char) := do
  let (name, s) ← groupName? s
  if p.names.contains name then none
  else some ({ p.openGroup p.options with names := name :: p.names }, s)

/-- Reads on after an opening parenthesis.  A group cannot ask for what stands before or after
it. -/
def groupStart? (p : Progress) (s : List Char) : Option (Progress × List Char) :=
  match p.options.skip s with
  | '?' :: '=' :: _ | '?' :: '!' :: _ | '?' :: '<' :: '=' :: _ | '?' :: '<' :: '!' :: _ => none
  | '?' :: 'P' :: '<' :: s => namedGroup? p s
  | '?' :: '<' :: s => namedGroup? p s
  | '?' :: s =>
    match p.options.flags? [] s with
    | some (o, _, ':' :: s) => some (p.openGroup o, s)
    | some (o, true, _ :: s) => some ({ p with options := o }.push .options, s)
    | _ => none
  | s => some (p.openGroup p.options, s)

/-- A number of times, with blanks around it. -/
def times? (o : Options) (s : List Char) : Option (Nat × List Char) :=
  let (digits, s) := o.span Text.isDigit (Text.trimStart s)
  ((Text.natural? digits).filter (· < UInt32.size)).map (·, Text.trimStart s)

/-- Reads how often a part is repeated, from the text after the opening brace: whether the number
can only be zero. -/
def counts? (o : Options) (s : List Char) : Option (Bool × List Char) := do
  let (least, s) ← times? o (o.skip s)
  match s with
  | '\x7d' :: s => some (least == 0, s)
  | ',' :: s =>
    match o.skip s with
    | '\x7d' :: s => some (false, s)
    | s =>
      let (most, s) ← times? o s
      match s with
      | '\x7d' :: s => if least ≤ most then some (most == 0, s) else none
      | _ => none
  | _ => none

/-- Drops the mark that makes a repetition stop as early as it can. -/
def dropLazy : List Char → List Char
  | '?' :: s => s
  | s => s

/-- A part of a pattern under some options. -/
def Atom.pattern? (o : Options) : Atom → Option Pattern
  | .char c byte =>
    if o.unicode then if o.anyCase then none else some .single
    else if byte && 0x80 ≤ c.toNat then none else some .single
  | .anyChar => if o.unicode then some .single else none
  | .letterClass negated => if o.allowsLetterClass negated then some .single else none
  | .place => some .single
  | .wordBoundary => some (if o.unicode then .wordBoundary else .single)

/-- Reads a part that has no parts of its own. -/
def atom? (o : Options) : List Char → Option (Atom × List Char)
  | [] => none
  | '\\' :: s => escape? o s
  | '.' :: s => some (.anyChar, s)
  | '^' :: s => some (.place, s)
  | '$' :: s => some (.place, s)
  | c :: s => some (.char c false, s)

/-- Reads one part of a pattern, or what opens, closes or divides a group. -/
def step? (p : Progress) : List Char → Option (Progress × List Char)
  | '(' :: s => groupStart? p s
  | ')' :: s => p.closeGroup?.map (·, s)
  | '|' :: s => some ({ p with inner := p.inner.another }, s)
  | '[' :: s => (set? p.options s).map fun (content, s) => (p.push (.set content), s)
  | '?' :: s | '*' :: s | '+' :: s => (p.repeat? false).map (·, dropLazy s)
  | '\x7b' :: s => do
    let (never, s) ← counts? p.options s
    (p.repeat? never).map (·, dropLazy (p.options.skip s))
  | s => do
    let (atom, s) ← atom? p.options s
    (atom.pattern? p.options).map fun part => (p.push part, s)

def readOn? : Nat → Progress → List Char → Option Pattern
  | 0, _, _ => none
  | fuel + 1, p, s =>
    match p.options.skip s with
    | [] => if p.outer.isEmpty then some p.inner.content else none
    | s => do
      let (p, s) ← step? p s
      readOn? fuel p s

def read? (s : List Char) : Option Pattern :=
  readOn? (s.length + 1) .start s

def fault? (s : List Char) : Option Fault :=
  match read? s with
  | none => some .malformed
  | some p =>
    if depthLimit < p.depth then some .malformed
    else if p.asksBoundary then some .wordBoundary
    else none

end ResetCheck.Pattern
