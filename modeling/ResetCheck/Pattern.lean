/-!
# Patterns

A pattern describes texts: one character after another, sets of characters in brackets, groups in
parentheses, repetitions and choices.  `Pattern` keeps of it what decides whether it can be used:
how its parts lie in one another, and where it asks for the boundary of a word.
-/

namespace ResetCheck

/-- What a set of characters consists of. -/
inductive CharSet
  /-- A character, a range of characters or a class of them by name. -/
  | item
  /-- A set in brackets. -/
  | bracketed (content : CharSet)
  /-- Several sets side by side, or none. -/
  | union (parts : List CharSet)
  /-- What two sets have in common, or what one has and the other has not. -/
  | combined (left right : CharSet)

inductive Pattern
  /-- Nothing at all. -/
  | empty
  /-- A change of options. -/
  | options
  /-- A character, any of a class, or a place in the text. -/
  | single
  /-- A place at the boundary of a word, whatever the script of the word. -/
  | wordBoundary
  | set (content : CharSet)
  | group (content : Pattern)
  /-- A repetition; `never` if the number of times can only be zero. -/
  | repeated (content : Pattern) (never : Bool)
  | sequence (parts : List Pattern)
  | choice (branches : List Pattern)

namespace CharSet

/-- Sets that stand side by side. -/
def ofParts : List CharSet → CharSet
  | [part] => part
  | parts => union parts

mutual

def depth : CharSet → Nat
  | item => 0
  | bracketed content => content.depth + 1
  | union [] => 0
  | union (part :: parts) => max part.depth (depthOfAll parts) + 1
  | combined left right => max left.depth right.depth + 1

def depthOfAll : List CharSet → Nat
  | [] => 0
  | part :: parts => max part.depth (depthOfAll parts)

end

end CharSet

namespace Pattern

inductive Fault
  | malformed
  /-- The pattern asks for the boundaries of words in all scripts. -/
  | wordBoundary
deriving DecidableEq, Repr

def Fault.message : Fault → String
  | malformed => "error building NFA"
  | wordBoundary =>
    "unsupported regex feature for DFAs: cannot build DFAs for regexes with Unicode word "
      ++ "boundaries; switch to ASCII word boundaries, or heuristically enable Unicode word "
      ++ "boundaries or use a different regex engine"

/-- Patterns that follow one another. -/
def ofParts : List Pattern → Pattern
  | [] => empty
  | [part] => part
  | parts => sequence parts

mutual

def depth : Pattern → Nat
  | empty | options | single | wordBoundary => 0
  | set content => content.depth + 1
  | group content => content.depth + 1
  | repeated content _ => content.depth + 1
  | sequence parts => depthOfAll parts + 1
  | choice branches => depthOfAll branches + 1

def depthOfAll : List Pattern → Nat
  | [] => 0
  | part :: parts => max part.depth (depthOfAll parts)

end

mutual

/-- Whether the boundary of a word is asked for.  It is not by what is repeated zero times. -/
def asksBoundary : Pattern → Bool
  | empty | options | single | set _ => false
  | wordBoundary => true
  | group content => content.asksBoundary
  | repeated content never => !never && content.asksBoundary
  | sequence parts => anyAsksBoundary parts
  | choice branches => anyAsksBoundary branches

def anyAsksBoundary : List Pattern → Bool
  | [] => false
  | part :: parts => part.asksBoundary || anyAsksBoundary parts

end

/-- Patterns that are nested deeper are refused. -/
def depthLimit : Nat :=
  250

/-- Whether a repetition may follow. -/
def isRepeatable : Pattern → Bool
  | empty | options => false
  | _ => true

end Pattern

end ResetCheck
