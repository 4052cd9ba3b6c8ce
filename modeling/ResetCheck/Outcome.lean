import ResetCheck.Fault
import ResetCheck.Text.Blank
import ResetCheck.Text.Casing
import ResetCheck.Text.Numeral
import ResetCheck.Text.Search

/-!
# Outcomes of a reset command

The reply to a reset command tells whether the device supports the reset at all: it does not if
the reply holds one of a list of phrases, in any case of its letters.
-/

namespace ResetCheck

inductive Support
  | supported
  | notSupported
  /-- The link went before the reply. -/
  | unknown
deriving DecidableEq, Repr

def refusalPhrases : List String :=
  ["No USB ports", "There is no available reset USB port"]

namespace Support

/-- Whether a text holds a phrase, in any case.  No text holds the empty phrase. -/
def mentions (output phrase : List Char) : Bool :=
  !phrase.isEmpty && Text.hasInfix (Text.lower phrase) (Text.lower output)

/-- What a reply tells, given the phrases that refuse a reset. -/
def classify (output : String) (phrases : List String) : Support :=
  if phrases.any fun phrase => mentions output.toList phrase.toList then notSupported
  else supported

end Support

/-- The number of nanoseconds the calendar goes on from the start of the year 1970. -/
def WallTime.bound : Nat :=
  Text.signedBound * 1000000000

/-- A time of the calendar, in nanoseconds from the start of the year 1970. -/
structure WallTime where
  nanos : Nat
  nanos_lt : nanos < WallTime.bound
deriving DecidableEq

namespace WallTime

def epoch : WallTime :=
  ⟨0, by decide⟩

def seconds (t : WallTime) : Nat :=
  t.nanos / 1000000000

/-- The nanoseconds beyond the whole seconds. -/
def subsecond (t : WallTime) : Nat :=
  t.nanos % 1000000000

end WallTime

structure Outcome where
  output : String
  support : Support
  issuedAt : WallTime
deriving DecidableEq

namespace Outcome

def isNotSupported (o : Outcome) : Bool :=
  o.support = .notSupported

/-- The outcome of a command's reply.  A lost link leaves the outcome unknown; a command that was
refused has none. -/
def ofReply (phrases : List String) (issuedAt : WallTime) :
    Except CommandFault String → Except CheckFault Outcome
  | .ok raw =>
    let output := Text.trim raw
    .ok ⟨output, .classify output phrases, issuedAt⟩
  | .error (.linkLost _) => .ok ⟨"", .unknown, issuedAt⟩
  | .error (.rejected text) => .error (.command (.rejected text))

end Outcome

end ResetCheck
