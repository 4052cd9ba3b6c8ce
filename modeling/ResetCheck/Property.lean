import ResetCheck.Budget
import ResetCheck.Fault
import ResetCheck.Text.Blank
import ResetCheck.Text.Numeral

/-!
# Properties of a device

A device answers the question for a property with a text, with nothing, or with a fault.  Here is
how such answers are read as integers and as the multiplier of a budget.  Whatever cannot be read
falls back to a default and never stops a check.
-/

namespace ResetCheck

abbrev PropertyAnswer := Except DeviceFault (Option String)

/-- The multiplier a text gives: a whole number of at least one that fits 32 bits. -/
def multiplier? (raw : String) : Option UInt32 :=
  ((Text.unsigned? UInt32.size (Text.trimChars raw.toList)).filter (1 ≤ ·)).map UInt32.ofNat

/-- The integer a text gives, if it fits 64 bits. -/
def integer? (raw : String) : Option Int :=
  Text.signed? Text.signedBound (Text.trimChars raw.toList)

namespace PropertyAnswer

/-- The answer of a table of properties, in which later entries replace earlier ones, unless
reading it fails altogether. -/
def ofTable (properties : List (String × String)) (fault : Option DeviceFault) (name : String) :
    PropertyAnswer :=
  match fault with
  | some e => .error e
  | none => .ok (properties.reverse.lookup name)

def integerOr (default : Int) : PropertyAnswer → Int
  | .ok (some raw) => (integer? raw).getD default
  | _ => default

def multiplier : PropertyAnswer → UInt32
  | .ok (some raw) => (multiplier? raw).getD 1
  | _ => 1

end PropertyAnswer

/-- Which property holds the multiplier. -/
structure Policy where
  property : String
deriving DecidableEq

namespace Policy

/-- The policy that reads the multiplier slow hardware advertises. -/
def standard : Policy :=
  ⟨"ro.hw_timeout_multiplier"⟩

def adjusted (base : Span) (answer : PropertyAnswer) : Span :=
  base.scale answer.multiplier.toNat

def budget (base allowance : Span) (answer : PropertyAnswer) : Budget :=
  .of base answer.multiplier allowance

end Policy

end ResetCheck
