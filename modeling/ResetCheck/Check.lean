import ResetCheck.Session

/-!
# Checks

A check reads the multiplier off the device, runs a session under the budget that follows from
it, and judges the report.  Without a device it asks nothing of anyone.
-/

namespace ResetCheck

structure Check where
  policy : Policy
  base : Span
  /-- Further phrases with which the device refuses a reset. -/
  phrases : List String

namespace Check

def standardBase : Span :=
  .ofMillis 5000

def standard : Check :=
  ⟨.standard, standardBase, []⟩

variable {σ : Type} [Device σ]

/-- The session of a check, given what the device answered about its multiplier. -/
def session (c : Check) (v : Variant) (answer : PropertyAnswer) (issuedAt : WallTime) :
    Session where
  variant := v
  budget := Policy.budget c.base v.allowance answer
  phrases := refusalPhrases ++ c.phrases
  issuedAt

/-- Checks a device, from the instant `now` on. -/
def runOn (c : Check) (v : Variant) (issuedAt : WallTime) (device : σ) (now : Instant) :
    Except CheckFault Verdict × Watch σ :=
  let (answer, device) := Device.property device c.policy.property
  let (report, w) :=
    (c.session v answer issuedAt).run device now [.property c.policy.property]
  (report.bind Report.judge, w)

def run (c : Check) (v : Variant) (issuedAt : WallTime) (device : Option σ) :
    Except CheckFault Verdict × Option (Watch σ) :=
  match device with
  | none => (.error .noDevice, none)
  | some device =>
    let (verdict, w) := c.runOn v issuedAt device 0
    (verdict, some w)

end Check

/-- The variant for a command, with the given allowance unless that is zero. -/
def Variant.forCommandWith (command : String) (allowance : Span) : Variant :=
  let v := Variant.forCommand command
  if allowance.nanos = 0 then v else { v with allowance }

/-- Checks the reset by a command, with nothing but a base time and an allowance given. -/
def runReconnectCheck {σ : Type} [Device σ] (device : Option σ) (command : String)
    (base allowance : Span) (issuedAt : WallTime) :
    Except CheckFault Verdict × Option (Watch σ) :=
  { Check.standard with base }.run (.forCommandWith command allowance) issuedAt device

end ResetCheck
