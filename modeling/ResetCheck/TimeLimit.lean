import ResetCheck.Instant
import ResetCheck.Span.Text

/-!
# Time limits

Work that takes longer than its limit is given up.  Work that ends at the very instant the limit
is reached still counts.
-/

namespace ResetCheck

/-- The fault of work that was given up after `limit`. -/
structure TimeLimitFault where
  limit : Span
deriving DecidableEq

def TimeLimitFault.message (e : TimeLimitFault) : String :=
  s!"Test timed out after {e.limit.text}"

/-- Whether work that sleeps for `work` is done within `limit`. -/
def Span.within (work limit : Span) : Except TimeLimitFault Unit :=
  match Instant.alarm? 0 limit with
  | some deadline => if Instant.wake 0 work ≤ deadline then .ok () else .error ⟨limit⟩
  | none => .ok ()

end ResetCheck
