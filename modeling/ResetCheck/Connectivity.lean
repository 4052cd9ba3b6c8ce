/-!
# Connectivity

The states a device under observation goes through, in their order.  Observation moves only from
a state to its successor.
-/

namespace ResetCheck

inductive Connectivity
  /-- The device has not been seen to leave. -/
  | awaitingDisconnect
  /-- The device has left and has not been seen to return. -/
  | awaitingReconnect
  | reconnected
deriving DecidableEq, Repr

namespace Connectivity

instance : Inhabited Connectivity :=
  ⟨awaitingDisconnect⟩

def successor? : Connectivity → Option Connectivity
  | awaitingDisconnect => some awaitingReconnect
  | awaitingReconnect => some reconnected
  | reconnected => none

/-- The number of states before this one. -/
def rank : Connectivity → Nat
  | awaitingDisconnect => 0
  | awaitingReconnect => 1
  | reconnected => 2

instance : Ord Connectivity :=
  ⟨fun a b => compare a.rank b.rank⟩

instance : LE Connectivity :=
  ⟨fun a b => a.rank ≤ b.rank⟩

instance : LT Connectivity :=
  ⟨fun a b => a.rank < b.rank⟩

instance (a b : Connectivity) : Decidable (a ≤ b) :=
  inferInstanceAs (Decidable (a.rank ≤ b.rank))

instance (a b : Connectivity) : Decidable (a < b) :=
  inferInstanceAs (Decidable (a.rank < b.rank))

/-- Whether nothing is left to observe. -/
def isTerminal (state : Connectivity) : Bool :=
  state = reconnected

def text : Connectivity → String
  | awaitingDisconnect => "AwaitingInitialDisconnect"
  | awaitingReconnect => "AwaitingReconnect"
  | reconnected => "Reconnected"

theorem rank_successor? {a b : Connectivity} (h : a.successor? = some b) : b.rank = a.rank + 1 := by
  cases a <;> cases h <;> rfl

theorem successor?_eq_none_iff {a : Connectivity} : a.successor? = none ↔ a.isTerminal := by
  cases a <;> decide

end Connectivity

end ResetCheck
