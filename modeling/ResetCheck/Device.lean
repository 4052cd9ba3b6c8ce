import ResetCheck.Instant
import ResetCheck.Property

/-!
# Devices

What a check needs of a device under test: its properties can be read, one can wait until it is
gone from the host or back on it, and it executes commands.  How a device answers depends on its
state, which every request may change.  Answers come some milliseconds after the request.
-/

namespace ResetCheck

inductive Presence
  | gone
  | back
deriving DecidableEq

structure Wait where
  wanted : Presence
  since : Instant
  timeout : Span
deriving DecidableEq

inductive WaitResult
  | reached
  | failed (fault : DeviceFault)
  /-- The wait broke off without an answer. -/
  | crashed
deriving DecidableEq

/-- How a wait ends, counted from its start. -/
structure WaitAnswer where
  after : Nat
  result : WaitResult
deriving DecidableEq

/-- How a command ends, counted from its issue. -/
structure Reply where
  after : Nat
  result : Except CommandFault String

/-- Devices whose states are the values of a type. -/
class Device (σ : Type) where
  property : σ → String → PropertyAnswer × σ
  /-- How a wait ends if nothing but the passing of time happens to the device, unless it has no
  end then. -/
  await : σ → Wait → Option WaitAnswer × σ
  execute : σ → Instant → String → Reply × σ

inductive Call
  | property (name : String)
  | wait (wait : Wait)
  | execute (command : String) (instant : Instant)
deriving DecidableEq

end ResetCheck
