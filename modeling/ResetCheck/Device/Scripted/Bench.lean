import ResetCheck.Device.Scripted

/-!
# A scripted device on the bench

A bench is a scripted device with a clock.  Actions on it are carried out one after the other;
sleeping and waiting are the only ones that take time.
-/

namespace ResetCheck

structure Bench where
  device : Scripted
  now : Instant

namespace Bench

inductive Action
  | execute (command : String)
  | trigger
  | sleep (d : Span)
  | wait (wanted : Presence) (timeout : Span)

inductive Result
  | done
  | replied (reply : Except CommandFault String)
  | waited (result : WaitResult)
  /-- A wait that has no end was not begun. -/
  | endless

/-- Whether the device can be seen. -/
def isVisible (b : Bench) : Bool :=
  b.device.visibleAt b.now

def act (b : Bench) : Action → Result × Bench
  | .execute command =>
    let (reply, device) := b.device.execute b.now command
    (.replied reply.result, { b with device })
  | .trigger => (.done, { b with device := b.device.trigger b.now })
  | .sleep d => (.done, { b with now := b.now.wake d })
  | .wait wanted timeout =>
    match b.device.await ⟨wanted, b.now, timeout⟩ with
    | some answer => (.waited answer.result, { b with now := b.now + answer.after })
    | none => (.endless, b)

/-- Carries out actions, giving what came of each and the bench after it. -/
def run (b : Bench) : List Action → List (Result × Bench)
  | [] => []
  | a :: rest => b.act a :: run (b.act a).2 rest

end Bench

end ResetCheck
