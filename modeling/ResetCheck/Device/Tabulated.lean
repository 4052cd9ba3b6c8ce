import ResetCheck.Device

/-!
# Tabulated devices

A tabulated device ends each kind of wait in its own fixed way, whatever the timeout, and each
command likewise.  It sleeps before it answers.
-/

namespace ResetCheck

structure Tabulated where
  properties : List (String × String)
  propertyFault : Option DeviceFault
  gone : WaitAnswer
  back : WaitAnswer
  reply : Reply

namespace Tabulated

/-- The milliseconds a device sleeps before it answers. -/
def pause (millis : Nat) : Nat :=
  min millis Instant.farMillis

/-- How each kind of wait ends. -/
def answer (d : Tabulated) : Presence → WaitAnswer
  | .gone => { d.gone with after := pause d.gone.after }
  | .back => { d.back with after := pause d.back.after }

instance : Device Tabulated where
  property d name := (.ofTable d.properties d.propertyFault name, d)
  await d w := (some (d.answer w.wanted), d)
  execute d _ _ := ({ d.reply with after := pause d.reply.after }, d)

end Tabulated

end ResetCheck
