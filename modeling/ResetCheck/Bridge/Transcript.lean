import ResetCheck.Bridge
import ResetCheck.Data

/-!
# Transcripts

A transcript is a record of what the bridge answers, request by request and kind by kind.  A
bridge with a transcript that has nothing for some kind of request ends with a status of its own
whenever it gets one.
-/

namespace ResetCheck.Bridge

/-- The bytes that pairs of digits of base sixteen stand for. -/
def bytesOfDigits : List Char → List UInt8
  | a :: b :: rest =>
    UInt8.ofNat (16 * (Text.hexDigit? a).getD 0 + (Text.hexDigit? b).getD 0) :: bytesOfDigits rest
  | _ => []

/-- Bytes, given as a text or, in a record, as digits of base sixteen. -/
def bytesOf (v : Data) : List UInt8 :=
  match v, v.get? "hex" with
  | .text s, _ => s.toUTF8.toList
  | _, some (.text digits) => bytesOfDigits digits.toList
  | _, _ => []

def outputOf (v : Data) : Output where
  out := bytesOf ((v.get? "out").getD .null)
  err := bytesOf ((v.get? "err").getD .null)
  status := match v.get? "code" with
    | some (.int n) => UInt8.ofNat (n % 256).toNat
    | _ => 0
  duration := match v.get? "duration" with
    | some (.int n) => n.toNat
    | _ => 0

/-- The run for a request that nothing was recorded for. -/
def unrecorded : Output :=
  ⟨[], [], 97, 0⟩

/-- The recorded runs under a key. -/
def answersOf (transcript : Data) (kind : String) : Answers :=
  match transcript.get? kind with
  | some (.list (first :: later)) => ⟨.ok (outputOf first), later.map fun v => .ok (outputOf v)⟩
  | _ => .always (.ok unrecorded)

def ofTranscript (path : String) (transcript : Data) : Bridge where
  path
  devices := answersOf transcript "devices"
  properties := answersOf transcript "getprop"
  commands := answersOf transcript "shell"
  states := answersOf transcript "get-state"
  requests := []

end ResetCheck.Bridge
