import ResetCheck.Connectivity
import ResetCheck.Data.Shape
import ResetCheck.Outcome
import ResetCheck.Variant
import ResetCheck.Verdict

/-!
# Stored names

The names that stand for states, classes of replies, kinds of verdicts and the places of the
short circuit in stored documents.
-/

namespace ResetCheck

namespace Connectivity

def storedName : Connectivity → String
  | awaitingDisconnect => "awaiting_initial_disconnect"
  | awaitingReconnect => "awaiting_reconnect"
  | reconnected => "reconnected"

def named : List (String × Connectivity) :=
  [awaitingDisconnect, awaitingReconnect, reconnected].map fun s => (s.storedName, s)

def encode (s : Connectivity) : Data :=
  .text s.storedName

def decode : Shape Connectivity :=
  Shape.choice .json named

end Connectivity

namespace Support

def storedName : Support → String
  | supported => "supported"
  | notSupported => "not_supported"
  | unknown => "unknown"

def named : List (String × Support) :=
  [supported, notSupported, unknown].map fun s => (s.storedName, s)

def encode (s : Support) : Data :=
  .text s.storedName

def decode : Shape Support :=
  Shape.choice .json named

end Support

namespace VerdictKind

def storedName : VerdictKind → String
  | pass => "pass"
  | skip => "skip"
  | fail => "fail"

def named : List (String × VerdictKind) :=
  [pass, skip, fail].map fun k => (k.storedName, k)

def encode (k : VerdictKind) : Data :=
  .text k.storedName

def decode : Shape VerdictKind :=
  Shape.choice .json named

end VerdictKind

namespace ShortCircuit

def storedName : ShortCircuit → String
  | beforeDelay => "before_post_issue_delay"
  | afterDelay => "after_post_issue_delay"

def named : List (String × ShortCircuit) :=
  [beforeDelay, afterDelay].map fun s => (s.storedName, s)

def encode (s : ShortCircuit) : Data :=
  .text s.storedName

def decode (dialect : Dialect) : Shape ShortCircuit :=
  Shape.choice dialect named

end ShortCircuit

end ResetCheck
