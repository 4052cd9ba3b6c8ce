import ResetCheck.Config
import ResetCheck.Stored.Name
import ResetCheck.Toml.Reader
import ResetCheck.Toml.Writer

/-!
# Stored configurations

Configurations as data and as TOML texts.  Reading a text checks its syntax, then the shape of
its data, then the values.
-/

namespace ResetCheck

/-- An integer of 64 bits as data. -/
def Data.ofWord (n : UInt64) : Data :=
  .int n.toNat

namespace RunnerSettings

def logLevelField : Shape.Field String :=
  ⟨"log_level", Shape.text, none⟩

def adbPathField : Shape.Field String :=
  ⟨"adb_path", Shape.text, some defaultAdbPath⟩

def pollIntervalField : Shape.Field UInt64 :=
  ⟨"poll_interval_ms", Shape.word64, some defaultPollInterval⟩

def encode (s : RunnerSettings) : Data :=
  .record [("log_level", .text s.logLevel), ("adb_path", .text s.adbPath),
    ("poll_interval_ms", .ofWord s.pollInterval)]

def decode : Shape RunnerSettings :=
  Shape.record .toml "struct RunnerSettings"
    [logLevelField.toCheck, adbPathField.toCheck, pollIntervalField.toCheck]
    fun expected source => do
      let logLevel ← logLevelField.read 0 expected source
      let adbPath ← adbPathField.read 1 expected source
      let pollInterval ← pollIntervalField.read 2 expected source
      return ⟨logLevel, adbPath, pollInterval⟩

end RunnerSettings

namespace TimeoutSettings

def baseField : Shape.Field UInt64 :=
  ⟨"base_ms", Shape.word64, some default.base⟩

def propertyField : Shape.Field String :=
  ⟨"multiplier_property", Shape.text, some default.multiplierProperty⟩

def encode (s : TimeoutSettings) : Data :=
  .record [("base_ms", .ofWord s.base), ("multiplier_property", .text s.multiplierProperty)]

def decode : Shape TimeoutSettings :=
  Shape.record .toml "struct TimeoutSettings" [baseField.toCheck, propertyField.toCheck]
    fun expected source => do
      let base ← baseField.read 0 expected source
      let property ← propertyField.read 1 expected source
      return ⟨base, property⟩

end TimeoutSettings

namespace VariantSettings

/-- A delay that may be left unset. -/
def delayField (name : String) : Shape.Field (Option UInt64) :=
  ⟨name, Shape.optional Shape.word64, some none⟩

def settleField : Shape.Field (Option UInt64) :=
  delayField "settle_delay_ms"

def startField : Shape.Field (Option UInt64) :=
  delayField "start_delay_ms"

def postIssueField : Shape.Field (Option UInt64) :=
  delayField "post_issue_delay_ms"

def allowanceField : Shape.Field (Option UInt64) :=
  delayField "extra_recovery_ms"

def shortCircuitField : Shape.Field (Option ShortCircuit) :=
  ⟨"short_circuit", Shape.optional (ShortCircuit.decode .toml), some none⟩

def encode (s : VariantSettings) : Data :=
  .record [("settle_delay_ms", .ofOption .ofWord s.settle),
    ("start_delay_ms", .ofOption .ofWord s.start),
    ("post_issue_delay_ms", .ofOption .ofWord s.postIssue),
    ("extra_recovery_ms", .ofOption .ofWord s.allowance),
    ("short_circuit", .ofOption ShortCircuit.encode s.shortCircuit)]

def decode : Shape VariantSettings :=
  Shape.record .toml "struct VariantSettings"
    [settleField.toCheck, startField.toCheck, postIssueField.toCheck, allowanceField.toCheck,
      shortCircuitField.toCheck]
    fun expected source => do
      let settle ← settleField.read 0 expected source
      let start ← startField.read 1 expected source
      let postIssue ← postIssueField.read 2 expected source
      let allowance ← allowanceField.read 3 expected source
      let shortCircuit ← shortCircuitField.read 4 expected source
      return ⟨settle, start, postIssue, allowance, shortCircuit⟩

end VariantSettings

namespace VariantOverrides

def gadgetField : Shape.Field (Option VariantSettings) :=
  ⟨"gadget", Shape.optional VariantSettings.decode, some none⟩

def portField : Shape.Field (Option VariantSettings) :=
  ⟨"port", Shape.optional VariantSettings.decode, some none⟩

def encode (o : VariantOverrides) : Data :=
  .record [("gadget", .ofOption VariantSettings.encode o.gadget),
    ("port", .ofOption VariantSettings.encode o.port)]

def decode : Shape VariantOverrides :=
  Shape.record .toml "struct VariantOverrides" [gadgetField.toCheck, portField.toCheck]
    fun expected source => do
      let gadget ← gadgetField.read 0 expected source
      let port ← portField.read 1 expected source
      return ⟨gadget, port⟩

end VariantOverrides

namespace Config

def phrasesField : Shape.Field (List String) :=
  ⟨"not_supported_phrases", Shape.list Shape.text, some []⟩

def encodePhrases (phrases : List String) : Data :=
  .record [("not_supported_phrases", .list (phrases.map .text))]

def decodePhrases : Shape (List String) :=
  Shape.record .toml "struct InvokerSettings" [phrasesField.toCheck]
    fun expected source => phrasesField.read 0 expected source

def runnerField : Shape.Field RunnerSettings :=
  ⟨"runner", RunnerSettings.decode, none⟩

def timeoutsField : Shape.Field TimeoutSettings :=
  ⟨"timeouts", TimeoutSettings.decode, some .default⟩

def invokerField : Shape.Field (List String) :=
  ⟨"invoker", decodePhrases, some []⟩

def variantsField : Shape.Field VariantOverrides :=
  ⟨"variants", VariantOverrides.decode, some .unset⟩

/-- The sections of a configuration, in the order they are written. -/
def sections (c : Config) : List (String × Data) :=
  [("runner", c.runner.encode), ("timeouts", c.timeouts.encode),
    ("invoker", encodePhrases c.phrases), ("variants", c.variants.encode)]

def encode (c : Config) : Data :=
  .record c.sections

def decode : Shape Config :=
  Shape.record .toml "struct RunnerConfig"
    [runnerField.toCheck, timeoutsField.toCheck, invokerField.toCheck, variantsField.toCheck]
    fun expected source => do
      let runner ← runnerField.read 0 expected source
      let timeouts ← timeoutsField.read 1 expected source
      let phrases ← invokerField.read 2 expected source
      let variants ← variantsField.read 3 expected source
      return ⟨runner, timeouts, phrases, variants⟩

end Config

/-- Why a text gives no configuration. -/
inductive LoadFault
  | malformed
  | misshapen (fault : ShapeFault)
  | invalid (fault : ConfigFault)

namespace Config

/-- The configuration of a TOML text. -/
def parse (text : String) : Except LoadFault Config :=
  match Toml.read? text with
  | none => .error .malformed
  | some data =>
    match decode data with
    | .error e => .error (.misshapen e)
    | .ok c =>
      match c.fault? with
      | some e => .error (.invalid e)
      | none => .ok c

/-- The TOML text of a configuration. -/
def write (c : Config) : Except Toml.WriteFault String :=
  Toml.write c.sections

end Config

end ResetCheck
