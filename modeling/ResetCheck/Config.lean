import ResetCheck.Files.Path
import ResetCheck.Property
import ResetCheck.Text.Blank
import ResetCheck.Text.Quoted
import ResetCheck.Variant

/-!
# Configurations

What a configuration sets, the defaults of all that it may leave out, and when its values are
acceptable.
-/

namespace ResetCheck

structure RunnerSettings where
  logLevel : String
  adbPath : String
  /-- In milliseconds. -/
  pollInterval : UInt64
deriving DecidableEq

structure TimeoutSettings where
  /-- In milliseconds. -/
  base : UInt64
  multiplierProperty : String
deriving DecidableEq

/-- What a configuration changes in a preset variant; delays in milliseconds. -/
structure VariantSettings where
  settle : Option UInt64
  start : Option UInt64
  postIssue : Option UInt64
  allowance : Option UInt64
  shortCircuit : Option ShortCircuit
deriving DecidableEq

structure VariantOverrides where
  gadget : Option VariantSettings
  port : Option VariantSettings
deriving DecidableEq

structure Config where
  runner : RunnerSettings
  timeouts : TimeoutSettings
  /-- Further phrases with which devices refuse a reset. -/
  phrases : List String
  variants : VariantOverrides
deriving DecidableEq

namespace RunnerSettings

def defaultAdbPath : String :=
  "adb"

def defaultPollInterval : UInt64 :=
  250

end RunnerSettings

def TimeoutSettings.default : TimeoutSettings :=
  ⟨5000, Policy.standard.property⟩

def VariantSettings.unset : VariantSettings :=
  ⟨none, none, none, none, none⟩

def VariantOverrides.unset : VariantOverrides :=
  ⟨none, none⟩

namespace VariantSettings

/-- The span a setting gives, or else the one there was. -/
def spanOr (old : Span) : Option UInt64 → Span
  | some ms => .ofMillis ms.toNat
  | none => old

def apply (s : VariantSettings) (v : Variant) : Variant :=
  { v with
    settle := spanOr v.settle s.settle
    start := spanOr v.start s.start
    postIssue := spanOr v.postIssue s.postIssue
    allowance := spanOr v.allowance s.allowance
    shortCircuit := s.shortCircuit.getD v.shortCircuit }

end VariantSettings

/-- Why the values of a configuration are not acceptable. -/
inductive ConfigFault
  | logLevel (level : String)
  | emptyAdbPath
  | zeroPollInterval
  | zeroBase
  | emptyProperty
  | emptyPhrase
deriving DecidableEq

/-- The log levels a configuration may name. -/
def logLevels : List String :=
  ["trace", "debug", "info", "warn", "error"]

def ConfigFault.message : ConfigFault → String
  | logLevel level =>
    "Invalid log level '" ++ level ++ "', must be one of: " ++ ", ".intercalate logLevels
  | emptyAdbPath => "adb_path must not be empty"
  | zeroPollInterval => "poll_interval_ms must be greater than 0"
  | zeroBase => "timeouts.base_ms must be greater than 0"
  | emptyProperty => "timeouts.multiplier_property must not be empty"
  | emptyPhrase => "Empty phrase in invoker.not_supported_phrases"

namespace Config

def default : Config where
  runner := ⟨"info", RunnerSettings.defaultAdbPath, RunnerSettings.defaultPollInterval⟩
  timeouts := .default
  phrases := []
  variants := .unset

def isBlankText (s : String) : Bool :=
  (Text.trimChars s.toList).isEmpty

/-- The first fault among the values of a configuration. -/
def fault? (c : Config) : Option ConfigFault :=
  if !logLevels.contains c.runner.logLevel then some (.logLevel c.runner.logLevel)
  else if isBlankText c.runner.adbPath then some .emptyAdbPath
  else if c.runner.pollInterval = 0 then some .zeroPollInterval
  else if c.timeouts.base = 0 then some .zeroBase
  else if isBlankText c.timeouts.multiplierProperty then some .emptyProperty
  else if c.phrases.any isBlankText then some .emptyPhrase
  else none

def pollInterval (c : Config) : Span :=
  .ofMillis c.runner.pollInterval.toNat

def base (c : Config) : Span :=
  .ofMillis c.timeouts.base.toNat

/-- The path to the device bridge.  A tilde that stands alone or before a slash is the home
directory. -/
def adbPath (home : String) (c : Config) : String :=
  match c.runner.adbPath.toList with
  | '~' :: rest =>
    if rest.isEmpty || rest.head? = some '/' then home ++ String.ofList rest else c.runner.adbPath
  | _ => c.runner.adbPath

def overrides (c : Config) : Preset → Option VariantSettings
  | .gadget => c.variants.gadget
  | .port => c.variants.port

/-- A preset with the changes of the configuration. -/
def variant (c : Config) (p : Preset) : Variant :=
  match c.overrides p with
  | some settings => settings.apply p.variant
  | none => p.variant

def variant? (c : Config) (name : String) : Option Variant :=
  (Preset.byName? name).map c.variant

end Config

/-- Where configurations are kept: below the configuration directory if that is an absolute path,
and else below the home directory. -/
def defaultConfigPath (home : String) (configDirectory : Option String) : String :=
  let directory := match configDirectory with
    | some d => if Path.isAbsolute d then d else Path.join home ".config"
    | none => Path.join home ".config"
  Path.join directory "usb-reset-check/config.toml"

/-- Where a configuration for all users of a host is kept. -/
def sharedConfigPath : String :=
  "/etc/usb-reset-check/config.toml"

end ResetCheck
