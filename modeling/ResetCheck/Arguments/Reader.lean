import ResetCheck.Arguments
import ResetCheck.Text.Numeral

/-!
# Reading arguments

Options that take a value have it after an equals sign, in the next argument or, in their short
form, right behind the letter; switches stand alone, and short ones may share a dash.  No option
may be given twice.  A value is looked at only when the next option comes or the arguments end,
so an unknown option in between is found first.
-/

namespace ResetCheck

/-- The options that take a value. -/
inductive Setting
  | serial
  | variant
  | command
  | baseTimeout
  | allowance
  | config
  | logLevel
deriving DecidableEq, Repr

/-- The options that take none. -/
inductive Switch
  | saveConfig
  | listDevices
  | json
  | help
  | version
deriving DecidableEq, Repr

inductive UsageFault
  /-- A value is missing or none of those one may choose from. -/
  | invalidValue
  | unknownArgument
  /-- An option was given twice, or two that exclude each other. -/
  | argumentConflict
  /-- A switch came with a value. -/
  | tooManyValues
  /-- A number cannot be read. -/
  | valueValidation
deriving DecidableEq, Repr

/-- Why arguments ask for no check. -/
inductive Halt
  | help
  | version
  | refused (fault : UsageFault)
deriving DecidableEq, Repr

inductive Parameter
  | setting (s : Setting)
  | switch (s : Switch)
deriving DecidableEq, Repr

namespace Parameter

def longNames : List (String × Parameter) :=
  [("serial", setting .serial), ("variant", setting .variant), ("command", setting .command),
    ("base-timeout-ms", setting .baseTimeout), ("extra-recovery-ms", setting .allowance),
    ("config", setting .config), ("save-config", switch .saveConfig),
    ("list-devices", switch .listDevices), ("log-level", setting .logLevel),
    ("json", switch .json), ("help", switch .help), ("version", switch .version)]

def shortNames : List (Char × Parameter) :=
  [('s', setting .serial), ('v', setting .variant), ('c', setting .config),
    ('l', setting .logLevel), ('h', switch .help), ('V', switch .version)]

end Parameter

namespace Arguments

/-- Sets what has not been set before. -/
def fill (old : Option α) (value : Except UsageFault α) : Except Halt (Option α) :=
  match old, value with
  | some _, _ => .error (.refused .argumentConflict)
  | none, .ok a => .ok (some a)
  | none, .error e => .error (.refused e)

def millis (text : String) : Except UsageFault UInt64 :=
  match Text.unsigned? UInt64.size text.toList with
  | some n => .ok (UInt64.ofNat n)
  | none => .error .valueValidation

def presetNamed (text : String) : Except UsageFault Preset :=
  match Preset.byName? text with
  | some p => .ok p
  | none => .error .invalidValue

/-- A path, which is not empty. -/
def path (text : String) : Except UsageFault String :=
  if text.isEmpty then .error .invalidValue else .ok text

def withSetting (a : Arguments) (value : String) : Setting → Except Halt Arguments
  | .serial => return { a with serial := ← fill a.serial (.ok value) }
  | .variant => return { a with preset := ← fill a.preset (presetNamed value) }
  | .command => return { a with command := ← fill a.command (.ok value) }
  | .baseTimeout => return { a with baseTimeout := ← fill a.baseTimeout (millis value) }
  | .allowance => return { a with allowance := ← fill a.allowance (millis value) }
  | .config => return { a with config := ← fill a.config (path value) }
  | .logLevel => return { a with logLevel := ← fill a.logLevel (.ok value) }

def turnOn (old : Bool) : Except Halt Bool :=
  if old then .error (.refused .argumentConflict) else .ok true

def withSwitch (a : Arguments) : Switch → Except Halt Arguments
  | .saveConfig => return { a with saveConfig := ← turnOn a.saveConfig }
  | .listDevices => return { a with listDevices := ← turnOn a.listDevices }
  | .json => return { a with json := ← turnOn a.json }
  | .help => .error .help
  | .version => .error .version

end Arguments

/-- How far arguments have been read. -/
structure ArgumentReader where
  found : Arguments
  /-- The last setting, and its value if that has come. -/
  awaited : Option (Setting × Option String)
  /-- Whether two dashes have ended the options. -/
  ended : Bool

namespace ArgumentReader

def start : ArgumentReader :=
  ⟨.unset, none, false⟩

/-- Gives the last setting its value. -/
def settle (r : ArgumentReader) : Except Halt ArgumentReader :=
  match r.awaited with
  | none => .ok r
  | some (_, none) => .error (.refused .invalidValue)
  | some (s, some value) => do
    let found ← r.found.withSetting value s
    return { r with found, awaited := none }

/-- Takes a setting whose value comes with it. -/
def give (r : ArgumentReader) (s : Setting) (value : String) : Except Halt ArgumentReader := do
  let r ← r.settle
  let found ← r.found.withSetting value s
  return { r with found }

/-- Takes a setting whose value is to come. -/
def expect (r : ArgumentReader) (s : Setting) : Except Halt ArgumentReader := do
  let r ← r.settle
  return { r with awaited := some (s, none) }

def flip (r : ArgumentReader) (s : Switch) : Except Halt ArgumentReader := do
  let r ← r.settle
  let found ← r.found.withSwitch s
  return { r with found }

/-- Takes an argument that is no option: the value that is to come. -/
def takeValue (r : ArgumentReader) (value : String) : Except Halt ArgumentReader :=
  match r.awaited with
  | some (s, none) => .ok { r with awaited := some (s, some value) }
  | _ => .error (.refused .unknownArgument)

/-- Takes what stands behind two dashes: a name, and perhaps a value after an equals sign. -/
def takeLong (r : ArgumentReader) (text : List Char) : Except Halt ArgumentReader :=
  let name := String.ofList (text.takeWhile (· ≠ '='))
  match Parameter.longNames.lookup name, text.dropWhile (· ≠ '=') with
  | none, _ => .error (.refused .unknownArgument)
  | some (.setting s), [] => r.expect s
  | some (.setting s), _ :: value => r.give s (String.ofList value)
  | some (.switch s), [] => r.flip s
  | some (.switch _), _ :: _ => .error (.refused .tooManyValues)

def takeShort (r : ArgumentReader) : List Char → Except Halt ArgumentReader
  | [] => .ok r
  | c :: rest =>
    match Parameter.shortNames.lookup c with
    | none => .error (.refused .unknownArgument)
    | some (.switch s) => do
      let r ← r.flip s
      takeShort r rest
    | some (.setting s) =>
      match rest with
      | [] => r.expect s
      | '=' :: value => r.give s (String.ofList value)
      | value => r.give s (String.ofList value)

def take (r : ArgumentReader) (argument : String) : Except Halt ArgumentReader :=
  if r.ended then .error (.refused .unknownArgument)
  else match argument.toList with
    | ['-', '-'] => .ok { r with ended := true }
    | '-' :: '-' :: text => r.takeLong text
    | '-' :: c :: letters => r.takeShort (c :: letters)
    | _ => r.takeValue argument

end ArgumentReader

/-- Reads arguments.  A command and a preset exclude each other. -/
def Arguments.read (arguments : List String) : Except Halt Arguments := do
  let r ← arguments.foldlM ArgumentReader.take .start
  let r ← r.settle
  if r.found.command.isSome && r.found.preset.isSome then
    .error (.refused .argumentConflict)
  else return r.found

end ResetCheck
