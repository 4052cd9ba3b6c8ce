import ResetCheck.Config.Stored
import ResetCheck.Files
import ResetCheck.Text.Utf8

/-!
# Configuration files

Saving a configuration to a file, in a directory that is made for it, and loading one.
-/

namespace ResetCheck

inductive SaveFault
  | unwritable (cause : Toml.WriteFault)
  | directory (path : String) (cause : FileFault)
  | file (path : String) (cause : FileFault)

def SaveFault.message : SaveFault → String
  | unwritable cause => s!"Failed to serialize configuration: {cause.message}"
  | directory path cause => s!"Failed to create config directory: {path}: {cause.message}"
  | file path cause => s!"Failed to write config file: {path}: {cause.message}"

/-- Why no configuration was loaded. -/
inductive FileLoadFault
  | unreadable (path : String) (cause : FileFault)
  /-- The file holds no text. -/
  | undecodable (path : String)
  | unusable (path : String) (cause : LoadFault)

/-- The message of a text that gives no configuration, without what a reader of TOML has to say
about the place and the kind of the fault. -/
def LoadFault.message : LoadFault → String
  | malformed => "Failed to parse TOML: TOML parse error"
  | misshapen _ => "Failed to parse TOML: TOML parse error"
  | invalid fault => fault.message

def FileLoadFault.message : FileLoadFault → String
  | unreadable path cause => s!"Failed to read config file: {path}: {cause.message}"
  | undecodable path =>
    s!"Failed to read config file: {path}: stream did not contain valid UTF-8"
  | unusable path cause => s!"Invalid config file: {path}: {cause.message}"

namespace Config

variable {φ : Type} [Storage φ]

/-- Makes the directory of a path, unless that is the working directory itself. -/
def makeHome (path : String) (files : φ) : Except FileFault φ :=
  if (Path.parent path).isEmpty then .ok files
  else Storage.makeDirectories files (Path.parent path)

/-- Saves what was written of a configuration.  The files are as they were if that is no text, or no
directory can be made for it. -/
def saveWritten (path : String) (files : φ) : Except Toml.WriteFault String →
    Except SaveFault Unit × φ
  | .error e => (.error (.unwritable e), files)
  | .ok text =>
    match makeHome path files with
    | .error e => (.error (.directory (Path.parent path) e), files)
    | .ok files =>
      match Storage.write files path text.toUTF8.toList with
      | .error e => (.error (.file path e), files)
      | .ok files => (.ok (), files)

def save (c : Config) (path : String) (files : φ) : Except SaveFault Unit × φ :=
  saveWritten path files c.write

def load (path : String) (files : φ) : Except FileLoadFault Config :=
  match Storage.read files path with
  | .error e => .error (.unreadable path e)
  | .ok bytes =>
    match Text.decode? bytes with
    | none => .error (.undecodable path)
    | some text =>
      match parse text with
      | .error e => .error (.unusable path e)
      | .ok c => .ok c

/-- The configuration at the first of some paths that leads to anything.  Where none does, or what
is there cannot be used, it is the standard one. -/
def loadKept (paths : List String) (files : φ) : Config :=
  match paths.find? (Storage.holds files) with
  | none => .default
  | some path => (load path files).toOption.getD .default

end Config

end ResetCheck
