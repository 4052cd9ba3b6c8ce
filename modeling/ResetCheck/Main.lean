import ResetCheck.Bridge.Transcript
import ResetCheck.CommandLine
import ResetCheck.Json.Reader

/-!
# The program

Runs the command line over a transcript of the bridge, which it reads from its input.  The
transcript may tell when the reset command was issued.
-/

namespace ResetCheck

/-- What reading the files a run may read has given, path by path. -/
structure ReadFiles where
  found : List (String × Except FileFault (List UInt8))

namespace ReadFiles

def read (f : ReadFiles) (path : String) : Except FileFault (List UInt8) :=
  (f.found.lookup path).getD (.error .missing)

/-- A path that leads to something may still lead to nothing that can be read. -/
def holds (f : ReadFiles) (path : String) : Bool :=
  match f.read path with
  | .ok _ => true
  | .error e => e = .isDirectory || e = .denied

instance : Storage ReadFiles where
  holds
  read
  makeDirectories f _ := .ok f
  write f path content := .ok ⟨(path, .ok content) :: f.found⟩

end ReadFiles

def FileFault.ofError : IO.Error → FileFault
  | .noFileOrDirectory .. => .missing
  | .inappropriateType _ 20 _ => .notDirectory
  | .inappropriateType .. => .isDirectory
  | .invalidArgument .. => .tooLong
  | _ => .denied

def attempt (action : IO α) : IO (Except FileFault α) := do
  try
    return .ok (← action)
  catch e =>
    return .error (.ofError e)

partial def readAll (input : IO.FS.Stream) (read : String) : IO String := do
  let line ← input.getLine
  if line.isEmpty then return read else readAll input (read ++ line)

/-- The time a transcript tells.  One that has no stored form is early. -/
def issuedAtOf (transcript : Data) : Clock :=
  match (transcript.get? "issued_at").map WallTime.decode with
  | none => .epoch
  | some (.ok t) => .shows t
  | some (.error _) => .early

/-- Whether a run with some arguments asks anything of the bridge. -/
def asksBridge (arguments : List String) : Bool :=
  match Arguments.read arguments with
  | .ok a => !a.saveConfig
  | .error _ => false

/-- The paths of the files a run with some arguments may read. -/
def readPaths (arguments : List String) (kept : List String) : List String :=
  match Arguments.read arguments with
  | .ok a => a.config.elim kept fun path => [path]
  | .error _ => []

def readFiles (paths : List String) : IO ReadFiles := do
  let found ← paths.mapM fun (path : String) => do
    let content ← attempt (IO.FS.readBinFile path)
    return (path, content.map (·.toList))
  return ⟨found⟩

def writeSaved (path : String) (content : List UInt8) : IO (Except SaveFault Unit) := do
  match ← attempt (IO.FS.createDirAll (Path.parent path)) with
  | .error e => return .error (.directory (Path.parent path) e)
  | .ok () =>
    match ← attempt (IO.FS.writeBinFile path ⟨content.toArray⟩) with
    | .error e => return .error (.file path e)
    | .ok () => return .ok ()

/-- The run, once what it saved is written. -/
def settled (r : Run ReadFiles) : IO (Run ReadFiles) := do
  match r.result with
  | .ok (.saved path) =>
    match ← writeSaved path ((r.files.read path).toOption.getD []) with
    | .ok () => return r
    | .error e => return { r with result := .error (.saving e) }
  | _ => return r

end ResetCheck

open ResetCheck in
def main (arguments : List String) : IO UInt32 := do
  let home := (← IO.getEnv "HOME").getD ""
  let configDirectory ← IO.getEnv "XDG_CONFIG_HOME"
  let kept := [defaultConfigPath home configDirectory, sharedConfigPath]
  let files ← readFiles (readPaths arguments kept)
  let transcript ←
    if asksBridge arguments then
      let text ← readAll (← IO.getStdin) ""
      pure ((Json.read? text).getD .null)
    else pure Data.null
  let host : Host ReadFiles :=
    { home
      configDirectory
      files
      bridge := (Bridge.ofTranscript · transcript)
      issuedAt := issuedAtOf transcript
      logVariable := ← IO.getEnv "RUST_LOG" }
  let r ← settled (host.run arguments)
  (← IO.getStdout).putStr r.printed
  match r.errorLine? with
  | some line => (← IO.getStderr).putStrLn line
  | none => pure ()
  return r.status.toUInt32
