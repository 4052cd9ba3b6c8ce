import ResetCheck.Check
import ResetCheck.CommandLine.Fault
import ResetCheck.CommandLine.Printout
import ResetCheck.Device.Bridged

/-!
# The command line

A run of the command line reads its arguments and then saves the standard configuration, lists
the attached devices or checks one.  Everything that can be refused without the device is looked
at before the reset command is sent.
-/

namespace ResetCheck

/-- What the clock of a host shows.  A time before the year 1970 has no stored form. -/
inductive Clock
  | shows (t : WallTime)
  | early
deriving DecidableEq

namespace Clock

def epoch : Clock :=
  .shows .epoch

/-- The time that outcomes hold.  If the clock is early, it is not printed. -/
def time : Clock → WallTime
  | shows t => t
  | early => .epoch

end Clock

/-- What a run finds around it. -/
structure Host (φ : Type) where
  home : String
  /-- The directory for configurations, if one is named. -/
  configDirectory : Option String
  files : φ
  /-- The bridge that is started from a path. -/
  bridge : String → Bridge
  /-- What the clock shows when the reset command is issued. -/
  issuedAt : Clock
  /-- The log filter of the environment, if there is one. -/
  logVariable : Option String := none
  /-- What is wrong with a log filter, as the library for logs answers. -/
  filterFault? : String → Option LogFilter.Fault := LogFilter.fault?

/-- Why no program is started by a name under which none is known.  Dots name directories. -/
def Files.nameFault (name : String) : FileFault :=
  if name = "." || name = ".." then .denied
  else if Path.isLongName name then .tooLong
  else .missing

def Files.bridge (f : Files) (programs : List (String × Bridge)) (path : String) : Bridge :=
  if Path.isBare path then
    (programs.lookup path).getD (.broken path (nameFault path).message)
  else .broken path (f.startFault path).message

structure Run (φ : Type) where
  result : Except RunFault Printout
  /-- The files afterwards. -/
  files : φ
  /-- The requests the bridge was started for. -/
  requests : List Request

namespace Run

variable {φ : Type}

def printed (r : Run φ) : String :=
  match r.result with
  | .ok p => p.text
  | .error _ => ""

def status (r : Run φ) : UInt8 :=
  match r.result with
  | .ok p => p.status
  | .error _ => 2

def errorLine? (r : Run φ) : Option String :=
  match r.result with
  | .ok _ => none
  | .error e => e.message?.map ("Error: " ++ ·)

end Run

/-- What came of arguments that ask for no check. -/
def Halt.result : Halt → Except RunFault Printout
  | help => .ok .help
  | version => .ok .version
  | refused fault => .error (.usage fault)

namespace Bridge

def list (b : Bridge) : Except RunFault (List Attached) × Bridge :=
  let (answer, b) := b.askDevices
  (answer.mapError .listing, b)

/-- The serial of the device to be checked: the one that is given, or the only one online. -/
def choose (b : Bridge) (given : Option String) : Except RunFault String × Bridge :=
  match given with
  | some serial => (.ok serial, b)
  | none =>
    match b.list with
    | (.error e, b) => (.error e, b)
    | (.ok devices, b) => ((Attached.only devices).mapError .choice, b)

end Bridge

namespace Arguments

def listRun (b : Bridge) : Except RunFault Printout × Bridge :=
  let (devices, b) := b.list
  (devices.map .devices, b)

/-- The check the configuration asks for, under a base time. -/
def check (c : Config) (base : Span) : Check where
  policy := ⟨c.timeouts.multiplierProperty⟩
  base
  phrases := c.phrases

/-- What is printed of a verdict.  As JSON it tells when the command was issued, which cannot be if
that time has no stored form. -/
def printout (a : Arguments) (issuedAt : Clock) (v : Verdict) : Except RunFault Printout :=
  if a.json && issuedAt = .early then .error .unstorable else .ok (.verdict a.json v)

def checkDevice (a : Arguments) (c : Config) (issuedAt : Clock) (serial : String) (b : Bridge) :
    Except RunFault Printout × Bridge :=
  match a.variant? c with
  | none => (.error .blankCommand, b)
  | some v =>
    if (a.base c).nanos = 0 then (.error .zeroBase, b)
    else
      let (verdict, w) :=
        (check c (a.base c)).runOn v issuedAt.time (⟨b, serial, c.pollInterval⟩ : Bridged) 0
      ((verdict.mapError .check).bind (a.printout issuedAt), w.device.bridge)

/-- Checks the device that is given or chosen. -/
def checkRun (a : Arguments) (c : Config) (issuedAt : Clock) (b : Bridge) :
    Except RunFault Printout × Bridge :=
  match b.choose a.serial with
  | (.error e, b) => (.error e, b)
  | (.ok serial, b) => a.checkDevice c issuedAt serial b

end Arguments

namespace Host

variable {φ : Type} [Storage φ]

/-- Where the configuration of a user is kept. -/
def configPath (h : Host φ) : String :=
  defaultConfigPath h.home h.configDirectory

/-- The configuration of a run.  One that is asked for has to be usable.  Otherwise it is the one
that is kept, that of the user before that of all users. -/
def config (h : Host φ) (a : Arguments) : Except FileLoadFault Config :=
  match a.config with
  | some path => Config.load path h.files
  | none => .ok (.loadKept [h.configPath, sharedConfigPath] h.files)

/-- What is wrong with the log filter of a run.  That of the environment goes before the level,
unless it cannot be used. -/
def logFault? (h : Host φ) (level : String) : Option LogFilter.Fault :=
  if h.logVariable.any fun filter => (h.filterFault? filter).isNone then none
  else h.filterFault? level

def saveRun (h : Host φ) : Run φ :=
  let (saved, files) := Config.default.save h.configPath h.files
  ⟨match saved with
    | .ok () => .ok (.saved h.configPath)
    | .error e => .error (.saving e), files, []⟩

def runUnder (h : Host φ) (a : Arguments) (c : Config) : Run φ :=
  match h.logFault? (a.logLevel.getD c.runner.logLevel) with
  | some e => ⟨.error (.logging e), h.files, []⟩
  | none =>
    let b := h.bridge (c.adbPath h.home)
    let (result, b) :=
      if a.listDevices then Arguments.listRun b else a.checkRun c h.issuedAt b
    ⟨result, h.files, b.requests⟩

def run (h : Host φ) (arguments : List String) : Run φ :=
  match Arguments.read arguments with
  | .error halt => ⟨halt.result, h.files, []⟩
  | .ok a =>
    if a.saveConfig then h.saveRun
    else match h.config a with
      | .error e => ⟨.error (.loading e), h.files, []⟩
      | .ok c => h.runUnder a c

end Host

end ResetCheck
