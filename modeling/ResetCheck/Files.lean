import ResetCheck.Files.Path

/-!
# Files

What can be asked of the files of a host, and the answers of a tree of directories and files with
a working directory in it.  Paths lead through the tree name by name; an empty name or a dot stays
where it is, two dots go up.  Names and paths have a limit to their number of bytes.
-/

namespace ResetCheck

/-- Why the system does not do what is asked with a file. -/
inductive FileFault
  | missing
  | denied
  | inTheWay
  | notDirectory
  | isDirectory
  | tooLong
deriving DecidableEq, Repr

def FileFault.message : FileFault → String
  | missing => "No such file or directory (os error 2)"
  | denied => "Permission denied (os error 13)"
  | inTheWay => "File exists (os error 17)"
  | notDirectory => "Not a directory (os error 20)"
  | isDirectory => "Is a directory (os error 21)"
  | tooLong => "File name too long (os error 36)"

/-- Collections of files. -/
class Storage (φ : Type) where
  /-- Whether a path leads to anything. -/
  holds : φ → String → Bool
  /-- The content of the file at a path. -/
  read : φ → String → Except FileFault (List UInt8)
  /-- Makes a directory, and those above it that are missing. -/
  makeDirectories : φ → String → Except FileFault φ
  /-- Writes a file into a directory there is. -/
  write : φ → String → List UInt8 → Except FileFault φ

inductive FileTree
  | file (content : List UInt8)
  | directory (entries : List (String × FileTree))
deriving Inhabited

namespace FileTree

/-- Whether a name leads back to the directory it is looked up in. -/
def isIdle (name : String) : Bool :=
  name = "" || name = "."

def child (entries : List (String × FileTree)) (name : String) : Except FileFault FileTree :=
  if Path.isLongName name then .error .tooLong
  else match entries.lookup name with
    | some tree => .ok tree
    | none => .error .missing

/-- What names lead to from a tree with the given directories above it. -/
def walk (above : List FileTree) (tree : FileTree) : List String → Except FileFault FileTree
  | [] => .ok tree
  | name :: names =>
    match tree with
    | directory entries =>
      if isIdle name then walk above tree names
      else if name = ".." then
        match above with
        | [] => walk [] tree names
        | parent :: above => walk above parent names
      else match child entries name with
        | .ok child => walk (tree :: above) child names
        | .error e => .error e
    | _ => .error .notDirectory

def setEntry (name : String) (tree : FileTree) : List (String × FileTree) →
    List (String × FileTree)
  | [] => [(name, tree)]
  | (key, old) :: rest =>
    if key = name then (name, tree) :: rest else (key, old) :: setEntry name tree rest

/-- Makes the directories that are missing on the way along some names. -/
def makeDirectories (names : List String) (tree : FileTree) : Except FileFault FileTree :=
  match names, tree with
  | [], directory entries => .ok (directory entries)
  | [], _ => .error .inTheWay
  | name :: names, directory entries =>
    if Path.isLongName name then .error .tooLong
    else match makeDirectories names ((entries.lookup name).getD (directory [])) with
      | .ok child => .ok (directory (setEntry name child entries))
      | .error e => .error e
  | _ :: _, _ => .error .notDirectory

/-- Writes a file where some names lead to, over an old one if there is one. -/
def write (content : List UInt8) (names : List String) (tree : FileTree) :
    Except FileFault FileTree :=
  match names, tree with
  | [], directory _ => .error .isDirectory
  | [], _ => .ok (file content)
  | [name], directory entries =>
    if Path.isLongName name then .error .tooLong
    else match write content [] ((entries.lookup name).getD (file [])) with
      | .ok child => .ok (directory (setEntry name child entries))
      | .error e => .error e
  | name :: names, directory entries =>
    match child entries name with
    | .error e => .error e
    | .ok child => match write content names child with
      | .ok child => .ok (directory (setEntry name child entries))
      | .error e => .error e
  | _ :: _, _ => .error .notDirectory

end FileTree

structure Files where
  root : FileTree
  /-- The names that lead to the working directory. -/
  place : List String

namespace Files

/-- The names that lead to a path from the root. -/
def route (f : Files) (path : String) : List String :=
  if Path.isAbsolute path then Path.names path else f.place ++ Path.names path

def find (f : Files) (path : String) : Except FileFault FileTree :=
  if path.isEmpty then .error .missing
  else if Path.isLong path then .error .tooLong
  else f.root.walk [] (f.route path)

def holds (f : Files) (path : String) : Bool :=
  (f.find path).isOk

def read (f : Files) (path : String) : Except FileFault (List UInt8) :=
  match f.find path with
  | .ok (.file content) => .ok content
  | .ok (.directory _) => .error .isDirectory
  | .error e => .error e

/-- The names of a path that lead on. -/
def steps (f : Files) (path : String) : List String :=
  (f.route path).filter (!FileTree.isIdle ·)

def makeDirectories (f : Files) (path : String) : Except FileFault Files :=
  if Path.isLong path then .error .tooLong
  else (f.root.makeDirectories (f.steps path)).map fun root => { f with root }

def write (f : Files) (path : String) (content : List UInt8) : Except FileFault Files :=
  if Path.isLong path then .error .tooLong
  else (f.root.write content (f.steps path)).map fun root => { f with root }

instance : Storage Files :=
  ⟨holds, read, makeDirectories, write⟩

/-- Why the system starts no program from a path. -/
def startFault (f : Files) (path : String) : FileFault :=
  match f.find path with
  | .error e => e
  | .ok _ => .denied

end Files

end ResetCheck
