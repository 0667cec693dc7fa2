import Worldsmith.Files.Path
import Worldsmith.Text.Bytes
import Worldsmith.Time

namespace Worldsmith

inductive FileError
  | notFound
  | alreadyExists
  | notDirectory
  | isDirectory
  /-- The file is not UTF-8. -/
  | notText
  /-- Only plain files can be copied. -/
  | notFile
  | nameTooLong
  /-- A folder that is in use cannot be replaced. -/
  | busy
  /-- No name has a zero byte in it. -/
  | zeroByte
  | other (text : String)
  deriving DecidableEq, Repr

def FileError.message : FileError → String
  | notFound => "No such file or directory (os error 2)"
  | alreadyExists => "File exists (os error 17)"
  | notDirectory => "Not a directory (os error 20)"
  | isDirectory => "Is a directory (os error 21)"
  | notText => "stream did not contain valid UTF-8"
  | notFile => "the source path is neither a regular file nor a symlink to a regular file"
  | nameTooLong => "File name too long (os error 36)"
  | busy => "Device or resource busy (os error 16)"
  | zeroByte => "file name contained an unexpected NUL byte"
  | other text => text

inductive FileKind
  | folder
  | file
  | other
  deriving DecidableEq, Repr

structure FileInfo where
  kind : FileKind
  modified : Timestamp
  deriving DecidableEq, Repr

structure Disk (m : Type → Type) where
  info : Path → ExceptT FileError m FileInfo
  read : Path → ExceptT FileError m Bytes
  /-- Replaces the content of a file, which is created if it is missing. -/
  write : Path → Bytes → ExceptT FileError m Unit
  /-- Creates a folder inside an existing one. -/
  makeFolder : Path → ExceptT FileError m Unit
  /-- Moves a file over another or to a free place. -/
  rename : Path → Path → ExceptT FileError m Unit
  remove : Path → ExceptT FileError m Unit
  setModified : Path → Timestamp → ExceptT FileError m Unit
  /-- What is in a folder by name, in any order. -/
  entries : Path → ExceptT FileError m (List (String × FileKind))
  now : m Timestamp

namespace Disk

variable {m : Type → Type} [Monad m]

def info? (disk : Disk m) (p : Path) : m (Option FileInfo) := do
  match ← (disk.info p).run with
  | .ok info => return some info
  | .error _ => return none

def isFolder (disk : Disk m) (p : Path) : m Bool := do
  return (← disk.info? p).any (·.kind = .folder)

def isFile (disk : Disk m) (p : Path) : m Bool := do
  return (← disk.info? p).any (·.kind = .file)

/-- A folder that is there already was not missing. -/
def unlessFolder (disk : Disk m) (p : Path) (e : FileError) : ExceptT FileError m Unit := do
  if ← disk.isFolder p then return else throw e

/-- Creates a folder and the folders around it as far as they are missing, up to a depth. -/
def makeFoldersFrom (disk : Disk m) : Nat → Path → ExceptT FileError m Unit
  | 0, _ => return
  | depth + 1, p => do
    if p.isEmpty then return
    tryCatch (disk.makeFolder p) fun e => do
      if e = .notFound then
        match p.parent? with
        | some parent => disk.makeFoldersFrom depth parent
        | none => return
        tryCatch (disk.makeFolder p) (disk.unlessFolder p)
      else disk.unlessFolder p e

/-- Creates a folder and the folders around it as far as they are missing. Each of them has a
shorter path than the one inside it. -/
def makeFolders (disk : Disk m) (p : Path) : ExceptT FileError m Unit :=
  disk.makeFoldersFrom (p.text.length + 1) p

def makeParent (disk : Disk m) (p : Path) : ExceptT FileError m Unit :=
  match p.parent? with
  | some parent => disk.makeFolders parent
  | none => return

def copy (disk : Disk m) (source dest : Path) : ExceptT FileError m Unit := do
  let info ← disk.info source
  if info.kind = .file then disk.write dest (← disk.read source)
  else throw .notFile

def readText (disk : Disk m) (p : Path) : ExceptT FileError m String := do
  match Text.ofBytes? (← disk.read p) with
  | some s => return s
  | none => throw .notText

/-- A file below a folder: where it is, and the names that lead to it from the folder. -/
structure Found where
  path : Path
  names : List String
  deriving DecidableEq, Repr

/-- A file that was found, or the text of a failure on the way. -/
abbrev Step := Except String Found

def sortedByName (entries : List (String × FileKind)) : List (String × FileKind) :=
  entries.mergeSort fun a b => a.1 ≤ b.1

def failureText (p : Path) (e : FileError) : String :=
  "IO error for operation on " ++ p.text ++ ": " ++ e.message

/-- All files at and below `here`, folder by folder and by name, down to a depth. -/
def walkFrom (disk : Disk m) : Nat → Found → FileKind → m (List Step)
  | 0, _, _ => return []
  | _ + 1, here, .file => return [.ok here]
  | _ + 1, _, .other => return []
  | depth + 1, here, .folder => do
    match ← (disk.entries here.path).run with
    | .error e => return [.error (failureText here.path e)]
    | .ok entries =>
      let below ← (sortedByName entries).mapM fun (name, kind) =>
        disk.walkFrom depth ⟨here.path.join name, here.names ++ [name]⟩ kind
      return below.flatten

/-- The most bytes that a path may have. -/
def longestPath : Nat := 4095

/-- All files at and below a path. Every folder on the way makes the path longer. -/
def walk (disk : Disk m) (root : Path) : m (List Step) := do
  match ← (disk.info root).run with
  | .error e => return [.error (failureText root e)]
  | .ok info => disk.walkFrom (longestPath + 2) ⟨root, []⟩ info.kind

end Disk

end Worldsmith
