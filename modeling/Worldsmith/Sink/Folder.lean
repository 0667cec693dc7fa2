import Worldsmith.Sink.Basic

namespace Worldsmith

inductive QueuedWrite
  | text (dest : Path) (content : String)
  | copy (dest source : Path)
  deriving DecidableEq, Repr

def QueuedWrite.dest : QueuedWrite → Path
  | text dest _ => dest
  | copy dest _ => dest

structure FolderSink where
  /-- The folder of worlds. -/
  base : Path
  /-- The name of the package's folder in it. -/
  world : String
  deriving DecidableEq, Repr

namespace FolderSink

abbrev Queue := List QueuedWrite

variable {m : Type → Type} [Monad m]

abbrev Action (m : Type → Type) := ExceptT Failure (StateT Queue m)

def markers : List String := ["__init__.py", "AutoWorld.py"]

def open? (disk : Disk m) (base : Path) (world : String) : ExceptT Failure m FolderSink := do
  let isFolder ← (disk.isFolder base : m Bool)
  let marked ← (markers.mapM fun name => disk.isFile (base.join name) : m (List Bool))
  if isFolder && marked.all id then return ⟨base, world⟩ else throw (.destination base.text)

def worldPath (s : FolderSink) : Path := s.base.join s.world

/-- The place of a file, which must not be outside of the folder. -/
def locate (s : FolderSink) (path : String) : Except Failure Path :=
  if (Path.mk path).isInner then .ok (s.base.join path) else .error (.config (.outside path))

def enqueue (p : QueuedWrite) : Action m Unit := modify (· ++ [p])

def addText (s : FolderSink) (path content : String) : Action m Unit := do
  let dest ← (s.locate path : Except Failure Path)
  enqueue (.text dest content)

def addFile (s : FolderSink) (disk : Disk m) (path : String) (source : Path) : Action m Unit := do
  let dest ← (s.locate path : Except Failure Path)
  if ← (disk.isFile source : m Bool) then enqueue (.copy dest source)
  else throw (.io (source.text ++ ": no such file"))

/-- Copies a file that is newer than what is at its destination. -/
def refresh (disk : Disk m) (source dest : Path) : ExceptT FileError m Unit := do
  let modified := (← disk.info source).modified
  match ← (disk.info? dest : m (Option FileInfo)) with
  | some old => if old.modified.notBefore modified then return
  | none => pure ()
  disk.makeParent dest
  disk.copy source dest
  disk.setModified dest modified

def perform (disk : Disk m) : QueuedWrite → ExceptT FileError m Unit
  | .text dest content => do
    disk.makeParent dest
    disk.write dest (Text.toBytes content)
  | .copy dest source => refresh disk source dest

def performAll (disk : Disk m) : List QueuedWrite → m (List FailedWrite)
  | [] => return []
  | p :: rest => do
    let result ← (perform disk p).run
    let failed ← performAll disk rest
    match result with
    | .ok () => return failed
    | .error e => return ⟨p.dest.text, e.message⟩ :: failed

/-- If the package's folder cannot be created, nothing is written and all stays pending. -/
def finalize (s : FolderSink) (disk : Disk m) : Action m (List FailedWrite) := do
  match ← ((disk.makeFolders s.worldPath).run : m (Except FileError Unit)) with
  | .error e => throw (.finalize s.worldPath.text e.message)
  | .ok () =>
    let pending ← get
    set ([] : Queue)
    (performAll disk pending : m (List FailedWrite))

def sink (s : FolderSink) (disk : Disk m) : Sink (StateT Queue m) where
  addText := s.addText
  addFile := s.addFile disk
  finalize := s.finalize disk
  label := s.worldPath.text
  versioned := false

end FolderSink

end Worldsmith
