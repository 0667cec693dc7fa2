import Worldsmith.Archive.Deflate
import Worldsmith.Archive.Writer
import Worldsmith.Sink.Basic

namespace Worldsmith

def packageComment : String := "apworld created with apgen"

namespace ArchiveSink

abbrev Queue := List Archive.Entry

variable {m : Type → Type} [Monad m]

abbrev Action (m : Type → Type) := ExceptT Failure (StateT Queue m)

def enqueue (e : Archive.Entry) : Action m Unit := modify (· ++ [e])

def onDisk {α : Type} (action : ExceptT FileError m α) : Action m α := do
  match ← (action.run : m (Except FileError α)) with
  | .ok a => return a
  | .error e => throw (.io e.message)

def addText (disk : Disk m) (path content : String) : Action m Unit := do
  let now ← (disk.now : m Timestamp)
  enqueue ⟨path, Text.toBytes content, true, now.toDateTime⟩

def addFile (disk : Disk m) (path : String) (source : Path) : Action m Unit := do
  let data ← onDisk (disk.read source)
  let info ← onDisk (disk.info source)
  enqueue ⟨path, data, false, info.modified.toDateTime⟩

/-- The file that is written before it takes the place of the archive. -/
def partialPath (path : Path) : Path := ⟨path.text ++ ".tmp"⟩

/-- Moves a file to its place. One that cannot be moved is removed. -/
def moveInto (disk : Disk m) (source dest : Path) : ExceptT FileError m Unit :=
  tryCatch (disk.rename source dest) fun e => do
    tryCatch (disk.remove source) fun _ => return
    throw e

variable (deflate : Bytes → Option Bytes)

def store (disk : Disk m) (path : Path) (queue : Queue) : ExceptT FileError m Unit := do
  match Archive.build deflate packageComment queue with
  | .error overflow => throw (.other overflow.message)
  | .ok image =>
    disk.makeParent path
    disk.write (partialPath path) image
    moveInto disk (partialPath path) path

/-- A failure leaves the queue as it is. -/
def finalize (disk : Disk m) (path : Path) : Action m (List FailedWrite) := do
  match ← ((store deflate disk path (← get)).run : m (Except FileError Unit)) with
  | .ok () => set ([] : Queue)
              return []
  | .error e => throw (.finalize path.text e.message)

def sink (disk : Disk m) (path : Path)
    (deflate : Bytes → Option Bytes := fun data => some (Deflate.compress data)) :
    Sink (StateT Queue m) where
  addText := addText disk
  addFile := addFile disk
  finalize := finalize deflate disk path
  label := path.text
  versioned := true

end ArchiveSink

end Worldsmith
