import Worldsmith.Sink.Basic

namespace Worldsmith

structure Recorder where
  versioned : Bool := false
  refusedTexts : List String := []
  refusedFiles : List String := []
  /-- The paths that finalizing reports as failed. -/
  failedWrites : List String := []
  refusesToFinalize : Bool := false
  deriving Repr

namespace Recorder

/-- A call that was not refused, or an attempt to finalize. -/
inductive Call
  | text (path content : String)
  | file (path : String) (content : Bytes)
  | finalize
  deriving DecidableEq, Repr

variable {m : Type → Type} [Monad m]

abbrev Action (m : Type → Type) := ExceptT Failure (StateT (List Call) m)

def note (call : Call) : Action m Unit := modify (· ++ [call])

def label : String := "memory"
def refusal : String := "refused"

def addText (r : Recorder) (path content : String) : Action m Unit :=
  if r.refusedTexts.contains path then throw (.config (.refused path))
  else note (.text path content)

def addFile (r : Recorder) (disk : Disk m) (path : String) (source : Path) : Action m Unit := do
  if r.refusedFiles.contains path then throw (.config (.refused path))
  match ← ((disk.read source).run : m (Except FileError Bytes)) with
  | .ok content => note (.file path content)
  | .error e => throw (.io e.message)

def finalize (r : Recorder) : Action m (List FailedWrite) := do
  note .finalize
  if r.refusesToFinalize then throw (.finalize label refusal)
  return r.failedWrites.map fun path => ⟨path, refusal⟩

def sink (r : Recorder) (disk : Disk m) : Sink (StateT (List Call) m) where
  addText := r.addText
  addFile := r.addFile disk
  finalize := r.finalize
  label := label
  versioned := r.versioned

end Recorder

end Worldsmith
