import Worldsmith.Failure
import Worldsmith.Files.Disk
import Worldsmith.Json.Printer

namespace Worldsmith

structure FailedWrite where
  path : String
  text : String
  deriving DecidableEq, Repr

def FailedWrite.message (f : FailedWrite) : String := "couldn't write " ++ f.path ++ ": " ++ f.text

structure Sink (m : Type → Type) where
  /-- Queues a text for a path. -/
  addText : String → String → ExceptT Failure m Unit
  /-- Queues a copy for a path, of the file at another. -/
  addFile : String → Path → ExceptT Failure m Unit
  /-- Writes what is queued, and returns the files that failed on their own. -/
  finalize : ExceptT Failure m (List FailedWrite)
  /-- Where the package goes, for messages. -/
  label : String
  /-- Whether the manifest is to say its own version. -/
  versioned : Bool

namespace Sink

variable {m : Type → Type}

def addPretty (sink : Sink m) (path : String) (value : Json) : ExceptT Failure m Unit :=
  sink.addText path value.pretty

def addCompact (sink : Sink m) (path : String) (value : Json) : ExceptT Failure m Unit :=
  sink.addText path value.compact

end Sink

end Worldsmith
