import Std.Time.DateTime.Timestamp
import Worldsmith.CommandLine

namespace Worldsmith

/-- Some failures carry the negated number of their cause. -/
def causeNumber (code : UInt32) : Nat := min code.toNat (UInt32.size - code.toNat)

def FileError.ofIO (e : IO.Error) : FileError :=
  match e with
  | .noFileOrDirectory .. => .notFound
  | .alreadyExists .. => .alreadyExists
  | .inappropriateType _ code _ => if causeNumber code = 21 then .isDirectory else .notDirectory
  | .resourceBusy .. => .busy
  | .invalidArgument _ code text =>
    if causeNumber code = 36 then .nameTooLong else .other text
  | e => .other (toString e)

def FileKind.ofIO : IO.FS.FileType → FileKind
  | .dir => .folder
  | .file => .file
  | _ => .other

def Timestamp.ofIO (t : IO.FS.SystemTime) : Timestamp := ⟨t.sec, t.nsec.toNat⟩

def attempt {α : Type} (p : Path) (action : String → IO α) : ExceptT FileError IO α :=
  ExceptT.mk do
    if p.hasZeroByte then return .error .zeroByte
    match ← (action p.text).toBaseIO with
    | .ok a => return .ok a
    | .error e => return .error (.ofIO e)

/-- The file system of the machine. Its times are shown in UTC and not in the zone of the machine,
so the times of archive entries and the date of a manifest may differ from local ones. Files cannot
be dated back, so a copy keeps the time of copying, which is not before the time of its source. -/
def systemDisk : Disk IO where
  info p := attempt p fun path => do
    let place ← IO.FS.realPath path
    let data ← place.metadata
    return ⟨.ofIO data.type, .ofIO data.modified⟩
  read p := attempt p fun path => do return (← IO.FS.readBinFile path).toList
  write p content := attempt p (IO.FS.writeBinFile · (ByteArray.mk content.toArray))
  makeFolder p := attempt p (IO.FS.createDir ·)
  rename source dest := attempt source fun source => IO.FS.rename source dest.text
  remove p := attempt p (IO.FS.removeFile ·)
  setModified _ _ := return
  entries p := attempt p fun path => do
    let place ← IO.FS.realPath path
    (← place.readDir).toList.mapM fun entry => do
      return (entry.fileName, .ofIO (← entry.path.symlinkMetadata).type)
  now := do
    let t ← Std.Time.Timestamp.now
    return ⟨t.toSecondsSinceUnixEpoch.val, 0⟩

end Worldsmith

open Worldsmith

def main (arguments : List String) : IO UInt32 := do
  let outcome ← CommandLine.execute systemDisk arguments
  IO.print outcome.out
  IO.eprint outcome.err
  return outcome.code.toUInt32
