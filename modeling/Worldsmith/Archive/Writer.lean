import Worldsmith.Archive.Crc32
import Worldsmith.Archive.Record
import Worldsmith.Time

namespace Worldsmith.Archive

structure Entry where
  path : String
  data : Bytes
  isText : Bool
  modified : DateTime
  deriving DecidableEq, Repr

inductive Overflow
  /-- An entry's data, as it is or packed. -/
  | data (path : String)
  | archive
  | name
  | entries
  | directory
  | comment
  deriving DecidableEq, Repr

def Overflow.message : Overflow → String
  | data path => path ++ " exceeds 4 GiB"
  | archive => "archive exceeds 4 GiB"
  | name => "too many bytes in file name"
  | entries => "too many entries"
  | directory => "central directory exceeds 4 GiB"
  | comment => "too many comment bytes"

/-- A number that a field of `width` bytes can hold. -/
def fit (width n : Nat) (overflow : Overflow) : Except Overflow Unit :=
  if n < Nat.pow 256 width then .ok () else .error overflow

/-- Data as it is stored, and the method. Data that cannot be deflated is kept as it is. -/
def pack (deflate : Bytes → Option Bytes) (data : Bytes) : Nat × Bytes :=
  match deflate data with
  | some packed => (8, packed)
  | none => (0, data)

/-- The header of an entry whose data is packed. Flag 1 says that it was packed well. -/
def Entry.header (e : Entry) (method : Nat) (packed : Bytes) : Header where
  needed := 20
  flags := if method = 8 then 2 else 0
  method := method
  time := e.modified.packedTime
  date := e.modified.packedDate
  crc := (Crc32.ofBytes e.data).toNat
  packedSize := packed.length
  size := e.data.length
  nameLength := (Text.toBytes e.path).length
  extraLength := 0

def Entry.centralHeader (e : Entry) (header : Header) (offset : Nat) : CentralHeader where
  madeBy := 20
  header := header
  commentLength := 0
  disk := 0
  internal := if e.isText then 1 else 0
  external := 0
  offset := offset

def record (deflate : Bytes → Option Bytes) (offset : Nat) (e : Entry) :
    Except Overflow (Bytes × Bytes) := do
  fit 4 e.data.length (.data e.path)
  let (method, packed) := pack deflate e.data
  let name := Text.toBytes e.path
  fit 4 offset .archive
  fit 2 name.length .name
  fit 4 packed.length (.data e.path)
  let header := e.header method packed
  return (littleEndian 4 localSignature ++ header.toBytes ++ name ++ packed,
    (e.centralHeader header offset).toBytes ++ name)

def records (deflate : Bytes → Option Bytes) :
    Nat → List Entry → Except Overflow (Bytes × Bytes)
  | _, [] => .ok ([], [])
  | offset, e :: rest => do
    let (front, central) ← record deflate offset e
    let (locals, directory) ← records deflate (offset + front.length) rest
    return (front ++ locals, central ++ directory)

def build (deflate : Bytes → Option Bytes) (comment : String) (entries : List Entry) :
    Except Overflow Bytes := do
  let (locals, directory) ← records deflate 0 entries
  fit 2 entries.length .entries
  fit 4 locals.length .archive
  fit 4 directory.length .directory
  let comment := Text.toBytes comment
  fit 2 comment.length .comment
  let ending : EndRecord :=
    ⟨0, 0, entries.length, entries.length, directory.length, locals.length, comment.length⟩
  return locals ++ directory ++ ending.toBytes ++ comment

end Worldsmith.Archive
