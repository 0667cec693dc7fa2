import Worldsmith.Text.Bytes

/-!
The records of a ZIP archive: a header before the data of each entry, a directory that repeats all
headers, and a record that says where the directory is. All of them are rows of numbers, written
with the lowest byte first.
-/

namespace Worldsmith.Archive

def littleEndian : Nat → Nat → Bytes
  | 0, _ => []
  | width + 1, n => n.toUInt8 :: littleEndian width (n / 256)

def readNumber? : Nat → Bytes → Option (Nat × Bytes)
  | 0, bytes => some (0, bytes)
  | _ + 1, [] => none
  | width + 1, b :: bytes => do
    let (n, rest) ← readNumber? width bytes
    return (b.toNat + 256 * n, rest)

def writeRow (widths values : List Nat) : Bytes := (widths.zipWith littleEndian values).flatten

def readRow? : List Nat → Bytes → Option (List Nat × Bytes)
  | [], bytes => some ([], bytes)
  | width :: widths, bytes => do
    let (n, rest) ← readNumber? width bytes
    let (row, rest) ← readRow? widths rest
    return (n :: row, rest)

def take? (n : Nat) (bytes : Bytes) : Option (Bytes × Bytes) :=
  if n ≤ bytes.length then some (bytes.take n, bytes.drop n) else none

/-- What the header of an entry and its copy in the directory both say. -/
structure Header where
  /-- The version of the format that a reader needs, in tenths. -/
  needed : Nat
  flags : Nat
  method : Nat
  time : Nat
  date : Nat
  crc : Nat
  /-- The length of the data as it is packed. -/
  packedSize : Nat
  size : Nat
  nameLength : Nat
  extraLength : Nat
  deriving DecidableEq, Repr

namespace Header

def widths : List Nat := [2, 2, 2, 2, 2, 4, 4, 4, 2, 2]

def toRow (h : Header) : List Nat :=
  [h.needed, h.flags, h.method, h.time, h.date, h.crc, h.packedSize, h.size, h.nameLength,
    h.extraLength]

def ofRow? : List Nat → Option Header
  | [needed, flags, method, time, date, crc, packedSize, size, nameLength, extraLength] =>
    some ⟨needed, flags, method, time, date, crc, packedSize, size, nameLength, extraLength⟩
  | _ => none

def toBytes (h : Header) : Bytes := writeRow widths h.toRow

def read? (bytes : Bytes) : Option (Header × Bytes) := do
  let (row, rest) ← readRow? widths bytes
  return (← ofRow? row, rest)

/-- The length of the record that the header starts, with the packed data. -/
def recordLength (h : Header) : Nat := 30 + h.nameLength + h.extraLength + h.packedSize

end Header

def localSignature : Nat := 0x04034b50
def centralSignature : Nat := 0x02014b50
def endSignature : Nat := 0x06054b50

/-- What comes before a row of numbers, to tell the records apart. -/
def readSignature? (signature : Nat) (bytes : Bytes) : Option Bytes := do
  let (n, rest) ← readNumber? 4 bytes
  if n = signature then some rest else none

structure CentralHeader where
  madeBy : Nat
  header : Header
  commentLength : Nat
  disk : Nat
  /-- Bit 0 marks a text. -/
  internal : Nat
  external : Nat
  /-- Where the record of the entry starts. -/
  offset : Nat
  deriving DecidableEq, Repr

namespace CentralHeader

def toBytes (c : CentralHeader) : Bytes :=
  littleEndian 4 centralSignature ++ littleEndian 2 c.madeBy ++ c.header.toBytes ++
    writeRow [2, 2, 2, 4, 4] [c.commentLength, c.disk, c.internal, c.external, c.offset]

def read? (bytes : Bytes) : Option (CentralHeader × Bytes) := do
  let rest ← readSignature? centralSignature bytes
  let (madeBy, rest) ← readNumber? 2 rest
  let (header, rest) ← Header.read? rest
  match ← readRow? [2, 2, 2, 4, 4] rest with
  | ([commentLength, disk, internal, external, offset], rest) =>
    return (⟨madeBy, header, commentLength, disk, internal, external, offset⟩, rest)
  | _ => none

end CentralHeader

structure EndRecord where
  disk : Nat
  centralDisk : Nat
  diskCount : Nat
  count : Nat
  centralSize : Nat
  centralOffset : Nat
  commentLength : Nat
  deriving DecidableEq, Repr

namespace EndRecord

def length : Nat := 22

def toBytes (r : EndRecord) : Bytes :=
  littleEndian 4 endSignature ++ writeRow [2, 2, 2, 2, 4, 4, 2]
    [r.disk, r.centralDisk, r.diskCount, r.count, r.centralSize, r.centralOffset, r.commentLength]

def read? (bytes : Bytes) : Option (EndRecord × Bytes) := do
  let rest ← readSignature? endSignature bytes
  match ← readRow? [2, 2, 2, 2, 4, 4, 2] rest with
  | ([disk, centralDisk, diskCount, count, centralSize, centralOffset, commentLength], rest) =>
    return (⟨disk, centralDisk, diskCount, count, centralSize, centralOffset, commentLength⟩,
      rest)
  | _ => none

end EndRecord

end Worldsmith.Archive
