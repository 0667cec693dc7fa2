import Worldsmith.Archive.Inflate
import Worldsmith.Archive.Record

namespace Worldsmith.Archive

structure Member where
  central : CentralHeader
  name : Bytes
  localHeader : Header
  localName : Bytes
  packed : Bytes
  deriving DecidableEq, Repr

namespace Member

def data? (m : Member) : Option Bytes :=
  if m.central.header.method = 0 then some m.packed
  else if m.central.header.method = 8 then Inflate.inflate? m.packed
  else none

def isText (m : Member) : Bool := m.central.internal % 2 = 1

/-- The header before the data and the directory say the same. -/
def agrees (m : Member) : Bool := m.localHeader = m.central.header ∧ m.localName = m.name

end Member

structure Image where
  members : List Member
  ending : EndRecord
  comment : Bytes
  /-- Where the record of the end starts. -/
  endOffset : Nat
  deriving DecidableEq, Repr

/-- The last record of an end whose comment reaches exactly to the end of the image, tried for
`fuel` lengths of a comment from `length` on. -/
def endRecordFrom? (image : Bytes) (length : Nat) : Nat → Option (EndRecord × Bytes)
  | 0 => none
  | fuel + 1 =>
    if image.length < EndRecord.length + length then none
    else
      match EndRecord.read? (image.drop (image.length - EndRecord.length - length)) with
      | some (ending, comment) =>
        if ending.commentLength = length then some (ending, comment)
        else endRecordFrom? image (length + 1) fuel
      | none => endRecordFrom? image (length + 1) fuel

def endRecord? (image : Bytes) : Option (EndRecord × Bytes) := endRecordFrom? image 0 65536

def directory? : Nat → Bytes → Option (List (CentralHeader × Bytes))
  | 0, _ => some []
  | n + 1, bytes => do
    let (central, rest) ← CentralHeader.read? bytes
    let (name, rest) ← take? central.header.nameLength rest
    let (_, rest) ← take? (central.header.extraLength + central.commentLength) rest
    return (central, name) :: (← directory? n rest)

def member? (image : Bytes) (central : CentralHeader) (name : Bytes) : Option Member := do
  let rest ← readSignature? localSignature (image.drop central.offset)
  let (header, rest) ← Header.read? rest
  let (localName, rest) ← take? header.nameLength rest
  let (_, rest) ← take? header.extraLength rest
  let (packed, _) ← take? central.header.packedSize rest
  return ⟨central, name, header, localName, packed⟩

def read? (image : Bytes) : Option Image := do
  let (ending, comment) ← endRecord? image
  let lines ← directory? ending.count (image.drop ending.centralOffset)
  let members ← lines.mapM fun (central, name) => member? image central name
  return ⟨members, ending, comment, image.length - EndRecord.length - comment.length⟩

namespace Image

/-- Where the entries have to start to follow each other without gaps, and where they end. -/
def offsetsFrom (offset : Nat) : List Member → List Nat × Nat
  | [] => ([], offset)
  | m :: rest =>
    let (offsets, ending) := offsetsFrom (offset + m.central.header.recordLength) rest
    (offset :: offsets, ending)

def isSequential (image : Image) : Bool :=
  image.members.map (·.central.offset) = (offsetsFrom 0 image.members).1

/-- The directory follows the entries without a gap. -/
def centralFollows (image : Image) : Bool :=
  image.ending.centralOffset = (offsetsFrom 0 image.members).2

/-- The directory reaches to the record of the end. -/
def centralFits (image : Image) : Bool :=
  image.ending.centralOffset + image.ending.centralSize = image.endOffset

end Image

end Worldsmith.Archive
