import Worldsmith.Archive.Reader
import Worldsmith.Proofs.Archive.Record

/-!
An image whose records follow each other without gaps, as their headers say, is read back from its
bytes. The record of the end is found if no byte of the comment is zero: what comes before a
shorter comment would have to end in a zero byte.
-/

namespace Worldsmith.Archive

variable {front rest : Bytes} {m : Member} {members : List Member} {offset : Nat}

namespace Member

/-- The header of a member and its data, as they stand before the directory. -/
def localRecord (m : Member) : Bytes :=
  littleEndian 4 localSignature ++ m.localHeader.toBytes ++ m.localName ++ m.packed

def centralRecord (m : Member) : Bytes := m.central.toBytes ++ m.name

/-- Both headers say the same, fit their fields and measure what follows them. -/
structure Sound (m : Member) : Prop where
  agrees : m.agrees
  fits : m.central.Fits
  nameLength : m.central.header.nameLength = m.name.length
  extraLength : m.central.header.extraLength = 0
  packedSize : m.central.header.packedSize = m.packed.length
  commentLength : m.central.commentLength = 0

theorem Sound.localHeader_eq (h : m.Sound) : m.localHeader = m.central.header :=
  (of_decide_eq_true h.agrees).1

theorem Sound.localName_eq (h : m.Sound) : m.localName = m.name :=
  (of_decide_eq_true h.agrees).2

theorem Sound.length_localRecord (h : m.Sound) :
    m.localRecord.length = m.central.header.recordLength := by
  simp only [localRecord, List.length_append, length_littleEndian, Header.length_toBytes,
    Header.recordLength, h.localName_eq, h.nameLength, h.extraLength, h.packedSize]
  rfl

theorem Sound.member?_eq (h : m.Sound) (ho : m.central.offset = front.length) :
    member? (front ++ (m.localRecord ++ rest)) m.central m.name = some m := by
  have hs : FitsIn 4 localSignature := by decide
  have hn : m.localHeader.nameLength = m.localName.length := by
    rw [h.localHeader_eq, h.localName_eq, h.nameLength]
  have he : m.localHeader.extraLength = ([] : Bytes).length := by
    rw [h.localHeader_eq, h.extraLength]
    rfl
  have hh : m.localHeader.Fits := h.localHeader_eq ▸ h.fits.header
  simp only [member?, ho, List.drop_left, localRecord, List.append_assoc,
    readSignature?_append hs, Option.bind_eq_bind, Option.bind_some, Header.read?_toBytes hh]
  rw [hn, take?_append]
  simp only [Option.bind_some]
  rw [he, ← List.nil_append (m.packed ++ rest), take?_append]
  simp only [Option.bind_some]
  rw [h.packedSize, take?_append]
  rfl

end Member

/-- The records of members follow each other from an offset on, and each line of the directory
says where. -/
inductive Chained : Nat → List Member → Prop
  | nil {offset : Nat} : Chained offset []
  | cons {m : Member} {members : List Member} :
    Chained (m.central.offset + m.localRecord.length) members →
    Chained m.central.offset (m :: members)

theorem Chained.mapM_member? (front rest : Bytes) (h : Chained offset members)
    (hs : ∀ m ∈ members, m.Sound) (hf : offset = front.length) :
    ((members.map fun m => (m.central, m.name)).mapM fun (central, name) =>
      member? (front ++ (members.flatMap Member.localRecord ++ rest)) central name) =
        some members := by
  induction h generalizing front with
  | nil => rfl
  | @cons m members _ ih =>
    rw [List.forall_mem_cons] at hs
    have hr := ih (front ++ m.localRecord) hs.2 (by rw [List.length_append, hf])
    rw [List.append_assoc] at hr
    simp only [List.map_cons, List.mapM_cons, List.flatMap_cons, List.append_assoc,
      hs.1.member?_eq hf, hr]
    rfl

theorem Chained.offsets (h : Chained offset members) (hs : ∀ m ∈ members, m.Sound) :
    Image.offsetsFrom offset members =
      (members.map (·.central.offset), offset + (members.flatMap Member.localRecord).length) := by
  induction h with
  | nil => rfl
  | cons _ ih =>
    rw [List.forall_mem_cons] at hs
    rw [Image.offsetsFrom, ← hs.1.length_localRecord, ih hs.2, List.map_cons, List.flatMap_cons,
      List.length_append, Nat.add_assoc]

theorem directory?_eq (hs : ∀ m ∈ members, m.Sound) :
    directory? members.length (members.flatMap Member.centralRecord ++ rest) =
      some (members.map fun m => (m.central, m.name)) := by
  induction members with
  | nil => rfl
  | cons m members ih =>
    rw [List.forall_mem_cons] at hs
    have he : m.central.header.extraLength + m.central.commentLength = ([] : Bytes).length := by
      rw [hs.1.extraLength, hs.1.commentLength]
      rfl
    rw [List.length_cons, List.flatMap_cons, Member.centralRecord, directory?]
    simp only [List.append_assoc, CentralHeader.read?_toBytes hs.1.fits, Option.bind_eq_bind,
      Option.bind_some]
    rw [hs.1.nameLength, take?_append]
    simp only [Option.bind_some]
    rw [he, ← List.nil_append (_ ++ rest), take?_append]
    simp only [Option.bind_some]
    rw [ih hs.2]
    rfl

section Ending
variable {comment : Bytes} {ending r : EndRecord}

/-- The last byte of a record of an end is the high byte of the length of its comment. -/
theorem EndRecord.toBytes_eq_append_zero (h : r.commentLength < 256) :
    ∃ front : Bytes, r.toBytes = front ++ [0] := by
  have hd : r.commentLength / 256 = 0 := Nat.div_eq_of_lt h
  exact ⟨r.toBytes.take 21, by simp [EndRecord.toBytes, writeRow, littleEndian, hd]⟩

theorem EndRecord.le_commentLength {n : Nat} (hz : 0 ∉ comment)
    (hlt : rest.length < comment.length)
    (h : (front ++ comment).drop n = r.toBytes ++ rest) : 256 ≤ r.commentLength := by
  by_contra hc
  obtain ⟨before, hb⟩ := EndRecord.toBytes_eq_append_zero (Nat.lt_of_not_le hc)
  have hs : 0 :: rest <:+ front ++ comment := by
    have hd := List.drop_suffix n (front ++ comment)
    rw [h, hb, List.append_assoc] at hd
    exact (List.suffix_append before _).trans hd
  have hm := List.suffix_of_suffix_length_le hs (List.suffix_append front comment) hlt
  exact hz (hm.subset List.mem_cons_self)

variable (hf : ending.Fits) (hl : ending.commentLength = comment.length) (hz : 0 ∉ comment)
  (hs : comment.length < 256)

include hf hl hz hs in
theorem endRecordFrom?_eq {length fuel : Nat} (hle : length ≤ comment.length)
    (hlt : comment.length < length + fuel) :
    endRecordFrom? (front ++ (ending.toBytes ++ comment)) length fuel = some (ending, comment) := by
  induction fuel generalizing length with
  | zero => omega
  | succ fuel ih =>
    have hi : (front ++ (ending.toBytes ++ comment)).length =
        front.length + (EndRecord.length + comment.length) := by
      rw [List.length_append, List.length_append, EndRecord.length_toBytes]
    rw [endRecordFrom?, if_neg (by omega)]
    rcases Nat.eq_or_lt_of_le hle with rfl | hshort
    · -- The comment has this length.
      have hn : (front ++ (ending.toBytes ++ comment)).length - EndRecord.length -
          comment.length = front.length := by omega
      rw [hn, List.drop_left, EndRecord.read?_eq_some.2 ⟨hf, rfl⟩]
      exact if_pos hl
    · -- The comment is longer: a record here would say that it has at least 256 bytes.
      have hnext := ih hshort (by omega)
      split
      · next r rest hr =>
        have hne : r.commentLength ≠ length := by
          have hd := (EndRecord.read?_eq_some.1 hr).2
          have hlen := congrArg List.length hd
          rw [List.length_drop, hi, List.length_append, EndRecord.length_toBytes] at hlen
          rw [← List.append_assoc] at hd
          have hle := EndRecord.le_commentLength hz (by omega) hd
          omega
        rw [if_neg hne, hnext]
      · exact hnext

include hf hl hz hs in
theorem endRecord?_eq :
    endRecord? (front ++ (ending.toBytes ++ comment)) = some (ending, comment) :=
  endRecordFrom?_eq hf hl hz hs (Nat.zero_le _) (by omega)

end Ending

namespace Image

variable {image : Image}

def locals (image : Image) : Bytes := image.members.flatMap Member.localRecord

def directory (image : Image) : Bytes := image.members.flatMap Member.centralRecord

def toBytes (image : Image) : Bytes :=
  image.locals ++ image.directory ++ image.ending.toBytes ++ image.comment

/-- The records of the members, the directory, the record of the end and the comment follow each
other without gaps, and the numbers in them say so. -/
structure Tiled (image : Image) : Prop where
  sound : ∀ m ∈ image.members, m.Sound
  chained : Chained 0 image.members
  fits : image.ending.Fits
  count : image.ending.count = image.members.length
  centralOffset : image.ending.centralOffset = image.locals.length
  centralSize : image.ending.centralSize = image.directory.length
  endOffset : image.endOffset = image.locals.length + image.directory.length
  commentLength : image.ending.commentLength = image.comment.length

theorem Tiled.isSequential (h : image.Tiled) : image.isSequential :=
  decide_eq_true (by rw [h.chained.offsets h.sound])

theorem Tiled.centralFollows (h : image.Tiled) : image.centralFollows := by
  apply decide_eq_true
  rw [h.chained.offsets h.sound, h.centralOffset, Nat.zero_add, locals]

theorem Tiled.centralFits (h : image.Tiled) : image.centralFits := by
  apply decide_eq_true
  rw [h.centralOffset, h.centralSize, h.endOffset]

/-- An image is read back from its bytes. -/
theorem Tiled.read?_toBytes (h : image.Tiled) (hz : 0 ∉ image.comment)
    (hs : image.comment.length < 256) : Archive.read? image.toBytes = some image := by
  have hend : endRecord? image.toBytes = some (image.ending, image.comment) := by
    rw [toBytes, List.append_assoc]
    exact endRecord?_eq h.fits h.commentLength hz hs
  have hlines : directory? image.ending.count (image.toBytes.drop image.ending.centralOffset) =
      some (image.members.map fun m => (m.central, m.name)) := by
    rw [toBytes, List.append_assoc, List.append_assoc, h.centralOffset, List.drop_left, h.count]
    exact directory?_eq h.sound
  have hmembers := h.chained.mapM_member? []
    (image.directory ++ (image.ending.toBytes ++ image.comment)) h.sound rfl
  have hlen : image.toBytes.length - EndRecord.length - image.comment.length = image.endOffset := by
    simp only [toBytes, List.length_append, EndRecord.length_toBytes, h.endOffset]
    omega
  have hbytes : [] ++ (image.members.flatMap Member.localRecord ++
      (image.directory ++ (image.ending.toBytes ++ image.comment))) = image.toBytes := by
    simp only [toBytes, locals, List.nil_append, List.append_assoc]
  rw [hbytes] at hmembers
  rw [read?, hend]
  simp only [Option.bind_eq_bind, Option.bind_some, hlines, hmembers, hlen]
  rfl

end Image

end Worldsmith.Archive
