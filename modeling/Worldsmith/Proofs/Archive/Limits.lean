import Mathlib.Algebra.Ring.Nat
import Worldsmith.Proofs.Archive.Writing

namespace Worldsmith.Archive

variable {deflate : Bytes → Option Bytes} {offset : Nat} {e : Entry} {entries : List Entry}
  {comment : String} {bytes rest : Bytes} {position width n : Nat}

def numberAt? (bytes : Bytes) (position width : Nat) : Option Nat :=
  (readNumber? width (bytes.drop position)).map Prod.fst

theorem numberAt?_littleEndian (h : FitsIn width n) :
    numberAt? (littleEndian width n ++ rest) 0 width = some n := by
  rw [numberAt?, List.drop_zero, readNumber?_littleEndian h]
  rfl

theorem numberAt?_append (front bytes : Bytes) (position width : Nat) :
    numberAt? (front ++ bytes) (front.length + position) width =
      numberAt? bytes position width := by
  rw [numberAt?, numberAt?, List.drop_length_add_append]

theorem numberAt?_writeRow {widths values : List Nat} {i : Nat} (hw : widths[i]? = some width)
    (hv : values[i]? = some n) (h : FitsIn width n) :
    numberAt? (writeRow widths values ++ rest) (widths.take i).sum width = some n := by
  induction widths generalizing i values with
  | nil => cases hw
  | cons first widths ih =>
    cases values with
    | nil => cases hv
    | cons value values =>
      have hrow : writeRow (first :: widths) (value :: values) ++ rest =
          littleEndian first value ++ (writeRow widths values ++ rest) := List.append_assoc _ _ _
      rw [hrow]
      cases i with
      | zero =>
        cases hw
        cases hv
        exact numberAt?_littleEndian h
      | succ i =>
        have hshift := numberAt?_append (littleEndian first value) (writeRow widths values ++ rest)
          (widths.take i).sum width
        rw [length_littleEndian] at hshift
        rw [List.take_succ_cons, List.sum_cons, hshift]
        exact ih hw hv

/-- The row of a header at a position says how long an entry, its packed data and its name are. -/
structure Entry.LengthsAt (deflate : Bytes → Option Bytes) (e : Entry) (bytes : Bytes)
    (row : Nat) : Prop where
  packedSize : numberAt? bytes (row + 14) 4 = some (pack deflate e.data).2.length
  size : numberAt? bytes (row + 18) 4 = some e.data.length
  nameLength : numberAt? bytes (row + 22) 2 = some (Text.toBytes e.path).length

theorem Entry.Fits.lengthsAt (h : e.Fits deflate offset) (rest : Bytes) :
    e.LengthsAt deflate ((e.header (pack deflate e.data).1 (pack deflate e.data).2).toBytes ++ rest)
      0 where
  packedSize := numberAt?_writeRow (i := 6) rfl rfl h.packedSize
  size := numberAt?_writeRow (i := 7) rfl rfl h.size
  nameLength := numberAt?_writeRow (i := 8) rfl rfl h.nameLength

theorem Entry.LengthsAt.behind {row : Nat} (h : e.LengthsAt deflate bytes row) (front : Bytes) :
    e.LengthsAt deflate (front ++ bytes) (front.length + row) where
  packedSize := by rw [Nat.add_assoc, numberAt?_append, h.packedSize]
  size := by rw [Nat.add_assoc, numberAt?_append, h.size]
  nameLength := by rw [Nat.add_assoc, numberAt?_append, h.nameLength]

def Entry.recordLength (deflate : Bytes → Option Bytes) (e : Entry) : Nat :=
  30 + (Text.toBytes e.path).length + (pack deflate e.data).2.length

def Entry.lineLength (e : Entry) : Nat := 46 + (Text.toBytes e.path).length

def recordsLength (deflate : Bytes → Option Bytes) (entries : List Entry) : Nat :=
  (entries.map (·.recordLength deflate)).sum

def directoryLength (entries : List Entry) : Nat := (entries.map (·.lineLength)).sum

theorem length_localRecord (deflate : Bytes → Option Bytes) (offset : Nat) (e : Entry) :
    (e.member deflate offset).localRecord.length = e.recordLength deflate := by
  simp only [Member.localRecord, List.length_append, length_littleEndian, Header.length_toBytes]
  rfl

theorem length_centralRecord (deflate : Bytes → Option Bytes) (offset : Nat) (e : Entry) :
    (e.member deflate offset).centralRecord.length = e.lineLength := by
  rw [Member.centralRecord, List.length_append, CentralHeader.length_toBytes]
  rfl

theorem length_locals (deflate : Bytes → Option Bytes) (offset : Nat) (entries : List Entry) :
    ((membersFrom deflate offset entries).flatMap Member.localRecord).length =
      recordsLength deflate entries := by
  induction entries generalizing offset with
  | nil => rfl
  | cons e rest ih =>
    rw [membersFrom, List.flatMap_cons, List.length_append, length_localRecord, ih]
    rfl

theorem length_directory (deflate : Bytes → Option Bytes) (offset : Nat) (entries : List Entry) :
    ((membersFrom deflate offset entries).flatMap Member.centralRecord).length =
      directoryLength entries := by
  induction entries generalizing offset with
  | nil => rfl
  | cons e rest ih =>
    rw [membersFrom, List.flatMap_cons, List.length_append, length_centralRecord, ih]
    rfl

theorem recordsLength_cons (deflate : Bytes → Option Bytes) (e : Entry) (entries : List Entry) :
    recordsLength deflate (e :: entries) = e.recordLength deflate + recordsLength deflate entries :=
  rfl

theorem membersFrom_append (deflate : Bytes → Option Bytes) (offset : Nat)
    (before after : List Entry) : membersFrom deflate offset (before ++ after) =
      membersFrom deflate offset before ++
        membersFrom deflate (offset + recordsLength deflate before) after := by
  induction before generalizing offset with
  | nil => rfl
  | cons e before ih =>
    simp only [List.cons_append, membersFrom, ih, length_localRecord, recordsLength_cons,
      Nat.add_assoc]

theorem fitFrom_iff : FitFrom deflate offset entries ↔ ∀ before e after,
    entries = before ++ e :: after → e.Fits deflate (offset + recordsLength deflate before) := by
  induction entries generalizing offset with
  | nil => exact iff_of_true trivial (fun before e after h => absurd h.symm (by simp))
  | cons first rest ih =>
    rw [FitFrom, ih, length_localRecord]
    constructor
    · rintro ⟨hfirst, hrest⟩ before e after h
      cases before with
      | nil =>
        cases h
        exact hfirst
      | cons b before =>
        obtain ⟨rfl, rfl⟩ := List.cons.inj h
        have he := hrest before e after rfl
        rwa [Nat.add_assoc] at he
    · intro h
      refine ⟨h [] first rest rfl, ?_⟩
      rintro before e after rfl
      have he := h (first :: before) e after rfl
      rwa [Nat.add_assoc]

/-- The sizes, offsets and counts of an archive are small enough for their fields. -/
structure Limits (deflate : Bytes → Option Bytes) (comment : String) (entries : List Entry) :
    Prop where
  size : ∀ e ∈ entries, e.data.length < 2 ^ 32
  packedSize : ∀ e ∈ entries, (pack deflate e.data).2.length < 2 ^ 32
  offset : ∀ before e after, entries = before ++ e :: after → recordsLength deflate before < 2 ^ 32
  path : ∀ e ∈ entries, (Text.toBytes e.path).length ≤ 65535
  count : entries.length ≤ 65535
  centralOffset : recordsLength deflate entries < 2 ^ 32
  centralSize : directoryLength entries < 2 ^ 32
  comment : (Text.toBytes comment).length ≤ 65535

/-- The sizes, offsets and counts in an image are those of its entries. The record of an entry
starts behind those in front of it, and so do its line in the directory and the record of the
end. -/
structure Truthful (deflate : Bytes → Option Bytes) (comment : String) (entries : List Entry)
    (bytes : Bytes) : Prop where
  record : ∀ before e after, entries = before ++ e :: after →
    e.LengthsAt deflate bytes (recordsLength deflate before + 4)
  line : ∀ before e after, entries = before ++ e :: after →
    e.LengthsAt deflate bytes (recordsLength deflate entries + directoryLength before + 6)
  offset : ∀ before e after, entries = before ++ e :: after →
    numberAt? bytes (recordsLength deflate entries + directoryLength before + 42) 4 =
      some (recordsLength deflate before)
  diskCount : numberAt? bytes (recordsLength deflate entries + directoryLength entries + 8) 2 =
    some entries.length
  count : numberAt? bytes (recordsLength deflate entries + directoryLength entries + 10) 2 =
    some entries.length
  centralSize : numberAt? bytes (recordsLength deflate entries + directoryLength entries + 12) 4 =
    some (directoryLength entries)
  centralOffset : numberAt? bytes (recordsLength deflate entries + directoryLength entries + 16) 4 =
    some (recordsLength deflate entries)
  commentLength : numberAt? bytes (recordsLength deflate entries + directoryLength entries + 20) 2 =
    some (Text.toBytes comment).length

theorem ending_fits_iff : (imageOf deflate comment entries).ending.Fits ↔
    entries.length ≤ 65535 ∧ directoryLength entries < 2 ^ 32 ∧
      recordsLength deflate entries < 2 ^ 32 ∧ (Text.toBytes comment).length ≤ 65535 := by
  have hdisk : FitsIn 2 0 := by decide
  have hshort (n : Nat) : FitsIn 2 n ↔ n ≤ 65535 := Nat.lt_succ_iff
  simp only [EndRecord.Fits, imageOf, length_locals, length_directory, Fits, List.forall₂_cons,
    hdisk, hshort, true_and, List.forall₂_nil_left_iff]
  tauto

theorem limits_iff : Limits deflate comment entries ↔
    FitFrom deflate 0 entries ∧ (imageOf deflate comment entries).ending.Fits := by
  rw [fitFrom_iff, ending_fits_iff]
  constructor
  · intro h
    refine ⟨?_, h.count, h.centralSize, h.centralOffset, h.comment⟩
    rintro before e after rfl
    have he : e ∈ before ++ e :: after := List.mem_append_right _ List.mem_cons_self
    rw [Nat.zero_add]
    exact ⟨h.size e he, h.offset before e after rfl, Nat.lt_succ_of_le (h.path e he),
      h.packedSize e he⟩
  · rintro ⟨hfit, hcount, hdirectory, hrecords, hcomment⟩
    have hentry : ∀ e ∈ entries, ∃ offset, e.Fits deflate offset := by
      intro e he
      obtain ⟨before, after, h⟩ := List.append_of_mem he
      exact ⟨_, hfit before e after h⟩
    constructor
    case size =>
      intro e he
      obtain ⟨_, h⟩ := hentry e he
      exact h.size
    case packedSize =>
      intro e he
      obtain ⟨_, h⟩ := hentry e he
      exact h.packedSize
    case offset =>
      intro before e after h
      have hoffset := (hfit before e after h).offset
      rwa [Nat.zero_add] at hoffset
    case path =>
      intro e he
      obtain ⟨_, h⟩ := hentry e he
      exact Nat.le_of_lt_succ h.nameLength
    case count => exact hcount
    case centralOffset => exact hrecords
    case centralSize => exact hdirectory
    case comment => exact hcomment

theorem flatMap_membersFrom (deflate : Bytes → Option Bytes) (f : Member → Bytes)
    (before : List Entry) (e : Entry) (after : List Entry) : ∃ rest,
      (membersFrom deflate 0 (before ++ e :: after)).flatMap f =
        (membersFrom deflate 0 before).flatMap f ++
          (f (e.member deflate (recordsLength deflate before)) ++ rest) := by
  rw [membersFrom_append, List.flatMap_append, Nat.zero_add]
  exact ⟨_, rfl⟩

theorem toBytes_record (deflate : Bytes → Option Bytes) (comment : String) (before : List Entry)
    (e : Entry) (after : List Entry) : ∃ front rest,
      (imageOf deflate comment (before ++ e :: after)).toBytes =
        front ++ ((e.member deflate (recordsLength deflate before)).localRecord ++ rest) ∧
      front.length = recordsLength deflate before := by
  obtain ⟨rest, hrest⟩ := flatMap_membersFrom deflate Member.localRecord before e after
  have hlocals : (imageOf deflate comment (before ++ e :: after)).locals = _ := hrest
  refine ⟨(membersFrom deflate 0 before).flatMap Member.localRecord,
    rest ++ (imageOf deflate comment (before ++ e :: after)).directory ++
      (imageOf deflate comment (before ++ e :: after)).ending.toBytes ++ Text.toBytes comment, ?_,
    length_locals deflate 0 before⟩
  rw [Image.toBytes, hlocals]
  simp only [List.append_assoc]
  rfl

theorem toBytes_line (deflate : Bytes → Option Bytes) (comment : String) (before : List Entry)
    (e : Entry) (after : List Entry) : ∃ front rest,
      (imageOf deflate comment (before ++ e :: after)).toBytes =
        front ++ ((e.member deflate (recordsLength deflate before)).centralRecord ++ rest) ∧
      front.length =
        recordsLength deflate (before ++ e :: after) + directoryLength before := by
  obtain ⟨rest, hrest⟩ := flatMap_membersFrom deflate Member.centralRecord before e after
  have hdirectory : (imageOf deflate comment (before ++ e :: after)).directory = _ := hrest
  refine ⟨(imageOf deflate comment (before ++ e :: after)).locals ++
      (membersFrom deflate 0 before).flatMap Member.centralRecord,
    rest ++ (imageOf deflate comment (before ++ e :: after)).ending.toBytes ++
      Text.toBytes comment, ?_, ?_⟩
  · rw [Image.toBytes, hdirectory]
    simp only [List.append_assoc]
    rfl
  · rw [List.length_append, length_directory]
    exact congrArg (· + directoryLength before) (length_locals deflate 0 _)

theorem toBytes_ending (deflate : Bytes → Option Bytes) (comment : String)
    (entries : List Entry) : ∃ front,
      (imageOf deflate comment entries).toBytes =
        front ++ ((imageOf deflate comment entries).ending.toBytes ++ Text.toBytes comment) ∧
      front.length = recordsLength deflate entries + directoryLength entries := by
  refine ⟨(imageOf deflate comment entries).locals ++
    (imageOf deflate comment entries).directory, ?_, ?_⟩
  · rw [Image.toBytes]
    exact List.append_assoc _ _ _
  · rw [List.length_append]
    exact congrArg₂ _ (length_locals deflate 0 entries) (length_directory deflate 0 entries)

theorem EndRecord.numberAt?_toBytes {r : EndRecord} {i : Nat} (h : r.Fits)
    (hw : [2, 2, 2, 2, 4, 4, 2][i]? = some width)
    (hn : [r.disk, r.centralDisk, r.diskCount, r.count, r.centralSize, r.centralOffset,
      r.commentLength][i]? = some n) (rest : Bytes) :
    numberAt? (r.toBytes ++ rest) (4 + ([2, 2, 2, 2, 4, 4, 2].take i).sum) width = some n := by
  have hfit : FitsIn width n :=
    (List.forall₂_iff_zip.1 h).2 (List.mem_of_getElem? (List.getElem?_zip_eq_some.2 ⟨hw, hn⟩))
  have hrow : numberAt? (r.toBytes.drop 4 ++ rest) _ width = some n :=
    numberAt?_writeRow hw hn hfit
  rwa [← numberAt?_append (littleEndian 4 endSignature), length_littleEndian,
    ← List.append_assoc] at hrow

section Records
variable (h : e.Fits deflate offset)

include h in
theorem Entry.Fits.lengthsAt_localRecord (rest : Bytes) :
    e.LengthsAt deflate ((e.member deflate offset).localRecord ++ rest) 4 := by
  have hrow := (h.lengthsAt (Text.toBytes e.path ++ ((pack deflate e.data).2 ++ rest))).behind
    (littleEndian 4 localSignature)
  simp only [← List.append_assoc] at hrow
  exact hrow

include h in
theorem Entry.Fits.lengthsAt_centralRecord (rest : Bytes) :
    e.LengthsAt deflate ((e.member deflate offset).centralRecord ++ rest) 6 := by
  let marks := writeRow [2, 2, 2, 4, 4] [0, 0, if e.isText then 1 else 0, 0, offset]
  have hrow := (h.lengthsAt (marks ++ (Text.toBytes e.path ++ rest))).behind
    (littleEndian 4 centralSignature ++ littleEndian 2 20)
  simp only [← List.append_assoc] at hrow
  exact hrow

include h in
theorem Entry.Fits.numberAt?_centralRecord (rest : Bytes) :
    numberAt? ((e.member deflate offset).centralRecord ++ rest) 42 4 = some offset := by
  have hrow : numberAt? (writeRow [2, 2, 2, 4, 4] [0, 0, if e.isText then 1 else 0, 0, offset] ++
      (Text.toBytes e.path ++ rest)) 10 4 = some offset :=
    numberAt?_writeRow (i := 4) rfl rfl h.offset
  rw [← numberAt?_append (littleEndian 4 centralSignature ++ littleEndian 2 20 ++
    (e.header (pack deflate e.data).1 (pack deflate e.data).2).toBytes)] at hrow
  simp only [← List.append_assoc] at hrow
  exact hrow

end Records

theorem truthful_toBytes (hf : FitFrom deflate 0 entries)
    (hend : (imageOf deflate comment entries).ending.Fits) :
    Truthful deflate comment entries (imageOf deflate comment entries).toBytes := by
  have hentry : ∀ before e after, entries = before ++ e :: after →
      e.Fits deflate (recordsLength deflate before) := by
    intro before e after h
    have he := fitFrom_iff.1 hf before e after h
    rwa [Nat.zero_add] at he
  obtain ⟨front, himage, hlength⟩ := toBytes_ending deflate comment entries
  have hending {position width n : Nat} (h : numberAt?
      ((imageOf deflate comment entries).ending.toBytes ++ Text.toBytes comment) position width =
        some n) : numberAt? (imageOf deflate comment entries).toBytes
          (recordsLength deflate entries + directoryLength entries + position) width = some n := by
    rwa [himage, ← hlength, numberAt?_append]
  constructor
  case record =>
    rintro before e after rfl
    obtain ⟨front, rest, himage, hlength⟩ := toBytes_record deflate comment before e after
    rw [himage, ← hlength]
    exact ((hentry before e after rfl).lengthsAt_localRecord rest).behind front
  case line =>
    rintro before e after rfl
    obtain ⟨front, rest, himage, hlength⟩ := toBytes_line deflate comment before e after
    rw [himage, ← hlength]
    exact ((hentry before e after rfl).lengthsAt_centralRecord rest).behind front
  case offset =>
    rintro before e after rfl
    obtain ⟨front, rest, himage, hlength⟩ := toBytes_line deflate comment before e after
    rw [himage, ← hlength, numberAt?_append]
    exact (hentry before e after rfl).numberAt?_centralRecord rest
  case diskCount => exact hending (EndRecord.numberAt?_toBytes (i := 2) hend rfl rfl _)
  case count => exact hending (EndRecord.numberAt?_toBytes (i := 3) hend rfl rfl _)
  case centralSize =>
    have hsize : (imageOf deflate comment entries).ending.centralSize = directoryLength entries :=
      length_directory deflate 0 entries
    exact hending (EndRecord.numberAt?_toBytes (i := 4) hend rfl (congrArg some hsize) _)
  case centralOffset =>
    have hoffset : (imageOf deflate comment entries).ending.centralOffset =
        recordsLength deflate entries := length_locals deflate 0 entries
    exact hending (EndRecord.numberAt?_toBytes (i := 5) hend rfl (congrArg some hoffset) _)
  case commentLength => exact hending (EndRecord.numberAt?_toBytes (i := 6) hend rfl rfl _)

/-- An archive is built exactly within its limits, and then it says the truth. -/
theorem build_within_limits (deflate : Bytes → Option Bytes) (comment : String)
    (entries : List Entry) :
    ((∃ bytes, build deflate comment entries = .ok bytes) ↔ Limits deflate comment entries) ∧
      ∀ bytes, build deflate comment entries = .ok bytes →
        Truthful deflate comment entries bytes := by
  constructor
  · rw [limits_iff]
    constructor
    · rintro ⟨bytes, h⟩
      exact (build_eq_ok_iff.1 h).1
    · intro h
      exact ⟨_, build_eq_ok_iff.2 ⟨h, rfl⟩⟩
  · intro bytes h
    obtain ⟨⟨hfit, hend⟩, rfl⟩ := build_eq_ok_iff.1 h
    exact truthful_toBytes hfit hend

/-- Data that cannot be deflated. -/
theorem build_within_limits_notes :
    ∃ bytes, build (fun _ => none) packageComment noteEntries = .ok bytes ∧
      Limits (fun _ => none) packageComment noteEntries ∧
      Truthful (fun _ => none) packageComment noteEntries bytes := by
  have hok : (build (fun _ => none) packageComment noteEntries).toOption.isSome := by
    decide +kernel
  cases h : build (fun _ => none) packageComment noteEntries with
  | error overflow =>
    rw [h] at hok
    cases hok
  | ok bytes =>
    have hwithin := build_within_limits (fun _ => none) packageComment noteEntries
    exact ⟨bytes, rfl, hwithin.1.1 ⟨bytes, h⟩, hwithin.2 bytes h⟩

end Worldsmith.Archive
