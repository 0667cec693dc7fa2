import Worldsmith.Proofs.Archive.Reading
import Worldsmith.Proofs.Outcome
import Worldsmith.Proofs.Time
import Worldsmith.Sink.Archive

namespace Worldsmith.Archive

variable {deflate : Bytes → Option Bytes} {offset : Nat} {e : Entry} {entries : List Entry}
  {comment : String} {bytes : Bytes}

theorem fit_eq_ok {width n : Nat} (h : FitsIn width n) (overflow : Overflow) :
    fit width n overflow = .ok () := if_pos h

theorem fitsIn_of_fit {width n : Nat} {overflow : Overflow} {u : Unit}
    (h : fit width n overflow = .ok u) : FitsIn width n := by
  rw [fit] at h
  split at h
  · next hn => exact hn
  · cases h

def Entry.member (deflate : Bytes → Option Bytes) (offset : Nat) (e : Entry) : Member :=
  let packed := pack deflate e.data
  let header := e.header packed.1 packed.2
  ⟨e.centralHeader header offset, Text.toBytes e.path, header, Text.toBytes e.path, packed.2⟩

structure Entry.Fits (deflate : Bytes → Option Bytes) (offset : Nat) (e : Entry) : Prop where
  size : FitsIn 4 e.data.length
  offset : FitsIn 4 offset
  nameLength : FitsIn 2 (Text.toBytes e.path).length
  packedSize : FitsIn 4 (pack deflate e.data).2.length

theorem record_eq_ok_iff {front central : Bytes} :
    record deflate offset e = .ok (front, central) ↔ e.Fits deflate offset ∧
      front = (e.member deflate offset).localRecord ∧
      central = (e.member deflate offset).centralRecord := by
  constructor
  · intro h
    obtain ⟨_, hsize, h⟩ := exists_ok_of_bind h
    obtain ⟨_, hoffset, h⟩ := exists_ok_of_bind h
    obtain ⟨_, hname, h⟩ := exists_ok_of_bind h
    obtain ⟨_, hpacked, h⟩ := exists_ok_of_bind h
    cases h
    exact ⟨⟨fitsIn_of_fit hsize, fitsIn_of_fit hoffset, fitsIn_of_fit hname,
      fitsIn_of_fit hpacked⟩, rfl, rfl⟩
  · rintro ⟨hf, rfl, rfl⟩
    exact bind_eq_ok (fit_eq_ok hf.size _) <| bind_eq_ok (fit_eq_ok hf.offset _) <|
      bind_eq_ok (fit_eq_ok hf.nameLength _) <| bind_eq_ok (fit_eq_ok hf.packedSize _) rfl

theorem pack_cases (deflate : Bytes → Option Bytes) (data : Bytes) :
    (∃ packed, deflate data = some packed ∧ pack deflate data = (8, packed)) ∨
      pack deflate data = (0, data) := by
  rw [pack]
  cases deflate data with
  | some packed => exact .inl ⟨packed, rfl, rfl⟩
  | none => exact .inr rfl

theorem Entry.Fits.header (h : e.Fits deflate offset) (ht : e.modified.Packable) :
    (e.member deflate offset).central.header.Fits := by
  have hneeded : FitsIn 2 20 := by decide
  have hflags : FitsIn 2 (if (pack deflate e.data).1 = 8 then 2 else 0) := by
    split <;> decide
  have hmethod : FitsIn 2 (pack deflate e.data).1 := by
    have hdeflated : FitsIn 2 8 := by decide
    have hstored : FitsIn 2 0 := by decide
    rcases pack_cases deflate e.data with ⟨packed, -, hp⟩ | hp
    · exact hp ▸ hdeflated
    · exact hp ▸ hstored
  have hcrc : FitsIn 4 (Crc32.ofBytes e.data).toNat := UInt32.toNat_lt _
  have hextra : FitsIn 2 0 := by decide
  exact .cons hneeded <| .cons hflags <| .cons hmethod <| .cons ht.packedTime_lt <|
    .cons ht.packedDate_lt <| .cons hcrc <| .cons h.packedSize <| .cons h.size <|
    .cons h.nameLength <| .cons hextra .nil

theorem Entry.Fits.sound (h : e.Fits deflate offset) (ht : e.modified.Packable) :
    (e.member deflate offset).Sound where
  agrees := decide_eq_true ⟨rfl, rfl⟩
  fits := by
    have hmade : FitsIn 2 20 := by decide
    have hnone : FitsIn 2 0 := by decide
    have hinternal : FitsIn 2 (if e.isText then 1 else 0) := by split <;> decide
    have hexternal : FitsIn 4 0 := by decide
    exact ⟨hmade, h.header ht,
      .cons hnone <| .cons hnone <| .cons hinternal <| .cons hexternal <| .cons h.offset .nil⟩
  nameLength := rfl
  extraLength := rfl
  packedSize := rfl
  commentLength := rfl

def Member.modified (m : Member) : DateTime :=
  .ofPacked m.central.header.date m.central.header.time

/-- A member says all of an entry, but the odd second of its time. -/
structure Member.Recovers (m : Member) (e : Entry) : Prop where
  name : m.name = Text.toBytes e.path
  data : m.data? = some e.data
  crc : m.central.header.crc = (Crc32.ofBytes e.data).toNat
  size : m.central.header.size = e.data.length
  isText : m.isText = e.isText
  modified : m.modified = e.modified.toEvenSecond

theorem Entry.member_recovers (ht : e.modified.Packable)
    (hd : ∀ packed, deflate e.data = some packed → Inflate.inflate? packed = some e.data) :
    (e.member deflate offset).Recovers e where
  name := rfl
  data := by
    simp only [Member.data?, member, Entry.centralHeader, Entry.header]
    rcases pack_cases deflate e.data with ⟨packed, hs, hp⟩ | hp
    · simp [hp, hd packed hs]
    · simp [hp]
  crc := rfl
  size := rfl
  isText := by
    simp only [Member.isText, member, Entry.centralHeader]
    by_cases htext : e.isText = true
    · simp [htext]
    · simp [htext]
  modified := ht.ofPacked_eq

def membersFrom (deflate : Bytes → Option Bytes) : Nat → List Entry → List Member
  | _, [] => []
  | offset, e :: rest =>
    let m := e.member deflate offset
    m :: membersFrom deflate (offset + m.localRecord.length) rest

@[simp] theorem length_membersFrom (deflate : Bytes → Option Bytes) (offset : Nat)
    (entries : List Entry) : (membersFrom deflate offset entries).length = entries.length := by
  induction entries generalizing offset with
  | nil => rfl
  | cons e rest ih => rw [membersFrom, List.length_cons, ih, List.length_cons]

theorem chained_membersFrom (deflate : Bytes → Option Bytes) (offset : Nat)
    (entries : List Entry) : Chained offset (membersFrom deflate offset entries) := by
  induction entries generalizing offset with
  | nil => exact .nil
  | cons e rest ih =>
    have hr : Chained ((e.member deflate offset).central.offset +
        (e.member deflate offset).localRecord.length)
        (membersFrom deflate (offset + (e.member deflate offset).localRecord.length) rest) := ih _
    exact .cons hr

theorem membersFrom_recover (ht : ∀ e ∈ entries, e.modified.Packable)
    (hd : ∀ e ∈ entries, ∀ packed,
      deflate e.data = some packed → Inflate.inflate? packed = some e.data) :
    List.Forall₂ Member.Recovers (membersFrom deflate offset entries) entries := by
  induction entries generalizing offset with
  | nil => exact .nil
  | cons e rest ih =>
    rw [List.forall_mem_cons] at ht hd
    exact .cons (e.member_recovers ht.1 hd.1) (ih ht.2 hd.2)

def FitFrom (deflate : Bytes → Option Bytes) : Nat → List Entry → Prop
  | _, [] => True
  | offset, e :: rest => e.Fits deflate offset ∧
    FitFrom deflate (offset + (e.member deflate offset).localRecord.length) rest

theorem FitFrom.sound (h : FitFrom deflate offset entries)
    (ht : ∀ e ∈ entries, e.modified.Packable) :
    ∀ m ∈ membersFrom deflate offset entries, m.Sound := by
  induction entries generalizing offset with
  | nil => exact List.forall_mem_nil _
  | cons e rest ih =>
    rw [List.forall_mem_cons] at ht
    exact List.forall_mem_cons.2 ⟨h.1.sound ht.1, ih h.2 ht.2⟩

theorem records_eq_ok_iff {locals directory : Bytes} :
    records deflate offset entries = .ok (locals, directory) ↔ FitFrom deflate offset entries ∧
      locals = (membersFrom deflate offset entries).flatMap Member.localRecord ∧
      directory = (membersFrom deflate offset entries).flatMap Member.centralRecord := by
  induction entries generalizing offset locals directory with
  | nil =>
    constructor
    · intro h
      cases h
      exact ⟨trivial, rfl, rfl⟩
    · rintro ⟨-, rfl, rfl⟩
      rfl
  | cons e rest ih =>
    constructor
    · intro h
      obtain ⟨⟨front, central⟩, he, h⟩ := exists_ok_of_bind h
      obtain ⟨⟨locals', directory'⟩, hr, h⟩ := exists_ok_of_bind h
      cases h
      obtain ⟨hf, rfl, rfl⟩ := record_eq_ok_iff.1 he
      obtain ⟨hrest, rfl, rfl⟩ := ih.1 hr
      exact ⟨⟨hf, hrest⟩, rfl, rfl⟩
    · rintro ⟨⟨hf, hrest⟩, rfl, rfl⟩
      have he := record_eq_ok_iff.2 ⟨hf, rfl, rfl⟩
      have hr := ih.2 ⟨hrest, rfl, rfl⟩
      exact bind_eq_ok he (bind_eq_ok hr rfl)

def imageOf (deflate : Bytes → Option Bytes) (comment : String) (entries : List Entry) : Image :=
  let members := membersFrom deflate 0 entries
  let locals := members.flatMap Member.localRecord
  let directory := members.flatMap Member.centralRecord
  { members := members
    ending := ⟨0, 0, entries.length, entries.length, directory.length, locals.length,
      (Text.toBytes comment).length⟩
    comment := Text.toBytes comment
    endOffset := locals.length + directory.length }

/-- An archive of entries is built exactly if all numbers fit their fields. -/
theorem build_eq_ok_iff :
    build deflate comment entries = .ok bytes ↔
      (FitFrom deflate 0 entries ∧ (imageOf deflate comment entries).ending.Fits) ∧
        bytes = (imageOf deflate comment entries).toBytes := by
  constructor
  · intro h
    obtain ⟨⟨locals, directory⟩, hr, h⟩ := exists_ok_of_bind h
    obtain ⟨_, hcount, h⟩ := exists_ok_of_bind h
    obtain ⟨_, hlocals, h⟩ := exists_ok_of_bind h
    obtain ⟨_, hdirectory, h⟩ := exists_ok_of_bind h
    obtain ⟨_, hcomment, h⟩ := exists_ok_of_bind h
    cases h
    obtain ⟨hf, rfl, rfl⟩ := records_eq_ok_iff.1 hr
    have hdisk : FitsIn 2 0 := by decide
    refine ⟨⟨hf, ?_⟩, rfl⟩
    exact .cons hdisk <| .cons hdisk <| .cons (fitsIn_of_fit hcount) <|
      .cons (fitsIn_of_fit hcount) <| .cons (fitsIn_of_fit hdirectory) <|
      .cons (fitsIn_of_fit hlocals) <| .cons (fitsIn_of_fit hcomment) .nil
  · rintro ⟨⟨hf, hend⟩, rfl⟩
    have hr := records_eq_ok_iff.2 ⟨hf, rfl, rfl⟩
    simp only [EndRecord.Fits, imageOf, Fits, List.forall₂_cons] at hend
    obtain ⟨-, -, hcount, -, hdirectory, hlocals, hcomment, -⟩ := hend
    exact bind_eq_ok hr <| bind_eq_ok (fit_eq_ok hcount _) <| bind_eq_ok (fit_eq_ok hlocals _) <|
      bind_eq_ok (fit_eq_ok hdirectory _) <| bind_eq_ok (fit_eq_ok hcomment _) rfl

theorem build_eq_ok (ht : ∀ e ∈ entries, e.modified.Packable)
    (h : build deflate comment entries = .ok bytes) :
    (imageOf deflate comment entries).Tiled ∧ bytes = (imageOf deflate comment entries).toBytes := by
  obtain ⟨⟨hf, hend⟩, rfl⟩ := build_eq_ok_iff.1 h
  exact ⟨⟨hf.sound ht, chained_membersFrom deflate 0 entries, hend,
    (length_membersFrom deflate 0 entries).symm, rfl, rfl, rfl, rfl⟩, rfl⟩

theorem packageComment_nonzero : 0 ∉ Text.toBytes packageComment := by decide

theorem packageComment_short : (Text.toBytes packageComment).length < 256 := by decide

/-- Reading undoes the writing of an archive. -/
theorem build_recovers {deflate : Bytes → Option Bytes} {entries : List Entry} {bytes : Bytes}
    (hd : ∀ e ∈ entries, ∀ packed,
      deflate e.data = some packed → Inflate.inflate? packed = some e.data)
    (ht : ∀ e ∈ entries, e.modified.Packable)
    (h : build deflate packageComment entries = .ok bytes) :
    ∃ image, read? bytes = some image ∧
      List.Forall₂ Member.Recovers image.members entries ∧
      bytes = image.toBytes ∧ image.comment = Text.toBytes packageComment ∧
      image.Tiled ∧ image.isSequential ∧ image.centralFollows ∧ image.centralFits := by
  obtain ⟨hi, rfl⟩ := build_eq_ok ht h
  refine ⟨imageOf deflate packageComment entries, ?_, membersFrom_recover ht hd, rfl, rfl, hi,
    hi.isSequential, hi.centralFollows, hi.centralFits⟩
  exact hi.read?_toBytes packageComment_nonzero packageComment_short

/-- The same path twice: a text with an odd second, and a file without data. -/
def noteEntries : List Entry :=
  [⟨"note.txt", Text.toBytes "ok", true, .ofSeconds 1000000001⟩,
    ⟨"note.txt", [], false, .ofSeconds 1000000000⟩]

theorem build_recovers_notes :
    ∃ bytes, build (fun data => some (Deflate.compress data)) packageComment noteEntries =
        .ok bytes ∧
      ∃ image, read? bytes = some image ∧
        List.Forall₂ Member.Recovers image.members noteEntries ∧
        bytes = image.toBytes ∧ image.comment = Text.toBytes packageComment ∧
        image.Tiled ∧ image.isSequential ∧ image.centralFollows ∧ image.centralFits := by
  have hd : ∀ e ∈ noteEntries, ∀ packed,
      some (Deflate.compress e.data) = some packed → Inflate.inflate? packed = some e.data := by
    have hi : ∀ e ∈ noteEntries, Inflate.inflate? (Deflate.compress e.data) = some e.data := by
      decide +kernel
    rintro e he packed ⟨⟩
    exact hi e he
  have ht : ∀ e ∈ noteEntries, e.modified.Packable := by
    intro e he
    rcases List.mem_pair.1 he with rfl | rfl
    · exact DateTime.packable_ofSeconds (by decide)
    · exact DateTime.packable_ofSeconds (by decide)
  have hok : (build (fun data => some (Deflate.compress data)) packageComment
      noteEntries).toOption.isSome := by
    decide +kernel
  cases h : build (fun data => some (Deflate.compress data)) packageComment noteEntries with
  | error overflow =>
    rw [h] at hok
    cases hok
  | ok bytes => exact ⟨bytes, rfl, build_recovers hd ht h⟩

end Worldsmith.Archive
