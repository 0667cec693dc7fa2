import Mathlib.Data.List.Forall2
import Worldsmith.Archive.Record

namespace Worldsmith.Archive

variable {bytes rest : Bytes}

/-- A number that a field of `width` bytes can hold. -/
abbrev FitsIn (width n : Nat) : Prop := n < Nat.pow 256 width

theorem fitsIn_succ_iff {width n : Nat} : FitsIn (width + 1) n ↔ FitsIn width (n / 256) :=
  (Nat.div_lt_iff_lt_mul (by decide)).symm

section Rows
variable {width n signature : Nat} {widths values : List Nat}

@[simp] theorem length_littleEndian (width n : Nat) : (littleEndian width n).length = width := by
  induction width generalizing n with
  | zero => rfl
  | succ width ih => rw [littleEndian, List.length_cons, ih]

theorem littleEndian_succ_add (width : Nat) (b : UInt8) (n : Nat) :
    littleEndian (width + 1) (b.toNat + 256 * n) = b :: littleEndian width n := by
  have hb := b.toNat_lt
  have hd : (b.toNat + 256 * n) / 256 = n := by omega
  have hm : (b.toNat + 256 * n).toUInt8 = b := by
    apply UInt8.toNat_inj.1
    rw [UInt8.toNat_ofNat']
    omega
  rw [littleEndian, hd, hm]

theorem readNumber?_eq_some :
    readNumber? width bytes = some (n, rest) ↔
      FitsIn width n ∧ bytes = littleEndian width n ++ rest := by
  induction width generalizing n bytes with
  | zero =>
    constructor
    · intro h
      cases h
      exact ⟨Nat.zero_lt_one, rfl⟩
    · rintro ⟨hn, rfl⟩
      cases Nat.lt_one_iff.1 hn
      rfl
  | succ width ih =>
    constructor
    · intro h
      cases bytes with
      | nil => cases h
      | cons b bytes =>
        obtain ⟨⟨high, rest'⟩, hr, he⟩ := Option.bind_eq_some_iff.1 h
        cases he
        obtain ⟨hlt, rfl⟩ := ih.1 hr
        have hb := b.toNat_lt
        have hd : (b.toNat + 256 * high) / 256 = high := by omega
        exact ⟨fitsIn_succ_iff.2 (hd.symm ▸ hlt), by rw [littleEndian_succ_add]; rfl⟩
    · rintro ⟨hlt, rfl⟩
      have hr := ih.2 ⟨fitsIn_succ_iff.1 hlt, rfl⟩
      have hn : n.toUInt8.toNat + 256 * (n / 256) = n := by
        rw [UInt8.toNat_ofNat']
        omega
      simp only [littleEndian, List.cons_append, readNumber?, hr]
      exact congrArg (fun n => some (n, rest)) hn

abbrev Fits (widths values : List Nat) : Prop :=
  List.Forall₂ FitsIn widths values

theorem readNumber?_littleEndian (h : FitsIn width n) :
    readNumber? width (littleEndian width n ++ rest) = some (n, rest) :=
  readNumber?_eq_some.2 ⟨h, rfl⟩

theorem readRow?_eq_some :
    readRow? widths bytes = some (values, rest) ↔
      Fits widths values ∧ bytes = writeRow widths values ++ rest := by
  induction widths generalizing values bytes with
  | nil =>
    simp only [readRow?, Option.some.injEq, Prod.mk.injEq, List.forall₂_nil_left_iff]
    constructor
    · rintro ⟨rfl, rfl⟩
      exact ⟨rfl, rfl⟩
    · rintro ⟨rfl, rfl⟩
      exact ⟨rfl, rfl⟩
  | cons width widths ih =>
    have hw (n : Nat) (row : List Nat) :
        writeRow (width :: widths) (n :: row) = littleEndian width n ++ writeRow widths row := rfl
    constructor
    · intro h
      obtain ⟨⟨n, rest'⟩, hn, h⟩ := Option.bind_eq_some_iff.1 h
      obtain ⟨⟨row, rest''⟩, hr, h⟩ := Option.bind_eq_some_iff.1 h
      cases h
      obtain ⟨hlt, rfl⟩ := readNumber?_eq_some.1 hn
      obtain ⟨hf, rfl⟩ := ih.1 hr
      exact ⟨.cons hlt hf, by rw [hw, List.append_assoc]⟩
    · rintro ⟨hf, rfl⟩
      cases hf with
      | @cons _ n _ row hlt hf =>
        have hr : readRow? widths (writeRow widths row ++ rest) = some (row, rest) :=
          ih.2 ⟨hf, rfl⟩
        rw [hw, List.append_assoc, readRow?, readNumber?_littleEndian hlt]
        simp only [Option.bind_eq_bind, Option.bind_some, hr]
        rfl

theorem readRow?_writeRow (h : Fits widths values) :
    readRow? widths (writeRow widths values ++ rest) = some (values, rest) :=
  readRow?_eq_some.2 ⟨h, rfl⟩

theorem readSignature?_eq_some (h : FitsIn 4 signature) :
    readSignature? signature bytes = some rest ↔ bytes = littleEndian 4 signature ++ rest := by
  constructor
  · intro hr
    obtain ⟨⟨n, rest'⟩, hn, hr⟩ := Option.bind_eq_some_iff.1 hr
    obtain ⟨he, hr⟩ := Option.ite_none_right_eq_some.1 hr
    cases hr
    exact he ▸ (readNumber?_eq_some.1 hn).2
  · rintro rfl
    rw [readSignature?, readNumber?_littleEndian h]
    exact if_pos rfl

theorem readSignature?_append (h : FitsIn 4 signature) :
    readSignature? signature (littleEndian 4 signature ++ rest) = some rest :=
  (readSignature?_eq_some h).2 rfl

theorem take?_append (front : Bytes) : take? front.length (front ++ rest) = some (front, rest) := by
  rw [take?, List.length_append, if_pos (Nat.le_add_right _ _), List.take_left, List.drop_left]

end Rows

namespace Header

variable {h : Header}

protected def Fits (h : Header) : Prop := Fits widths h.toRow

theorem read?_toBytes (hf : h.Fits) : read? (h.toBytes ++ rest) = some (h, rest) := by
  rw [read?, toBytes, readRow?_writeRow hf]
  rfl

@[simp] theorem length_toBytes (h : Header) : h.toBytes.length = 26 := by
  simp [toBytes, writeRow, widths, toRow]

end Header

namespace CentralHeader

variable {c : CentralHeader}

protected structure Fits (c : CentralHeader) : Prop where
  madeBy : FitsIn 2 c.madeBy
  header : c.header.Fits
  row : Fits [2, 2, 2, 4, 4] [c.commentLength, c.disk, c.internal, c.external, c.offset]

theorem read?_toBytes (h : c.Fits) : read? (c.toBytes ++ rest) = some (c, rest) := by
  have hs : FitsIn 4 centralSignature := by decide
  simp only [toBytes, List.append_assoc, read?, readSignature?_append hs,
    readNumber?_littleEndian h.madeBy, Header.read?_toBytes h.header,
    readRow?_writeRow h.row, Option.bind_eq_bind, Option.bind_some]
  rfl

@[simp] theorem length_toBytes (c : CentralHeader) : c.toBytes.length = 46 := by
  simp [toBytes, writeRow]

end CentralHeader

namespace EndRecord

variable {r : EndRecord}

protected def Fits (r : EndRecord) : Prop :=
  Fits [2, 2, 2, 2, 4, 4, 2]
    [r.disk, r.centralDisk, r.diskCount, r.count, r.centralSize, r.centralOffset, r.commentLength]

theorem read?_eq_some : read? bytes = some (r, rest) ↔ r.Fits ∧ bytes = r.toBytes ++ rest := by
  have hs : FitsIn 4 endSignature := by decide
  constructor
  · intro h
    obtain ⟨rest', hb, h⟩ := Option.bind_eq_some_iff.1 h
    obtain ⟨⟨row, rest''⟩, hr, h⟩ := Option.bind_eq_some_iff.1 h
    split at h
    · next he =>
      cases he
      cases h
      obtain ⟨hf, rfl⟩ := readRow?_eq_some.1 hr
      exact ⟨hf, by rw [(readSignature?_eq_some hs).1 hb, toBytes, List.append_assoc]⟩
    · cases h
  · rintro ⟨hf, rfl⟩
    rw [toBytes, List.append_assoc, read?, readSignature?_append hs, Option.bind_eq_bind,
      Option.bind_some, readRow?_writeRow hf]
    rfl

@[simp] theorem length_toBytes (r : EndRecord) : r.toBytes.length = length := by
  simp [toBytes, writeRow, length]

end EndRecord

end Worldsmith.Archive
