import Mathlib.Data.List.Nodup
import Worldsmith.Proofs.Entity.Renumbering
import Worldsmith.Proofs.SortedMap

namespace Worldsmith.Remap

open Identified (name unnumbered)

variable {α : Type} [Identified α] {table : SortedMap String Int} {l : List α}

theorem foldl_max_eq {values : List Int} {largest : Int} (h : values.max? = some largest)
    (a : Int) : values.foldl (fun m id => max m (id + 1)) a = max a (largest + 1) := by
  induction values generalizing a largest with
  | nil => cases h
  | cons x values ih =>
    rw [List.max?_cons] at h
    rw [List.foldl_cons]
    cases hrest : values.max? with
    | none =>
      rw [hrest] at h
      cases h
      rw [List.max?_eq_none_iff.1 hrest]
      rfl
    | some m =>
      rw [hrest] at h
      cases h
      rw [ih hrest]
      change max (max a (x + 1)) (m + 1) = max a (max x m + 1)
      omega

/-- The ids of the table are 64-bit integers, and so are all numbers that may be given behind the
largest of them, with the one that would be next. -/
def Fits (table : SortedMap String Int) (l : List α) : Prop :=
  ∀ id ∈ table.values, IsInt64 id ∧
    IsInt64 (max 0 (id + 1) + (l.filter fun e => !table.contains (name e)).length)

instance : Decidable (Fits table l) := List.decidableBAll _ _

theorem Fits.word_succ (h : Fits table l) {id : Int} (hid : id ∈ table.values) :
    word (id + 1) = id + 1 := by
  obtain ⟨⟨hlow, -⟩, -, hroom⟩ := h id hid
  exact IsInt64.word_eq ⟨by omega, by omega⟩

theorem Fits.firstFree_eq (hfits : Fits table l) (h : table.isEmpty = false) :
    ∃ largest, table.values.max? = some largest ∧ firstFree table = max 0 (largest + 1) := by
  have hexact : firstFree table = table.values.foldl (fun m id => max m (id + 1)) 0 :=
    List.foldl_ext _ _ _ fun m id hid => by rw [hfits.word_succ hid]
  cases hmax : table.values.max? with
  | none =>
    have hnil : table.entries = [] := List.map_eq_nil_iff.1 (List.max?_eq_none_iff.1 hmax)
    rw [SortedMap.isEmpty, hnil] at h
    cases h
  | some largest => exact ⟨largest, rfl, hexact.trans (foldl_max_eq hmax 0)⟩

theorem Fits.lt_firstFree (hfits : Fits table l) (h : table.isEmpty = false) {key : String}
    {id : Int} (hget : table.get? key = some id) : id < firstFree table := by
  obtain ⟨largest, hmax, hfirst⟩ := hfits.firstFree_eq h
  have hmem : id ∈ table.values := List.mem_map_of_mem (SortedMap.get?_eq_some_iff.1 hget)
  have hle : id ≤ largest := (List.max?_eq_some_iff.1 hmax).2 id hmem
  omega

theorem length_unlisted (table : SortedMap String Int) (l : List α) :
    (unlisted table l).length = (l.filter fun e => !table.contains (name e)).length := by
  have hzip : l.filter (fun e => !table.contains (name e)) =
      (l.zipIdx.filter fun e => !table.contains (name e.1)).map Prod.fst := by
    conv_lhs => rw [← List.zipIdx_map_fst 0 l, List.filter_map]
    rfl
  rw [hzip, unlisted_eq, List.length_mergeSort, others, List.length_map, List.length_map]

theorem Fits.word_number (hfits : Fits table l) (h : table.isEmpty = false) {k : Nat}
    (hk : k < (unlisted table l).length) :
    word (firstFree table + k) = firstFree table + k := by
  obtain ⟨largest, hmax, hfirst⟩ := hfits.firstFree_eq h
  obtain ⟨-, -, hroom⟩ := hfits largest (List.max?_eq_some_iff.1 hmax).1
  rw [← length_unlisted, ← hfirst] at hroom
  exact IsInt64.word_eq ⟨by omega, by omega⟩

def Earlier (a b : Int × Nat) : Prop := a.1 < b.1 ∨ a.1 = b.1 ∧ a.2 < b.2

theorem earlier_of_precedes {a b : Int × Nat} (h : precedes a b) (hne : a ≠ b) : Earlier a b := by
  simp only [precedes, Bool.or_eq_true, Bool.and_eq_true, decide_eq_true_eq, beq_iff_eq] at h
  rcases h with hlt | ⟨heq, hle⟩
  · exact .inl hlt
  · have hpos : a.2 ≠ b.2 := fun hpos => hne (Prod.ext heq hpos)
    exact .inr ⟨heq, Nat.lt_of_le_of_ne hle hpos⟩

theorem mem_unlisted_iff {id : Int} {i : Nat} : (id, i) ∈ unlisted table l ↔
    ∃ e, l[i]? = some e ∧ Identified.id e = id ∧ table.get? (name e) = none := by
  rw [unlisted_eq, List.mem_mergeSort, others, List.mem_map]
  constructor
  · rintro ⟨⟨e, j⟩, hmem, heq⟩
    cases heq
    obtain ⟨hzip, hno⟩ := List.mem_filter.1 hmem
    refine ⟨e, List.mem_zipIdx_iff_getElem?.1 hzip, rfl, ?_⟩
    simpa [SortedMap.contains] using hno
  · rintro ⟨e, he, rfl, hno⟩
    refine ⟨(e, i), List.mem_filter.2 ⟨List.mem_zipIdx_iff_getElem?.2 he, ?_⟩, rfl⟩
    simp [SortedMap.contains, hno]

theorem unlisted_nodup (table : SortedMap String Int) (l : List α) : (unlisted table l).Nodup := by
  rw [unlisted_eq, (List.mergeSort_perm _ _).nodup_iff]
  apply List.Nodup.of_map Prod.snd
  have hpositions : ((others table l 0).map Prod.snd).Sublist (l.zipIdx.map Prod.snd) := by
    rw [others, List.map_map]
    exact List.filter_sublist.map Prod.snd
  rw [List.zipIdx_map_snd] at hpositions
  exact hpositions.nodup List.nodup_range'

theorem unlisted_ascending (table : SortedMap String Int) (l : List α) :
    (unlisted table l).Pairwise Earlier :=
  (pairwise_unlisted _).imp₂ (fun _ _ => earlier_of_precedes) (unlisted_nodup table l)

theorem getElem?_apply (h : table.isEmpty = false) (i : Nat) : (apply table l).1[i]? =
    l[i]?.map fun e => renumber table (unlisted table l) (e, i) := by
  rw [apply_of_not_isEmpty h, List.getElem?_map, List.getElem?_zipIdx, Option.map_map, Nat.zero_add]
  rfl

variable [LawfulIdentified α]

theorem id_renumber_listed {e : α} {i : Nat} {id : Int} (order : List (Int × Nat))
    (h : table.get? (name e) = some id) : Identified.id (renumber table order (e, i)) = id := by
  rw [renumber, h]
  exact LawfulIdentified.id_setId _ _

theorem id_renumber_unlisted {e : α} {i : Nat} (order : List (Int × Nat))
    (h : table.get? (name e) = none) : Identified.id (renumber table order (e, i)) =
      word (firstFree table + order.idxOf (Identified.id e, i)) := by
  rw [renumber, h]
  exact LawfulIdentified.id_setId _ _

/-- What a table makes of a list, where `order` has those that it does not name, by old id and
position. -/
structure Numbers (table : SortedMap String Int) (l : List α) (first : Int)
    (order : List (Int × Nat)) (result : List α × Nat) : Prop where
  ascending : order.Pairwise Earlier
  covers : ∀ id i, (id, i) ∈ order ↔
    ∃ e, l[i]? = some e ∧ Identified.id e = id ∧ table.get? (name e) = none
  names : result.1.map name = l.map name
  kept : result.1.map unnumbered = l.map unnumbered
  listed : ∀ (i : Nat) e id, l[i]? = some e → table.get? (name e) = some id →
    result.1[i]?.map Identified.id = some id
  fresh : ∀ (k : Nat) id i, order[k]? = some (id, i) →
    result.1[i]?.map Identified.id = some (first + k)
  counted : result.2 = order.length
  shared : ∀ (i j : Nat) a b, result.1[i]? = some a → result.1[j]? = some b → i ≠ j →
    Identified.id a = Identified.id b →
      ∃ id, table.get? (name a) = some id ∧ table.get? (name b) = some id

theorem Fits.id_fresh (hfits : Fits table l) (h : table.isEmpty = false) {e : α} {i : Nat}
    (he : l[i]? = some e) (hno : table.get? (name e) = none) :
    Identified.id (renumber table (unlisted table l) (e, i)) =
      firstFree table + (unlisted table l).idxOf (Identified.id e, i) := by
  have hmem : (Identified.id e, i) ∈ unlisted table l := mem_unlisted_iff.2 ⟨e, he, rfl, hno⟩
  rw [id_renumber_unlisted _ hno, hfits.word_number h (List.idxOf_lt_length_of_mem hmem)]

theorem Fits.apply_fresh (hfits : Fits table l) (h : table.isEmpty = false) {k i : Nat} {id : Int}
    (hk : (unlisted table l)[k]? = some (id, i)) :
    (apply table l).1[i]?.map Identified.id = some (firstFree table + k) := by
  obtain ⟨e, he, rfl, hno⟩ := mem_unlisted_iff.1 (List.mem_of_getElem? hk)
  obtain ⟨hlt, hget⟩ := List.getElem?_eq_some_iff.1 hk
  rw [getElem?_apply h, he, Option.map_some, Option.map_some, hfits.id_fresh h he hno, ← hget,
    (unlisted_nodup table l).idxOf_getElem]

theorem Fits.apply_shared (hfits : Fits table l) (h : table.isEmpty = false) {i j : Nat} {a b : α}
    (ha : (apply table l).1[i]? = some a) (hb : (apply table l).1[j]? = some b) (hij : i ≠ j)
    (hid : Identified.id a = Identified.id b) :
    ∃ id, table.get? (name a) = some id ∧ table.get? (name b) = some id := by
  rw [getElem?_apply h] at ha hb
  obtain ⟨x, hx, rfl⟩ := Option.map_eq_some_iff.1 ha
  obtain ⟨y, hy, rfl⟩ := Option.map_eq_some_iff.1 hb
  have hname (e : α) (i : Nat) : name (renumber table (unlisted table l) (e, i)) = name e := by
    rw [renumber]
    split <;> exact LawfulIdentified.name_setId _ _
  rw [hname, hname]
  -- The ids of the table lie below all fresh ones, and two fresh ones differ as their places do.
  cases hnx : table.get? (name x) with
  | some id =>
    rw [id_renumber_listed _ hnx] at hid
    cases hny : table.get? (name y) with
    | some id' =>
      rw [id_renumber_listed _ hny] at hid
      exact ⟨id, rfl, by rw [hid]⟩
    | none =>
      rw [hfits.id_fresh h hy hny] at hid
      have hlt := hfits.lt_firstFree h hnx
      omega
  | none =>
    rw [hfits.id_fresh h hx hnx] at hid
    cases hny : table.get? (name y) with
    | some id' =>
      rw [id_renumber_listed _ hny] at hid
      have hlt := hfits.lt_firstFree h hny
      omega
    | none =>
      rw [hfits.id_fresh h hy hny] at hid
      have hmem := mem_unlisted_iff.2 ⟨x, hx, rfl, hnx⟩
      have heq : (Identified.id x, i) = (Identified.id y, j) :=
        (List.idxOf_inj hmem).1 (by omega)
      exact absurd (congrArg Prod.snd heq) hij

def numberedItem (name : String) (id : Int) : Item :=
  ⟨id, name, none, .type id, 1, false, {}⟩

end Worldsmith.Remap
