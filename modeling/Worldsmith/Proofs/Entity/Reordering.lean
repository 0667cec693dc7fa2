import Mathlib.Data.List.FinRange
import Worldsmith.Proofs.Entity.FreshIds

namespace Worldsmith.Remap

open Identified (name)

variable {α : Type} [Identified α] {table : SortedMap String Int} {l l' : List α} {e : α}

def freeIds (table : SortedMap String Int) (l : List α) : List Int :=
  (l.filter fun e => !table.contains (name e)).map Identified.id

def unlistedIds (table : SortedMap String Int) (l : List α) : List Int :=
  (unlisted table l).map Prod.fst

theorem others_ids (table : SortedMap String Int) (l : List α) :
    (others table l 0).map Prod.fst = freeIds table l := by
  have hzip : l = l.zipIdx.map Prod.fst := (List.zipIdx_map_fst 0 l).symm
  rw [freeIds, hzip, List.filter_map, List.map_map, ← hzip, others, List.map_map]
  rfl

theorem unlistedIds_perm (table : SortedMap String Int) (l : List α) :
    (unlistedIds table l).Perm (freeIds table l) := by
  rw [← others_ids, unlistedIds, unlisted_eq]
  exact (List.mergeSort_perm _ _).map Prod.fst

theorem unlistedIds_ascending (h : (freeIds table l).Nodup) :
    (unlistedIds table l).Pairwise (· < ·) := by
  have hne := (unlistedIds_perm table l).nodup_iff.2 h
  rw [unlistedIds, List.pairwise_map]
  refine (unlisted_ascending table l).imp₂ (fun a b hab hne => ?_) (List.pairwise_map.1 hne)
  rcases hab with hlt | ⟨heq, -⟩
  · exact hlt
  · exact absurd heq hne

theorem eq_of_perm_ascending {ids ids' : List Int} (h : ids.Pairwise (· < ·))
    (h' : ids'.Pairwise (· < ·)) (hp : ids.Perm ids') : ids = ids' :=
  hp.eq_of_pairwise (fun _ _ _ _ hab hba => absurd hab (Int.lt_asymm hba)) h h'

/-- The new id of an entity by the old one, without its position. -/
def reassign (table : SortedMap String Int) (ids : List Int) (e : α) : α :=
  match table.get? (name e) with
  | some id => Identified.setId e id
  | none => Identified.setId e (word (firstFree table + ids.idxOf (Identified.id e)))

theorem idxOf_map_fst {order : List (Int × Nat)} (hn : (order.map Prod.fst).Nodup)
    {x : Int × Nat} (hx : x ∈ order) : (order.map Prod.fst).idxOf x.1 = order.idxOf x := by
  have hlt : order.idxOf x < (order.map Prod.fst).length := by
    rw [List.length_map]
    exact List.idxOf_lt_length_of_mem hx
  have hget : (order.map Prod.fst)[order.idxOf x] = x.1 := by
    rw [List.getElem_map, List.getElem_idxOf]
  rw [← hget, hn.idxOf_getElem]

/-- Where no id stands twice, positions decide nothing. -/
theorem apply_eq_map (h : table.isEmpty = false) (hn : (freeIds table l).Nodup) :
    (apply table l).1 = l.map (reassign table (unlistedIds table l)) := by
  refine List.ext_getElem? fun i => ?_
  rw [getElem?_apply h, List.getElem?_map]
  refine Option.map_congr fun e he => ?_
  rw [renumber, reassign]
  cases ht : table.get? (name e) with
  | some id => rfl
  | none =>
    have hmem : (Identified.id e, i) ∈ unlisted table l := mem_unlisted_iff.2 ⟨e, he, rfl, ht⟩
    have hids := (unlistedIds_perm table l).nodup_iff.2 hn
    dsimp only
    rw [unlistedIds, idxOf_map_fst hids hmem]

theorem apply_snd (h : table.isEmpty = false) (l : List α) :
    (apply table l).2 = (unlistedIds table l).length := by
  rw [apply, if_neg (by simp [h]), unlistedIds, List.length_map]

theorem apply_of_table_isEmpty (h : table.isEmpty = true) (l : List α) :
    apply table l = (l, 0) := by
  rw [apply, if_pos h]

theorem freeIds_perm (h : l'.Perm l) : (freeIds table l').Perm (freeIds table l) :=
  (h.filter _).map _

theorem unlistedIds_eq_of_perm (hn : (freeIds table l).Nodup) (h : l'.Perm l) :
    unlistedIds table l' = unlistedIds table l := by
  have hp : (freeIds table l').Perm (freeIds table l) := freeIds_perm h
  refine eq_of_perm_ascending (unlistedIds_ascending (hp.nodup_iff.2 hn))
    (unlistedIds_ascending hn) ?_
  exact (unlistedIds_perm table l').trans (hp.trans (unlistedIds_perm table l).symm)

/-- There is one new id for each entity, in whatever order the entities stand. -/
theorem exists_reassignment (hn : (freeIds table l).Nodup) :
    ∃ f : α → α, ∀ l' : List α, l'.Perm l → apply table l' = (l'.map f, (apply table l).2) := by
  cases h : table.isEmpty with
  | true =>
    refine ⟨id, fun l' _ => ?_⟩
    rw [apply_of_table_isEmpty h, apply_of_table_isEmpty h, List.map_id]
  | false =>
    refine ⟨reassign table (unlistedIds table l), fun l' hp => ?_⟩
    have hids := unlistedIds_eq_of_perm hn hp
    have hfst : (apply table l').1 = l'.map (reassign table (unlistedIds table l)) := by
      rw [apply_eq_map h ((freeIds_perm hp).nodup_iff.2 hn), hids]
    have hsnd : (apply table l').2 = (apply table l).2 := by
      rw [apply_snd h, apply_snd h, hids]
    exact Prod.ext hfst hsnd

def consecutive (first : Int) (n : Nat) : List Int :=
  (List.range n).map fun k : Nat => first + k

theorem consecutive_ascending (first : Int) (n : Nat) :
    (consecutive first n).Pairwise (· < ·) := by
  rw [consecutive, List.pairwise_map]
  exact List.pairwise_lt_range.imp fun hlt => by omega

theorem consecutive_nodup (first : Int) (n : Nat) : (consecutive first n).Nodup :=
  (consecutive_ascending first n).imp Int.ne_of_lt

theorem add_idxOf_consecutive {first id : Int} {n : Nat} (h : id ∈ consecutive first n) :
    first + (consecutive first n).idxOf id = id := by
  obtain ⟨k, hk, rfl⟩ := List.mem_iff_getElem.1 h
  rw [(consecutive_nodup first n).idxOf_getElem]
  simp [consecutive]

theorem map_idxOf_self {order : List (Int × Nat)} (h : order.Nodup) :
    order.map order.idxOf = List.range order.length := by
  refine List.ext_getElem (by simp) fun k hk hk' => ?_
  rw [List.getElem_map, h.idxOf_getElem, List.getElem_range]

variable [LawfulIdentified α]

theorem name_renumber (order : List (Int × Nat)) (e : α × Nat) :
    name (renumber table order e) = name e.1 := by
  rw [renumber]
  split <;> exact LawfulIdentified.name_setId _ _

theorem Fits.freeIds_apply (hfits : Fits table l) (h : table.isEmpty = false) :
    (freeIds table (apply table l).1).Perm
      (consecutive (firstFree table) (unlisted table l).length) := by
  have hnames : (fun e => !table.contains (name e)) ∘ renumber table (unlisted table l) =
      fun e : α × Nat => !table.contains (name e.1) :=
    funext fun e => congrArg (!table.contains ·) (name_renumber _ e)
  have hids : freeIds table (apply table l).1 =
      (others table l 0).map fun x => firstFree table + (unlisted table l).idxOf x := by
    rw [freeIds, apply_of_not_isEmpty h, List.filter_map, List.map_map, hnames, others,
      List.map_map]
    refine List.map_congr_left fun e he => ?_
    obtain ⟨hzip, hcontains⟩ := List.mem_filter.1 he
    have hno : table.get? (name e.1) = none := by simpa [SortedMap.contains] using hcontains
    exact hfits.id_fresh h (List.mem_zipIdx_iff_getElem?.1 hzip) hno
  have hperm : (others table l 0).Perm (unlisted table l) := (List.mergeSort_perm _ _).symm
  rw [hids, consecutive, ← map_idxOf_self (unlisted_nodup table l), List.map_map]
  exact hperm.map _

theorem Fits.freeIds_apply_nodup (hfits : Fits table l) (h : table.isEmpty = false) :
    (freeIds table (apply table l).1).Nodup :=
  (hfits.freeIds_apply h).nodup_iff.2 (consecutive_nodup _ _)

/-- The first time leaves ids that follow each other, in the order in which they were given. -/
theorem Fits.unlistedIds_apply (hfits : Fits table l) (h : table.isEmpty = false) :
    unlistedIds table (apply table l).1 =
      consecutive (firstFree table) (unlisted table l).length := by
  refine eq_of_perm_ascending (unlistedIds_ascending (hfits.freeIds_apply_nodup h))
    (consecutive_ascending _ _) ?_
  exact (unlistedIds_perm table _).trans (hfits.freeIds_apply h)

theorem id_of_mem_apply (h : table.isEmpty = false) {id : Int} (he : e ∈ (apply table l).1)
    (ht : table.get? (name e) = some id) : Identified.id e = id := by
  obtain ⟨i, hi⟩ := List.mem_iff_getElem?.1 he
  rw [getElem?_apply h] at hi
  obtain ⟨a, -, rfl⟩ := Option.map_eq_some_iff.1 hi
  rw [name_renumber] at ht
  exact id_renumber_listed _ ht

theorem Fits.reassign_of_mem_apply (hfits : Fits table l) (h : table.isEmpty = false)
    (he : e ∈ (apply table l).1) :
    reassign table (unlistedIds table (apply table l).1) e = e := by
  rw [reassign]
  cases ht : table.get? (name e) with
  | some id =>
    have hid := id_of_mem_apply h he ht
    dsimp only
    rw [← hid]
    exact LawfulIdentified.setId_id e
  | none =>
    have hfree : Identified.id e ∈ freeIds table (apply table l).1 :=
      List.mem_map_of_mem (List.mem_filter.2 ⟨he, by simp [SortedMap.contains, ht]⟩)
    have hmem := (hfits.freeIds_apply h).subset hfree
    have hlt : (consecutive (firstFree table) (unlisted table l).length).idxOf (Identified.id e) <
        (unlisted table l).length := by
      simpa [consecutive] using List.idxOf_lt_length_of_mem hmem
    dsimp only
    rw [hfits.unlistedIds_apply h, hfits.word_number h hlt, add_idxOf_consecutive hmem]
    exact LawfulIdentified.setId_id e

theorem Fits.apply_apply (hfits : Fits table l) :
    apply table (apply table l).1 = apply table l := by
  cases h : table.isEmpty with
  | true => rw [apply_of_table_isEmpty h, apply_of_table_isEmpty h]
  | false =>
    have hfst : (apply table (apply table l).1).1 = (apply table l).1 := by
      rw [apply_eq_map h (hfits.freeIds_apply_nodup h)]
      exact (List.map_congr_left fun e he => hfits.reassign_of_mem_apply h he).trans (List.map_id _)
    have hsnd : (apply table (apply table l).1).2 = (apply table l).2 := by
      rw [apply_snd h, apply_snd h, hfits.unlistedIds_apply h]
      simp [consecutive, unlistedIds]
    exact Prod.ext hfst hsnd

end Worldsmith.Remap
