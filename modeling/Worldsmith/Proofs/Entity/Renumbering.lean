import Worldsmith.Catalog.Basic

namespace Worldsmith

/-- The name and the id of an entity are two fields of it. -/
class LawfulIdentified (α : Type) [Identified α] : Prop where
  name_setId (e : α) (i : Int) : Identified.name (Identified.setId e i) = Identified.name e
  id_setId (e : α) (i : Int) : Identified.id (Identified.setId e i) = i
  setId_id (e : α) : Identified.setId e (Identified.id e) = e
  setId_setId (e : α) (i j : Int) :
    Identified.setId (Identified.setId e i) j = Identified.setId e j

instance : LawfulIdentified Item := ⟨fun _ _ => rfl, fun _ _ => rfl, fun _ => rfl, fun _ _ _ => rfl⟩

instance : LawfulIdentified Location :=
  ⟨fun _ _ => rfl, fun _ _ => rfl, fun _ => rfl, fun _ _ _ => rfl⟩

/-- What is left of an entity without its id. -/
def Identified.unnumbered {α : Type} [Identified α] (e : α) : α := Identified.setId e 0

namespace Remap

open Identified (name unnumbered)

variable {α : Type} [Identified α] {table : SortedMap String Int} {l m : List α}

def precedes (a b : Int × Nat) : Bool := a.1 < b.1 || (a.1 == b.1 && a.2 ≤ b.2)

theorem precedes_trans (a b c : Int × Nat) (hab : precedes a b) (hbc : precedes b c) :
    precedes a c := by
  simp only [precedes, Bool.or_eq_true, Bool.and_eq_true, decide_eq_true_eq, beq_iff_eq] at *
  omega

theorem precedes_total (a b : Int × Nat) : precedes a b || precedes b a := by
  simp only [precedes, Bool.or_eq_true, Bool.and_eq_true, decide_eq_true_eq, beq_iff_eq]
  omega

theorem precedes_antisymm {a b : Int × Nat} (hab : precedes a b) (hba : precedes b a) : a = b := by
  simp only [precedes, Bool.or_eq_true, Bool.and_eq_true, decide_eq_true_eq, beq_iff_eq] at hab hba
  exact Prod.ext (by omega) (by omega)

def others (table : SortedMap String Int) (l : List α) (start : Nat) : List (Int × Nat) :=
  ((l.zipIdx start).filter fun e => !table.contains (name e.1)).map fun e =>
    (Identified.id e.1, e.2)

theorem unlisted_eq (table : SortedMap String Int) (l : List α) :
    unlisted table l = (others table l 0).mergeSort precedes := rfl

theorem mem_others {start : Nat} {e : Int × Nat} (h : e ∈ others table l start) :
    ∃ a ∈ l, e.1 = Identified.id a := by
  obtain ⟨⟨a, i⟩, ha, rfl⟩ := List.mem_map.1 h
  exact ⟨a, List.fst_mem_of_mem_zipIdx (List.mem_filter.1 ha).1, rfl⟩

theorem pairwise_unlisted (es : List (Int × Nat)) :
    (es.mergeSort precedes).Pairwise fun a b => precedes a b :=
  List.pairwise_mergeSort precedes_trans precedes_total es

theorem unlisted_append (h : ∀ a ∈ l, ∀ b ∈ m, Identified.id a < Identified.id b) :
    unlisted table (l ++ m) =
      unlisted table l ++ (others table m l.length).mergeSort precedes := by
  have ho : others table (l ++ m) 0 = others table l 0 ++ others table m l.length := by
    simp only [others, List.zipIdx_append, List.filter_append, List.map_append, Nat.zero_add]
  have hp : (unlisted table (l ++ m)).Perm
      (unlisted table l ++ (others table m l.length).mergeSort precedes) := by
    rw [unlisted_eq, unlisted_eq, ho]
    exact (List.mergeSort_perm _ _).trans
      ((List.mergeSort_perm _ _).symm.append (List.mergeSort_perm _ _).symm)
  refine hp.eq_of_pairwise (fun a b _ _ => precedes_antisymm) (pairwise_unlisted _) ?_
  refine List.pairwise_append.2 ⟨pairwise_unlisted _, pairwise_unlisted _, fun a ha b hb => ?_⟩
  obtain ⟨x, hx, hax⟩ := mem_others (List.mem_mergeSort.1 ha)
  obtain ⟨y, hy, hby⟩ := mem_others (List.mem_mergeSort.1 hb)
  have hlt := h x hx y hy
  simp only [precedes, Bool.or_eq_true, decide_eq_true_eq]
  omega

def renumber (table : SortedMap String Int) (order : List (Int × Nat)) (e : α × Nat) : α :=
  match table.get? (name e.1) with
  | some id => Identified.setId e.1 id
  | none => Identified.setId e.1 (word (firstFree table + order.idxOf (Identified.id e.1, e.2)))

theorem apply_of_isEmpty (h : table.isEmpty = true) (l : List α) : (apply table l).1 = l := by
  rw [apply, if_pos h]

theorem apply_of_not_isEmpty (h : table.isEmpty = false) (l : List α) :
    (apply table l).1 = l.zipIdx.map (renumber table (unlisted table l)) := by
  rw [apply, if_neg (by simp [h])]
  rfl

theorem unnumbered_renumber [LawfulIdentified α] (order : List (Int × Nat)) (e : α × Nat) :
    unnumbered (renumber table order e) = unnumbered e.1 := by
  rw [renumber]
  split <;> exact LawfulIdentified.setId_setId _ _ _

theorem map_unnumbered_renumber [LawfulIdentified α] (order : List (Int × Nat)) (l : List α)
    (start : Nat) :
    ((l.zipIdx start).map (renumber table order)).map unnumbered = l.map unnumbered := by
  rw [List.map_map]
  calc (l.zipIdx start).map (unnumbered ∘ renumber table order)
      = (l.zipIdx start).map (unnumbered ∘ Prod.fst) :=
        List.map_congr_left fun e _ => unnumbered_renumber order e
    _ = l.map unnumbered := by rw [← List.map_map, List.zipIdx_map_fst]

theorem map_unnumbered_apply [LawfulIdentified α] (table : SortedMap String Int) (l : List α) :
    (apply table l).1.map unnumbered = l.map unnumbered := by
  cases h : table.isEmpty with
  | true => rw [apply_of_isEmpty h]
  | false => rw [apply_of_not_isEmpty h, map_unnumbered_renumber]

theorem map_apply [LawfulIdentified α] {β : Type} (g : α → β) (hg : ∀ e, g (unnumbered e) = g e)
    (table : SortedMap String Int) (l : List α) : (apply table l).1.map g = l.map g := by
  have hcomp : g = g ∘ unnumbered := funext fun e => (hg e).symm
  rw [hcomp, ← List.map_map, map_unnumbered_apply, List.map_map]

theorem mem_unlisted {e : α × Nat} (he : e ∈ l.zipIdx) (hn : table.get? (name e.1) = none) :
    (Identified.id e.1, e.2) ∈ unlisted table l := by
  rw [unlisted_eq, List.mem_mergeSort]
  refine List.mem_map_of_mem (f := fun e : α × Nat => (Identified.id e.1, e.2))
    (List.mem_filter.2 ⟨he, ?_⟩)
  simp [SortedMap.contains, hn]

/-- Entities with larger ids behind a list are numbered behind it. -/
theorem apply_append [LawfulIdentified α] (table : SortedMap String Int)
    (h : ∀ a ∈ l, ∀ b ∈ m, Identified.id a < Identified.id b) :
    ∃ m', (apply table (l ++ m)).1 = (apply table l).1 ++ m' ∧
      m'.map unnumbered = m.map unnumbered := by
  cases ht : table.isEmpty with
  | true => exact ⟨m, by simp only [apply_of_isEmpty ht], rfl⟩
  | false =>
    refine ⟨(m.zipIdx l.length).map (renumber table (unlisted table (l ++ m))), ?_,
      map_unnumbered_renumber _ _ _⟩
    simp only [apply_of_not_isEmpty ht, List.zipIdx_append, List.map_append, Nat.zero_add]
    congr 1
    refine List.map_congr_left fun e he => ?_
    rw [renumber, renumber]
    split
    · rfl
    · next hn => rw [unlisted_append h, List.idxOf_append, if_pos (mem_unlisted he hn)]

end Remap

end Worldsmith
