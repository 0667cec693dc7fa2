import Mathlib
import Worldsmith.Proofs.Catalog.Conservation
import Worldsmith.Proofs.SortedMap

namespace Worldsmith

open Identified (name unnumbered)

def idTable {α : Type} [Identified α] (l : List α) : SortedMap String Int :=
  .ofList (l.map fun e => (name e, Identified.id e))

namespace Remap

variable {α : Type} [Identified α] {table : SortedMap String Int} {l l' : List α} {e e' : α}

theorem get?_idTable (h : (l.map name).Nodup) (he : e ∈ l) :
    (idTable l).get? (name e) = some (Identified.id e) := by
  have hkeys : ((l.map fun e => (name e, Identified.id e)).map Prod.fst).Nodup := by
    rw [List.map_map]
    exact h
  exact (SortedMap.get?_ofList_eq_some_iff hkeys).2 (List.mem_map_of_mem he)

variable [LawfulIdentified α]

theorem name_unnumbered (e : α) : name (unnumbered e) = name e := LawfulIdentified.name_setId e 0

theorem setId_eq_of_unnumbered (h : unnumbered e' = unnumbered e) :
    Identified.setId e (Identified.id e') = e' := by
  have hset : ∀ x : α, Identified.setId (unnumbered x) (Identified.id e') =
      Identified.setId x (Identified.id e') := fun x => LawfulIdentified.setId_setId x 0 _
  calc Identified.setId e (Identified.id e')
      = Identified.setId (unnumbered e) (Identified.id e') := (hset e).symm
    _ = Identified.setId (unnumbered e') (Identified.id e') := by rw [h]
    _ = Identified.setId e' (Identified.id e') := hset e'
    _ = e' := LawfulIdentified.setId_id e'

theorem renumber_of_get? (order : List (Int × Nat)) (position : Nat)
    (hu : unnumbered e' = unnumbered e) (ht : table.get? (name e') = some (Identified.id e')) :
    renumber table order (e, position) = e' := by
  have hname : name e = name e' := by
    rw [← name_unnumbered e, ← hu, name_unnumbered]
  rw [← hname] at ht
  rw [renumber, ht]
  exact setId_eq_of_unnumbered hu

theorem map_renumber_of_get? (order : List (Int × Nat)) (start : Nat)
    (hu : l'.map unnumbered = l.map unnumbered)
    (ht : ∀ e ∈ l', table.get? (name e) = some (Identified.id e)) :
    (l.zipIdx start).map (renumber table order) = l' := by
  induction l generalizing l' start with
  | nil =>
    rw [List.map_nil, List.map_eq_nil_iff] at hu
    rw [hu]
    rfl
  | cons e l ih =>
    cases l' with
    | nil => cases hu
    | cons e' l' =>
      rw [List.map_cons, List.map_cons, List.cons.injEq] at hu
      rw [List.forall_mem_cons] at ht
      rw [List.zipIdx_cons, List.map_cons, renumber_of_get? order start hu.1 ht.1,
        ih (start + 1) hu.2 ht.2]

/-- A table with the ids of all entities gives them these ids. -/
theorem apply_of_get? (hu : l'.map unnumbered = l.map unnumbered)
    (ht : ∀ e ∈ l', table.get? (name e) = some (Identified.id e)) : (apply table l).1 = l' := by
  cases hempty : table.isEmpty with
  | true =>
    have hl' : l' = [] := by
      refine List.eq_nil_iff_forall_not_mem.2 fun e he => ?_
      exact Option.some_ne_none _ ((ht e he).symm.trans (SortedMap.isEmpty_iff.1 hempty _))
    rw [hl', List.map_nil, eq_comm, List.map_eq_nil_iff] at hu
    rw [apply_of_isEmpty hempty, hu, hl']
  | false =>
    rw [apply_of_not_isEmpty hempty]
    exact map_renumber_of_get? _ 0 hu ht

end Remap

def Game.frozen (game : Game) (c : Catalog) : Game :=
  { game with locationRemap := idTable c.locations, itemRemap := idTable c.items }

namespace Catalog

variable {game : Game} {data : GameLevels} {levels : List Level}

theorem splitRepeats_fst_of_none {α : Type} [Identified α] {l : List α}
    (h : (splitRepeats [] l).2 = []) : (splitRepeats [] l).1.Perm l := by
  have hperm := Identified.splitRepeats_perm [] l
  rw [h, List.append_nil] at hperm
  exact hperm

theorem prepare_perm (h : (prepare game levels).2.count .duplicateId = 0) :
    (prepare game levels).1.items.Perm (numbered game levels).items ∧
      (prepare game levels).1.locations.Perm (numbered game levels).locations := by
  rw [count_duplicateId] at h
  have hitems : droppedItems game levels = [] := List.length_eq_zero_iff.1 (by omega)
  have hlocations : droppedLocations game levels = [] := List.length_eq_zero_iff.1 (by omega)
  exact ⟨(splitRepeats_fst_of_none hitems).trans (sorted_items_perm _),
    (splitRepeats_fst_of_none hlocations).trans (sorted_locations_perm _)⟩

theorem apply_idTable {α : Type} [Identified α] [LawfulIdentified α]
    {table : SortedMap String Int} {l final : List α} (hp : final.Perm (Remap.apply table l).1)
    (hn : (final.map name).Nodup) :
    (Remap.apply (idTable final) l).1 = (Remap.apply table l).1 :=
  Remap.apply_of_get? (Remap.map_unnumbered_apply table l) fun _ he =>
    Remap.get?_idTable hn (hp.mem_iff.2 he)

theorem numbered_frozen (h : (prepare game levels).2.count .duplicateId = 0)
    (hi : ((prepare game levels).1.items.map (·.name)).Nodup)
    (hl : ((prepare game levels).1.locations.map (·.name)).Nodup) :
    numbered (game.frozen (prepare game levels).1) levels = numbered game levels := by
  obtain ⟨hpi, hpl⟩ := prepare_perm h
  have hbound : (compile (game.frozen (prepare game levels).1) levels).1.assignRegions levels =
      (compile game levels).1.assignRegions levels := rfl
  have hitems := apply_idTable hpi hi
  have hlocations := apply_idTable hpl hl
  rw [numbered, numbered, hbound, remap, remap, Game.frozen]
  dsimp only
  rw [hitems, hlocations]

/-- With the ids of its catalog a game makes the catalog again, with the same notes. -/
theorem prepare_frozen (hdata : game.levels data = .ok levels)
    (h : (prepare game levels).2.count .duplicateId = 0)
    (hi : ((prepare game levels).1.items.map (·.name)).Nodup)
    (hl : ((prepare game levels).1.locations.map (·.name)).Nodup) :
    let frozen := game.frozen (prepare game levels).1
    frozen.levels data = .ok levels ∧ prepare frozen levels = prepare game levels ∧
      (prepare frozen levels).2.count .duplicateId = 0 := by
  intro frozen
  have hprepare : ∀ g : Game, prepare g levels =
      ((numbered g levels).sorted.dropRepeatedIds.1,
        (compile g levels).2 ++ ((compile g levels).1.assignRegions levels).2 ++
          (numbered g levels).sorted.dropRepeatedIds.2) := fun _ => rfl
  have hagain : prepare frozen levels = prepare game levels := by
    rw [hprepare frozen, hprepare game, numbered_frozen h hi hl]
    rfl
  refine ⟨hdata, hagain, ?_⟩
  rw [hagain]
  exact h

/-- A game that fixes some ids, so that the others are numbered anew. -/
def depotGame : Game :=
  { twinGame with
    episodes := [{ maps := [⟨"Hangar", "E1M1"⟩, ⟨"Depot", "E1M2"⟩] }]
    filler := [{ type := 2007, name := "Clip" }]
    itemRemap := .ofList [("Depot", 40)] }

def depotLevels : List Level :=
  [MapInfo.level ⟨"Hangar", "E1M1"⟩ ⟨0, 0⟩ {}, MapInfo.level ⟨"Depot", "E1M2"⟩ ⟨0, 1⟩ {}]

theorem prepare_frozen_depot :
    let c := (prepare depotGame depotLevels).1
    depotGame.levels ⟨[[{}, {}]]⟩ = .ok depotLevels ∧
      (prepare depotGame depotLevels).2.count .duplicateId = 0 ∧
      (c.items.map (·.name)).Nodup ∧ (c.locations.map (·.name)).Nodup ∧
      (depotGame.frozen c).levels ⟨[[{}, {}]]⟩ = .ok depotLevels ∧
      prepare (depotGame.frozen c) depotLevels = prepare depotGame depotLevels ∧
      (prepare (depotGame.frozen c) depotLevels).2.count .duplicateId = 0 := by
  have hdata : depotGame.levels ⟨[[{}, {}]]⟩ = .ok depotLevels := rfl
  have hcount : (prepare depotGame depotLevels).2.count .duplicateId = 0 := by cbv
  have hi : ((prepare depotGame depotLevels).1.items.map (·.name)).Nodup := by
    have hnames : (prepare depotGame depotLevels).1.items.map (·.name) =
        ["Depot", "Clip", "Hangar", "Hangar - Complete", "Depot - Complete"] := by cbv
    rw [hnames]
    decide
  have hl : ((prepare depotGame depotLevels).1.locations.map (·.name)).Nodup := by
    have hnames : (prepare depotGame depotLevels).1.locations.map (·.name) =
        ["Hangar - Exit", "Depot - Exit"] := by cbv
    rw [hnames]
    decide
  exact ⟨hdata, hcount, hi, hl, prepare_frozen hdata hcount hi hl⟩

end Catalog

end Worldsmith
