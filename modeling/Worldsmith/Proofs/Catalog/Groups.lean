import Worldsmith.Proofs.Catalog.Items
import Worldsmith.Proofs.SortedMap

namespace Worldsmith

abbrev Groups := SortedMap String (SortedSet String)

namespace Groups

variable {groups : Groups} {group name item : String}

def Has (groups : Groups) (group name : String) : Prop :=
  ∃ members, groups.get? group = some members ∧ members.contains name = true

def NoneEmpty (groups : Groups) : Prop :=
  ∀ group members, groups.get? group = some members → members.isEmpty = false

theorem contains_add {members : SortedSet String} :
    (SortedSet.add members item).contains name = true ↔ name = item ∨ members.contains name = true := by
  rw [SortedSet.add, SortedMap.contains, SortedMap.contains]
  by_cases hn : name = item
  · subst hn
    simp [SortedMap.get?_insert_self]
  · simp [SortedMap.get?_insert_of_ne _ hn, hn]

theorem has_addToGroup {g : String} : Has (Catalog.addToGroup groups item g) group name ↔
    group = g ∧ name = item ∨ Has groups group name := by
  rw [Has, Catalog.addToGroup]
  by_cases hg : group = g
  · subst hg
    simp only [SortedMap.get?_insert_self, Option.some.injEq, exists_eq_left', contains_add,
      true_and]
    refine or_congr_right ?_
    cases hm : groups.get? group with
    | none => simp [Has, hm, SortedMap.contains]
    | some members => simp [Has, hm]
  · rw [SortedMap.get?_insert_of_ne _ hg]
    simp [Has, hg]

theorem noneEmpty_addToGroup {g : String} (h : NoneEmpty groups) :
    NoneEmpty (Catalog.addToGroup groups item g) := by
  intro group members hm
  by_cases hg : group = g
  · subst hg
    rw [Catalog.addToGroup, SortedMap.get?_insert_self] at hm
    cases hm
    refine Bool.eq_false_iff.2 fun he => ?_
    have hnone := SortedMap.isEmpty_iff.1 he item
    rw [SortedSet.add, SortedMap.get?_insert_self] at hnone
    cases hnone
  · rw [Catalog.addToGroup, SortedMap.get?_insert_of_ne _ hg] at hm
    exact h group members hm

end Groups

namespace Catalog

open Groups (Has NoneEmpty)

variable {game : Game} {levels : List Level} {c : Catalog} {group name : String}

structure Grouped (c : Catalog) : Prop where
  noneEmpty : NoneEmpty c.groups
  named : ∀ group name, Has c.groups group name → name ∈ c.itemNames

theorem addToGroups_grouped (h : c.Grouped) (item : String) (names : List String)
    (level : Option Level) :
    NoneEmpty (c.addToGroups item names level).groups ∧
      ∀ group name, Has (c.addToGroups item names level).groups group name →
        name = item ∨ name ∈ c.itemNames := by
  refine List.foldlRecOn (motive := fun groups => NoneEmpty groups ∧
    ∀ group name, Has groups group name → name = item ∨ name ∈ c.itemNames) _ _ ?_ ?_
  · exact ⟨h.noneEmpty, fun group name hm => .inr (h.named group name hm)⟩
  · intro groups hgroups g hg
    refine ⟨Groups.noneEmpty_addToGroup hgroups.1, fun group name hm => ?_⟩
    rcases Groups.has_addToGroup.1 hm with ⟨-, rfl⟩ | hm
    · exact .inl rfl
    · exact hgroups.2 group name hm

theorem Grouped.insertItem (h : c.Grouped) (t : ItemTemplate) (kind : EntityKind)
    (classification : Classification) (level : Option Level) :
    (c.insertItem t kind classification level).Grouped := by
  obtain ⟨hempty, hnamed⟩ := addToGroups_grouped h (t.nameIn level) t.groups level
  refine ⟨hempty, fun group name hm => ?_⟩
  rw [insertItem_names, List.mem_append, List.mem_singleton]
  exact (hnamed group name hm).symm

theorem Grouped.insertItems (h : c.Grouped) (ts : List ItemTemplate)
    (classification : Classification) (level : Option Level) :
    (c.insertItems ts classification level).Grouped :=
  List.foldlRecOn ts _ h fun _ hc t _ => hc.insertItem t _ _ _

theorem insertKey_groups (level : Level) (c : Catalog) (key : KeyTemplate) :
    (insertKey level c key).groups =
      if c.items.any (·.name == keyName level key) then c.groups
      else (c.addToGroups (keyName level key) key.item.groups (some level)).groups := by
  rw [insertKey]
  dsimp only
  split
  · next h => exact (if_pos h).symm
  · next h => exact (if_neg h).symm

theorem Grouped.insertKey (h : c.Grouped) (level : Level) (key : KeyTemplate) :
    (insertKey level c key).Grouped := by
  obtain ⟨hempty, hnamed⟩ :=
    addToGroups_grouped h (keyName level key) key.item.groups (some level)
  have hgroups := insertKey_groups level c key
  split at hgroups
  · refine ⟨hgroups ▸ h.noneEmpty, fun group name hm => ?_⟩
    exact insertKey_names_subset level c key (h.named group name (hgroups ▸ hm))
  · refine ⟨hgroups ▸ hempty, fun group name hm => ?_⟩
    rcases hnamed group name (hgroups ▸ hm) with rfl | hm
    · exact keyName_mem_insertKey level c key
    · exact insertKey_names_subset level c key hm

theorem Grouped.insertLevelItems (h : c.Grouped) (game : Game) (level : Level) :
    (insertLevelItems game c level).Grouped := by
  have hown := (h.insertItem unlockTemplate .levelUnlock { progression := true, useful := true }
    (some level)).insertItem completeTemplate .levelComplete { progression := true } (some level)
  exact ((hown.insertItems _ _ _).insertItems _ _ _).insertItems _ _ _

theorem empty_grouped : ({} : Catalog).Grouped := by
  refine ⟨fun group members hm => ?_, fun group name hm => ?_⟩
  · cases hm
  · obtain ⟨members, hm, -⟩ := hm
    cases hm

theorem compile_grouped (game : Game) (levels : List Level) : (compile game levels).1.Grouped := by
  have hcommon : (insertItems {} game.progression { progression := true } none
      |>.insertItems game.useful { useful := true } none
      |>.insertItems game.filler {} none).Grouped :=
    ((empty_grouped.insertItems _ _ _).insertItems _ _ _).insertItems _ _ _
  have hkeys : (levels.foldl (insertKeys game) _).Grouped :=
    List.foldlRecOn levels _ hcommon fun _ hc level _ =>
      List.foldlRecOn _ _ hc fun _ hc key _ => hc.insertKey level key
  have hitems : (compileItems game levels).Grouped :=
    List.foldlRecOn levels _ hkeys fun _ hc level _ => hc.insertLevelItems game level
  exact ⟨hitems.noneEmpty, hitems.named⟩

/-- The names that are gone leave their groups, and nothing else does. -/
theorem has_pruneGroups {gone : List String} {groups : Groups} :
    Has (pruneGroups gone groups) group name ↔ Has groups group name ∧ name ∉ gone := by
  have hmember : ∀ members : SortedSet String,
      (SortedMap.filter (fun name _ => !gone.contains name) members).contains name = true ↔
        members.contains name = true ∧ name ∉ gone := by
    intro members
    simp only [SortedMap.contains, Option.isSome_iff_exists, SortedMap.get?_filter_eq_some_iff]
    simp
  constructor
  · rintro ⟨members, hm, hn⟩
    rw [pruneGroups, SortedMap.get?_filter_eq_some_iff, SortedMap.get?_map,
      Option.map_eq_some_iff] at hm
    obtain ⟨⟨before, hb, rfl⟩, -⟩ := hm
    obtain ⟨hn, hg⟩ := (hmember before).1 hn
    exact ⟨⟨before, hb, hn⟩, hg⟩
  · rintro ⟨⟨members, hm, hn⟩, hg⟩
    have hn := (hmember members).2 ⟨hn, hg⟩
    refine ⟨_, ?_, hn⟩
    rw [pruneGroups, SortedMap.get?_filter_eq_some_iff, SortedMap.get?_map, hm]
    refine ⟨rfl, ?_⟩
    rw [Bool.not_eq_true', Bool.eq_false_iff]
    intro he
    rw [SortedMap.contains, SortedMap.isEmpty_iff.1 he name] at hn
    cases hn

theorem noneEmpty_pruneGroups (gone : List String) (groups : Groups) :
    NoneEmpty (pruneGroups gone groups) := by
  intro group members hm
  rw [pruneGroups, SortedMap.get?_filter_eq_some_iff] at hm
  simpa using hm.2

end Catalog

end Worldsmith
