import Mathlib.Data.List.Perm.Subperm
import Worldsmith.Proofs.Catalog.Groups

namespace Worldsmith

open Identified (unnumbered)
open Groups (Has NoneEmpty)

theorem subperm_map {α β : Type} {l l' : List α} (f : α → β) (h : l.Subperm l') :
    (l.map f).Subperm (l'.map f) := by
  obtain ⟨part, hp, hs⟩ := h
  exact ⟨part.map f, hp.map f, hs.map f⟩

namespace Location

/-- What is left of a location without its id, and for a thing without its region. -/
def fixedPart (loc : Location) : Location :=
  { loc with id := 0, region := if loc.site.isSome then none else loc.region }

theorem spot_fixedPart (loc : Location) : loc.fixedPart.spot = loc.spot := rfl

theorem Binding.fixedPart_eq {levels : List Level} {loc loc' : Location}
    {out : Option Location × Diagnostics} (h : Binding levels loc out) (hs : out.1 = some loc') :
    loc'.fixedPart = loc.fixedPart := by
  cases h with
  | exit => cases hs; rfl
  | elsewhere => cases hs; rfl
  | outside => cases hs
  | owned hsite => cases hs; simp [fixedPart, inRegion, hsite]
  | unowned hsite => cases hs; simp [fixedPart, inRegion, hsite]

end Location

namespace Catalog

variable {game : Game} {data : GameLevels} {levels : List Level} {a b c : Catalog}
  {group name : String}

theorem assignRegions_fixedParts (levels : List Level) (c : Catalog) :
    ((c.assignRegions levels).1.locations.map (·.fixedPart)).Sublist
      (c.locations.map (·.fixedPart)) := by
  rw [assignRegions_locations]
  induction c.locations with
  | nil => exact .refl _
  | cons loc rest ih =>
    rw [List.filterMap_cons]
    split
    · exact ih.cons _
    · next loc' hs =>
      rw [List.map_cons, List.map_cons, (loc.bound_step levels).fixedPart_eq hs]
      exact ih.cons_cons _

/-- What is left of one catalog in another, which has no entities of its own. -/
structure Remains (before after : Catalog) : Prop where
  items : (after.items.map unnumbered).Subperm (before.items.map unnumbered)
  locations : (after.locations.map (·.fixedPart)).Subperm (before.locations.map (·.fixedPart))
  keys : after.keys = before.keys
  noneEmpty : NoneEmpty after.groups
  has_iff : ∀ group name, Has after.groups group name ↔
    Has before.groups group name ∧ name ∈ after.itemNames

namespace Remains

theorem refl (h : c.Grouped) : Remains c c where
  items := .refl _
  locations := .refl _
  keys := rfl
  noneEmpty := h.noneEmpty
  has_iff group name := ⟨fun hm => ⟨hm, h.named group name hm⟩, fun hm => hm.1⟩

theorem grouped (h : Remains a b) : b.Grouped :=
  ⟨h.noneEmpty, fun group name hm => ((h.has_iff group name).1 hm).2⟩

theorem names_subset (h : Remains a b) : b.itemNames ⊆ a.itemNames := by
  have hnames : ∀ c : Catalog, c.itemNames = (c.items.map unnumbered).map (·.name) := by
    intro c
    rw [List.map_map]
    rfl
  rw [hnames, hnames]
  exact List.map_subset _ h.items.subset

theorem trans (hab : Remains a b) (hbc : Remains b c) : Remains a c where
  items := hbc.items.trans hab.items
  locations := hbc.locations.trans hab.locations
  keys := hbc.keys.trans hab.keys
  noneEmpty := hbc.noneEmpty
  has_iff group name := by
    rw [hbc.has_iff, hab.has_iff]
    constructor
    · rintro ⟨⟨hm, -⟩, hn⟩
      exact ⟨hm, hn⟩
    · rintro ⟨hm, hn⟩
      exact ⟨⟨hm, hbc.names_subset hn⟩, hn⟩

theorem of_items_perm (h : a.Grouped) (hi : (b.items.map unnumbered).Perm (a.items.map unnumbered))
    (hl : (b.locations.map (·.fixedPart)).Subperm (a.locations.map (·.fixedPart)))
    (hk : b.keys = a.keys) (hg : b.groups = a.groups) : Remains a b where
  items := hi.subperm
  locations := hl
  keys := hk
  noneEmpty := hg ▸ h.noneEmpty
  has_iff group name := by
    have hnames : b.itemNames.Perm a.itemNames := by
      have hmap := hi.map (·.name)
      rw [List.map_map, List.map_map] at hmap
      exact hmap
    rw [hg, hnames.mem_iff]
    exact ⟨fun hm => ⟨hm, h.named group name hm⟩, fun hm => hm.1⟩

end Remains

theorem assignRegions_remains (h : c.Grouped) (levels : List Level) :
    Remains c (c.assignRegions levels).1 :=
  .of_items_perm h (.refl _) (assignRegions_fixedParts levels c).subperm rfl rfl

theorem remap_remains (h : c.Grouped) (game : Game) : Remains c (c.remap game) := by
  refine .of_items_perm h (.of_eq (remap_items game c)) ?_ rfl rfl
  have hl : (c.remap game).locations.map (·.fixedPart) = c.locations.map (·.fixedPart) :=
    Remap.map_apply _ (fun _ => rfl) _ _
  exact hl ▸ .refl _

theorem sorted_remains (h : c.Grouped) : Remains c c.sorted :=
  .of_items_perm h ((sorted_items_perm c).map _) ((sorted_locations_perm c).map _).subperm rfl rfl

/-- An item leaves its groups with the last item of its name. -/
theorem dropRepeatedIds_remains (h : c.Grouped) : Remains c c.dropRepeatedIds.1 where
  items := ((Identified.splitRepeats_sublist [] c.items).map _).subperm
  locations := ((Identified.splitRepeats_sublist [] c.locations).map _).subperm
  keys := rfl
  noneEmpty := noneEmpty_pruneGroups _ _
  has_iff group name := by
    have hsplit : name ∈ c.itemNames → name ∈ c.dropRepeatedIds.1.itemNames ∨
        name ∈ (splitRepeats [] c.items).2.map (·.name) := by
      intro hn
      obtain ⟨e, he, rfl⟩ := mem_itemNames.1 hn
      have hmem := (Identified.splitRepeats_perm [] c.items).symm.subset he
      rcases List.mem_append.1 hmem with hkept | hdropped
      · exact .inl (mem_itemNames.2 ⟨e, hkept, rfl⟩)
      · exact .inr (List.mem_map_of_mem hdropped)
    -- Groups lose the names that were dropped, save for those that an item still bears.
    have hgone : name ∈ ((splitRepeats [] c.items).2.map (·.name)).filter
        (fun name => !(splitRepeats [] c.items).1.any (·.name == name)) ↔
        name ∈ (splitRepeats [] c.items).2.map (·.name) ∧
          name ∉ c.dropRepeatedIds.1.itemNames := by
      rw [List.mem_filter, mem_itemNames]
      simp [dropRepeatedIds]
    rw [dropRepeatedIds, has_pruneGroups, hgone]
    constructor
    · rintro ⟨hm, hn⟩
      refine ⟨hm, ?_⟩
      by_contra hleft
      exact hn ⟨(hsplit (h.named group name hm)).resolve_left hleft, hleft⟩
    · rintro ⟨hm, hn⟩
      exact ⟨hm, fun hgone => hgone.2 hn⟩

theorem Pass.run_remains (h : c.Grouped) (levels : List Level) (pass : Pass) :
    Remains c (pass.run levels c) := by
  cases pass with
  | assignRegions => exact assignRegions_remains h levels
  | remap game => exact remap_remains h game
  | sort => exact sorted_remains h
  | dropRepeatedIds => exact dropRepeatedIds_remains h

theorem runAll_remains (h : c.Grouped) (levels : List Level) (passes : List Pass) :
    Remains c (c.runAll levels passes) := by
  induction passes generalizing c with
  | nil => exact .refl h
  | cons pass passes ih =>
    have hpass := Pass.run_remains h levels pass
    exact hpass.trans (ih hpass.grouped)

theorem compile_spots_nodup (h : game.levels data = .ok levels) :
    ((compile game levels).1.locations.map (·.spot)).Nodup := by
  obtain ⟨lost, hledger⟩ := compileLocations_ledger game levels
  have hn := (hledger.covers.nodup_iff).2 (spots_nodup (Game.levels_nodup h))
  exact (List.nodup_append.1 hn).1

theorem Remains.spots_nodup (h : Remains a b) (hn : (a.locations.map (·.spot)).Nodup) :
    (b.locations.map (·.spot)).Nodup := by
  have hspots : ∀ c : Catalog,
      c.locations.map (·.spot) = (c.locations.map (·.fixedPart)).map (·.spot) := by
    intro c
    rw [List.map_map]
    rfl
  obtain ⟨part, hp, hs⟩ := subperm_map (·.spot) h.locations
  rw [← hspots] at hp hs
  exact hp.nodup_iff.1 (hn.sublist hs)

theorem hasGroup_iff (h : NoneEmpty c.groups) :
    c.hasGroup group = true ↔ ∃ name, Has c.groups group name := by
  rw [hasGroup, SortedMap.contains, Option.isSome_iff_exists]
  constructor
  · rintro ⟨members, hm⟩
    have hne := h group members hm
    rw [SortedMap.isEmpty, List.isEmpty_eq_false_iff] at hne
    obtain ⟨e, he⟩ := List.exists_mem_of_ne_nil _ hne
    exact ⟨e.1, members, hm, SortedMap.contains_eq_true_iff.2 (List.mem_map_of_mem he)⟩
  · rintro ⟨name, members, hm, -⟩
    exact ⟨members, hm⟩

structure AfterPasses (compiled c : Catalog) : Prop where
  items : (c.items.map unnumbered).Subperm (compiled.items.map unnumbered)
  locations : (c.locations.map (·.fixedPart)).Subperm (compiled.locations.map (·.fixedPart))
  spots : (c.locations.map (·.spot)).Nodup
  keys : c.keys = compiled.keys
  noneEmpty : ∀ group members, c.groups.get? group = some members → members.isEmpty = false
  named : ∀ group name, Has c.groups group name → ∃ e ∈ c.items, e.name = name
  entered : ∀ e ∈ c.items, ∀ group, Has compiled.groups group e.name ↔ Has c.groups group e.name
  hasGroup_iff : ∀ group,
    c.hasGroup group = true ↔ ∃ e ∈ c.items, Has compiled.groups group e.name

/-- Passes take entities away and change ids and regions. A group has the names that compiling put
there and that an item still has, and is there as long as there is one. -/
theorem passes_in_any_order (h : game.levels data = .ok levels) (passes : List Pass) :
    AfterPasses (compile game levels).1 ((compile game levels).1.runAll levels passes) := by
  have hc := runAll_remains (compile_grouped game levels) levels passes
  refine ⟨hc.items, hc.locations, hc.spots_nodup (compile_spots_nodup h), hc.keys, hc.noneEmpty,
    fun group name hm => ?_, fun e he group => ?_, fun group => ?_⟩
  · exact mem_itemNames.1 (hc.grouped.named group name hm)
  · rw [hc.has_iff]
    exact (and_iff_left (mem_itemNames.2 ⟨e, he, rfl⟩)).symm
  · rw [Catalog.hasGroup_iff hc.noneEmpty]
    constructor
    · rintro ⟨name, hm⟩
      obtain ⟨hm, hn⟩ := (hc.has_iff group name).1 hm
      obtain ⟨e, he, rfl⟩ := mem_itemNames.1 hn
      exact ⟨e, he, hm⟩
    · rintro ⟨e, he, hm⟩
      exact ⟨e.name, (hc.has_iff group e.name).2 ⟨hm, mem_itemNames.2 ⟨e, he, rfl⟩⟩⟩

/-- Two items of one name, of which one is dropped once both have the same id. -/
def twinPasses : List Pass :=
  [.sort, .remap { twinGame with itemRemap := .ofList [("Hangar", 5)] }, .dropRepeatedIds,
    .assignRegions, .dropRepeatedIds]

theorem passes_in_any_order_twin : twinGame.levels twinData = .ok twinLevels ∧
    AfterPasses (compile twinGame twinLevels).1
      ((compile twinGame twinLevels).1.runAll twinLevels twinPasses) :=
  ⟨rfl, passes_in_any_order twinGame_levels twinPasses⟩

end Catalog

end Worldsmith
