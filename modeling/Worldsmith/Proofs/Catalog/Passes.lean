import Worldsmith.Proofs.Entity.Renumbering
import Worldsmith.Proofs.Entity.Survivors

namespace Worldsmith

open Identified (unnumbered Survivors)

variable {game : Game} {levels more : List Level} {level : Level} {loc loc' : Location}
  {out : Option Location × Diagnostics}

/-- What is left of a location without what the passes may change. -/
def Location.core (loc : Location) : Location := { loc with id := 0, region := none }

namespace Location

def bound (levels : List Level) (loc : Location) : Option Location × Diagnostics :=
  loc.assignRegion (levels.map fun level => (level, level.data.rules.owners))

def missingSectorNote (loc : Location) : Diagnostic :=
  ⟨.missingSector, "Cannot find sector for location: " ++ loc.name⟩

def unboundNote (loc : Location) : Diagnostic :=
  ⟨.unboundLocation, "Location '" ++ loc.name ++
    "' is not marked as unreachable, and is not associated with a region."⟩

def levelIn? (levels : List Level) (loc : Location) : Option Level :=
  levels.find? fun level => level.index = loc.level

theorem levelIn?_eq_some (h : loc.levelIn? levels = some level) :
    level ∈ levels ∧ level.index = loc.level :=
  ⟨List.mem_of_find?_eq_some h, by simpa using List.find?_some h⟩

inductive Binding (levels : List Level) (loc : Location) : Option Location × Diagnostics → Prop
  | exit (hs : loc.site = none) : Binding levels loc (some loc, [])
  | elsewhere (hl : loc.levelIn? levels = none) : Binding levels loc (some loc, [])
  | outside {site : Site} {level : Level} (hs : loc.site = some site)
    (hl : loc.levelIn? levels = some level)
    (hx : level.data.map.sectorAt? site.position = none) :
    Binding levels loc (none, [loc.missingSectorNote])
  | owned {site : Site} {level : Level} {sector : Nat} {region : Region}
    (hs : loc.site = some site) (hl : loc.levelIn? levels = some level)
    (hx : level.data.map.sectorAt? site.position = some sector)
    (ho : level.data.rules.owner? sector = some region) :
    Binding levels loc (some (loc.inRegion (regionName level.name region.name)), [])
  | unowned {site : Site} {level : Level} {sector : Nat}
    (hs : loc.site = some site) (hl : loc.levelIn? levels = some level)
    (hx : level.data.map.sectorAt? site.position = some sector)
    (ho : level.data.rules.owner? sector = none) :
    Binding levels loc (some (loc.inRegion (entranceName level.name)), [loc.unboundNote])

theorem find?_withOwners (levels : List Level) (loc : Location) :
    (levels.map fun level => (level, level.data.rules.owners)).find?
      (fun e => e.1.index = loc.level) =
      (loc.levelIn? levels).map fun level => (level, level.data.rules.owners) :=
  List.find?_map

theorem Binding.bound_eq (h : Binding levels loc out) : loc.bound levels = out := by
  rw [bound, assignRegion, find?_withOwners]
  cases h with
  | exit hs => rw [hs]
  | elsewhere hl =>
    rw [hl]
    cases loc.site <;> rfl
  | outside hs hl hx =>
    rw [hs, hl]
    dsimp only [Option.map_some]
    rw [hx]
    rfl
  | owned hs hl hx ho =>
    rw [RuleGraph.owner?] at ho
    rw [hs, hl]
    dsimp only [Option.map_some]
    rw [hx]
    dsimp only
    rw [ho]
  | unowned hs hl hx ho =>
    rw [RuleGraph.owner?] at ho
    rw [hs, hl]
    dsimp only [Option.map_some]
    rw [hx]
    dsimp only
    rw [ho]
    rfl

theorem exists_binding (levels : List Level) (loc : Location) :
    ∃ out, Binding levels loc out := by
  cases hs : loc.site with
  | none => exact ⟨_, .exit hs⟩
  | some site =>
    cases hl : loc.levelIn? levels with
    | none => exact ⟨_, .elsewhere hl⟩
    | some level =>
      cases hx : level.data.map.sectorAt? site.position with
      | none => exact ⟨_, .outside hs hl hx⟩
      | some sector =>
        cases ho : level.data.rules.owner? sector with
        | none => exact ⟨_, .unowned hs hl hx ho⟩
        | some region => exact ⟨_, .owned hs hl hx ho⟩

theorem bound_step (levels : List Level) (loc : Location) :
    Binding levels loc (loc.bound levels) := by
  obtain ⟨out, h⟩ := loc.exists_binding levels
  rw [h.bound_eq]
  exact h

theorem Binding.eq_region (h : Binding levels loc out) (hs : out.1 = some loc') :
    loc' = { loc with region := loc'.region } := by
  cases h with
  | outside => cases hs
  | _ => cases hs; rfl

theorem Binding.core_eq (h : Binding levels loc out) (hs : out.1 = some loc') :
    loc'.core = loc.core := by
  rw [h.eq_region hs]
  rfl

theorem bound_append (h : ∃ level ∈ levels, level.index = loc.level) :
    loc.bound (levels ++ more) = loc.bound levels := by
  obtain ⟨level, hl, hi⟩ := h
  have hf : ((levels.map fun level => (level, level.data.rules.owners)).find?
      fun e => e.1.index = loc.level).isSome :=
    List.find?_isSome.2 ⟨_, List.mem_map_of_mem hl, decide_eq_true hi⟩
  obtain ⟨found, hf⟩ := Option.isSome_iff_exists.1 hf
  rw [bound, bound, assignRegion, assignRegion, List.map_append, List.find?_append, hf]
  rfl

end Location

namespace Catalog
variable {c : Catalog}

theorem assignRegions_locations (levels : List Level) (c : Catalog) :
    (c.assignRegions levels).1.locations = c.locations.filterMap fun loc => (loc.bound levels).1 :=
  List.filterMap_map

theorem assignRegions_notes (levels : List Level) (c : Catalog) :
    (c.assignRegions levels).2 = c.locations.flatMap fun loc => (loc.bound levels).2 :=
  List.flatMap_map _ _ _

theorem assignRegions_core (levels : List Level) (c : Catalog) :
    ((c.assignRegions levels).1.locations.map (·.core)).Sublist (c.locations.map (·.core)) := by
  rw [assignRegions_locations]
  induction c.locations with
  | nil => exact .refl _
  | cons loc rest ih =>
    rw [List.filterMap_cons]
    split
    · exact ih.cons _
    · next loc' hs =>
      rw [List.map_cons, List.map_cons, (loc.bound_step levels).core_eq hs]
      exact ih.cons_cons _

theorem remap_items (game : Game) (c : Catalog) :
    (c.remap game).items.map unnumbered = c.items.map unnumbered :=
  Remap.map_unnumbered_apply _ _

theorem remap_core (game : Game) (c : Catalog) :
    (c.remap game).locations.map (·.core) = c.locations.map (·.core) :=
  Remap.map_apply _ (fun _ => rfl) _ _

theorem sorted_items_perm (c : Catalog) : c.sorted.items.Perm c.items :=
  List.mergeSort_perm _ _

theorem sorted_locations_perm (c : Catalog) : c.sorted.locations.Perm c.locations :=
  List.mergeSort_perm _ _

def numbered (game : Game) (levels : List Level) : Catalog :=
  ((compile game levels).1.assignRegions levels).1.remap game

theorem dropRepeatedIds_items (c : Catalog) :
    Survivors c.items (c.sorted.dropRepeatedIds).1.items :=
  Survivors.of_sorted _

theorem dropRepeatedIds_locations (c : Catalog) :
    Survivors c.locations (c.sorted.dropRepeatedIds).1.locations :=
  Survivors.of_sorted _

end Catalog

/-- The passes that may follow compiling, with the game whose tables give ids. -/
inductive Pass
  | assignRegions
  | remap (game : Game)
  | sort
  | dropRepeatedIds

def Pass.run (levels : List Level) (c : Catalog) : Pass → Catalog
  | assignRegions => (c.assignRegions levels).1
  | remap game => c.remap game
  | sort => c.sorted
  | dropRepeatedIds => c.dropRepeatedIds.1

def Catalog.runAll (levels : List Level) (c : Catalog) (passes : List Pass) : Catalog :=
  passes.foldl (Pass.run levels) c

section Kept
variable {P : Location → Prop} {c : Catalog}

/-- A pass keeps what binding keeps and no id has a part in. -/
theorem Pass.forall_locations (hid : ∀ loc, P (unnumbered loc) ↔ P loc)
    (hbound : ∀ loc loc', P loc → (loc.bound levels).1 = some loc' → P loc')
    (h : ∀ loc ∈ c.locations, P loc) (pass : Pass) :
    ∀ loc ∈ (pass.run levels c).locations, P loc := by
  intro loc hloc
  cases pass with
  | assignRegions =>
    rw [Pass.run, Catalog.assignRegions_locations] at hloc
    obtain ⟨loc₀, h₀, hb⟩ := List.mem_filterMap.1 hloc
    exact hbound loc₀ loc (h loc₀ h₀) hb
  | remap game =>
    have hu := List.mem_map_of_mem (f := unnumbered) hloc
    rw [Pass.run, Catalog.remap, Remap.map_unnumbered_apply] at hu
    obtain ⟨loc₀, h₀, he⟩ := List.mem_map.1 hu
    rw [← hid, ← he, hid]
    exact h loc₀ h₀
  | sort => exact h loc (List.mem_mergeSort.1 hloc)
  | dropRepeatedIds => exact h loc ((Identified.splitRepeats_sublist [] _).subset hloc)

theorem Catalog.forall_runAll (hid : ∀ loc, P (unnumbered loc) ↔ P loc)
    (hbound : ∀ loc loc', P loc → (loc.bound levels).1 = some loc' → P loc')
    (h : ∀ loc ∈ c.locations, P loc) (passes : List Pass) :
    ∀ loc ∈ (c.runAll levels passes).locations, P loc := by
  induction passes generalizing c with
  | nil => exact h
  | cons pass passes ih => exact ih (Pass.forall_locations hid hbound h pass)

end Kept

end Worldsmith
