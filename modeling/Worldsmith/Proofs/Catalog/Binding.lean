import Worldsmith.Proofs.Catalog.Locations
import Worldsmith.Proofs.Catalog.Passes
import Worldsmith.Proofs.Level.Sectors

namespace Worldsmith

open Identified (filterMap_mergeSort)

variable {game : Game} {levels : List Level} {level : Level} {loc loc' : Location} {site : Site}
  {out : Option Location × Diagnostics}

namespace Location

/-- What binding makes of the location of a thing that stands in a level, where the crossing test in
64-bit integers finds what the sectors enclose. -/
structure BoundIn (level : Level) (p : Point) (loc : Location)
    (out : Option Location × Diagnostics) : Prop where
  words : ∀ s ∈ level.data.map.sectors, s.containsInWords p = true ↔ s.Encloses p
  dropped_iff : out.1 = none ↔ ∀ s ∈ level.data.map.sectors, ¬ s.Encloses p
  dropped : out.1 = none →
    out.2 = [⟨.missingSector, "Cannot find sector for location: " ++ loc.name⟩]
  owned : ∀ i before region after, level.data.map.FirstAround p i →
    level.data.rules.regions = before ++ region :: after → i ∈ region.sectors.toList →
    (∀ r ∈ after, i ∉ r.sectors.toList) →
      out = (some { loc with region := some (regionName level.name region.name) }, [])
  unowned : ∀ i, level.data.map.FirstAround p i →
    (∀ r ∈ level.data.rules.regions, i ∉ r.sectors.toList) →
      out = (some { loc with region := some (entranceName level.name) },
        [⟨.unboundLocation, "Location '" ++ loc.name ++
          "' is not marked as unreachable, and is not associated with a region."⟩])

/-- What binding makes of a location of one of the levels, as long as no product of the crossing
test leaves 64 bits. -/
structure BoundAmong (levels : List Level) (loc : Location)
    (out : Option Location × Diagnostics) : Prop where
  exit : loc.site = none → out = (some loc, [])
  thing : ∀ site, loc.site = some site → ∃ level ∈ levels, level.index = loc.level ∧
    ((∀ s ∈ level.data.map.sectors, s.Fits site.position) →
      loc.BoundIn level site.position out)

theorem bound_fst_eq_none_iff (hs : loc.site = some site) (hl : loc.levelIn? levels = some level) :
    (loc.bound levels).1 = none ↔ level.data.map.sectorAt? site.position = none := by
  constructor
  · intro hnone
    have hstep := loc.bound_step levels
    generalize loc.bound levels = out at hstep hnone
    cases hstep with
    | exit hs' => exact nomatch hs.symm.trans hs'
    | elsewhere hl' => exact nomatch hl.symm.trans hl'
    | outside hs' hl' hx =>
      cases hs.symm.trans hs'
      cases hl.symm.trans hl'
      exact hx
    | owned => cases hnone
    | unowned => cases hnone
  · intro hx
    rw [(Binding.outside hs hl hx).bound_eq]

theorem bound_boundIn (hs : loc.site = some site) (hl : loc.levelIn? levels = some level)
    (hfits : ∀ s ∈ level.data.map.sectors, s.Fits site.position) :
    loc.BoundIn level site.position (loc.bound levels) where
  words s hmem := (hfits s hmem).containsInWords_iff
  dropped_iff := by rw [bound_fst_eq_none_iff hs hl, MapData.sectorAt?_eq_none_iff]
  dropped hnone := by
    rw [(Binding.outside hs hl ((bound_fst_eq_none_iff hs hl).1 hnone)).bound_eq]
    rfl
  owned i before region after hi hr hlisted hlast := by
    have hx := MapData.sectorAt?_eq_some_iff.2 hi
    have ho := RuleGraph.owner?_of_last hr hlisted hlast
    exact (Binding.owned hs hl hx ho).bound_eq
  unowned i hi hr := by
    have hx := MapData.sectorAt?_eq_some_iff.2 hi
    have ho := RuleGraph.owner?_of_unlisted hr
    exact (Binding.unowned hs hl hx ho).bound_eq

theorem bound_boundAmong (h : ∃ level ∈ levels, level.index = loc.level) :
    BoundAmong levels loc (loc.bound levels) where
  exit hs := (Binding.exit hs).bound_eq
  thing site hs := by
    obtain ⟨level, hmem, hi⟩ := h
    have hsome : (loc.levelIn? levels).isSome :=
      List.find?_isSome.2 ⟨level, hmem, decide_eq_true hi⟩
    obtain ⟨found, hl⟩ := Option.isSome_iff_exists.1 hsome
    obtain ⟨hfound, hi'⟩ := levelIn?_eq_some hl
    exact ⟨found, hfound, hi', bound_boundIn hs hl⟩

theorem bound_bound (h : (loc.bound levels).1 = some loc') : (loc'.bound levels).1 = some loc' := by
  have hstep := loc.bound_step levels
  generalize hout : loc.bound levels = out at hstep h
  cases hstep with
  | exit =>
    cases h
    rw [hout]
  | elsewhere =>
    cases h
    rw [hout]
  | outside => cases h
  | @owned site level sector region hs hl hx ho =>
    cases h
    have hagain : Binding levels (loc.inRegion (regionName level.name region.name)) _ :=
      .owned hs hl hx ho
    rw [hagain.bound_eq]
    rfl
  | @unowned site level sector hs hl hx ho =>
    cases h
    have hagain : Binding levels (loc.inRegion (entranceName level.name)) _ :=
      .unowned hs hl hx ho
    rw [hagain.bound_eq]
    rfl

theorem bound_id (h : (loc.bound levels).1 = some loc') : loc'.id = loc.id := by
  rw [(loc.bound_step levels).eq_region h]

end Location

namespace Catalog

/-- A thing at the last point of a map, with a sector in the upper half of the map and the largest one
for which no product can leave 64 bits. -/
def quarryGame : Game where
  shortName := "doom"
  iwad := "DOOM.WAD"
  episodes := [{ maps := [⟨"Quarry", "E1M1"⟩] }]
  locationTypes := .ofList [(2018, "Armor")]

def quarryMap : LevelData where
  map := {
    things := [⟨32767, 0, 0, 2018, 7⟩, ⟨8, 8, 0, 5, 7⟩]
    sectors := [⟨[⟨-32768, 8⟩, ⟨32767, 8⟩, ⟨32767, 32767⟩, ⟨-32768, 32767⟩]⟩,
      ⟨[⟨-2147467264, -2147467264⟩, ⟨2147467264, -2147467264⟩, ⟨2147467264, 2147467264⟩,
        ⟨-2147467264, 2147467264⟩]⟩] }
  rules := {
    regions := [
      { name := "Rim", sectors := .ofList [0, 1] },
      { name := "Pit", sectors := .ofList [1] }] }

def quarryLevel : Level := MapInfo.level ⟨"Quarry", "E1M1"⟩ ⟨0, 0⟩ quarryMap

theorem assignRegions_assignRegions (levels : List Level) (c : Catalog) :
    ((c.assignRegions levels).1.assignRegions levels).1 = (c.assignRegions levels).1 := by
  have hlocations : ((c.assignRegions levels).1.assignRegions levels).1.locations =
      (c.assignRegions levels).1.locations := by
    rw [assignRegions_locations, assignRegions_locations, List.filterMap_filterMap]
    congr 1
    funext loc
    cases h : (loc.bound levels).1 with
    | none => rfl
    | some loc' => exact Location.bound_bound h
  exact congrArg (fun locations => { c with locations }) hlocations

theorem sorted_assignRegions (levels : List Level) (c : Catalog) :
    (c.sorted.assignRegions levels).1 = (c.assignRegions levels).1.sorted := by
  have hlocations : (c.sorted.assignRegions levels).1.locations =
      (c.assignRegions levels).1.sorted.locations := by
    rw [assignRegions_locations, sorted, sorted, assignRegions_locations]
    exact filterMap_mergeSort (fun _ _ => Location.bound_id) c.locations
  exact congrArg (fun locations => { c.sorted with locations }) hlocations

theorem sorted_assignRegions_notes (levels : List Level) (c : Catalog) :
    (c.sorted.assignRegions levels).2.Perm (c.assignRegions levels).2 := by
  rw [assignRegions_notes, assignRegions_notes]
  exact (sorted_locations_perm c).flatMap_right _

/-- Binding is done once for all, and sorting comes before it or behind it. -/
theorem assignRegions_again_and_sorted (levels : List Level) (c : Catalog) :
    ((c.assignRegions levels).1.assignRegions levels).1 = (c.assignRegions levels).1 ∧
      (c.assignRegions levels).1.sorted = (c.sorted.assignRegions levels).1 ∧
      (c.assignRegions levels).2.Perm (c.sorted.assignRegions levels).2 :=
  ⟨assignRegions_assignRegions levels c, (sorted_assignRegions levels c).symm,
    (sorted_assignRegions_notes levels c).symm⟩

end Catalog

end Worldsmith
