import Mathlib.Data.List.Basic
import Worldsmith.Proofs.Catalog.Locations
import Worldsmith.Proofs.Catalog.Passes
import Worldsmith.Proofs.Level.Extension

namespace Worldsmith

open Identified (unnumbered)

variable {game game' : Game} {data data' : GameLevels} {levels : List Level} {level new : Level}
  {loc loc' : Location}

/-- With at most 100 maps in an episode the ids of levels do not overlap. -/
theorem LevelIndex.Before.ids {a b : LevelIndex} (h : a.Before b) (ha : a.map < 100) :
    a.locationBase + maxLocations < b.locationBase := by
  simp only [locationBase, maxLocations]
  rcases h with h | ⟨he, hm⟩ <;> omega

namespace Catalog

/-- The id is one that compiling gives out in the level. -/
def InLevel (level : Level) (loc : Location) : Prop :=
  loc.level = level.index ∧ level.index.locationBase ≤ loc.id ∧
    loc.id ≤ level.index.locationBase + maxLocations

theorem MadeFor.inLevel (h : MadeFor game level loc) : InLevel level loc :=
  ⟨h.level_eq, h.id_bounds⟩

theorem InLevel.bound (h : InLevel level loc) (hb : (loc.bound levels).1 = some loc') :
    InLevel level loc' := by
  rw [(loc.bound_step levels).eq_region hb]
  exact h

def boundLocations (game : Game) (levels : List Level) : List Location :=
  ((compile game levels).1.assignRegions levels).1.locations

theorem mem_boundLocations (h : loc ∈ boundLocations game levels) :
    ∃ level ∈ levels, InLevel level loc := by
  rw [boundLocations, assignRegions_locations] at h
  obtain ⟨loc₀, h₀, hb⟩ := List.mem_filterMap.1 h
  obtain ⟨level, hl, hmade⟩ := mem_compileLocations h₀
  exact ⟨level, hl, hmade.inLevel.bound hb⟩

theorem boundLocations_concat (game : Game) (levels : List Level) (new : Level) :
    ∃ more, boundLocations game (levels ++ [new]) = boundLocations game levels ++ more ∧
      ∀ loc ∈ more, InLevel new loc := by
  obtain ⟨more, he, hm⟩ :=
    insertLevelLocations_continues game (compileLocations game levels) new
  have hcompile : (compile game (levels ++ [new])).1.locations =
      (compile game levels).1.locations ++ more :=
    (congrArg Prod.fst List.foldl_append).trans he
  refine ⟨more.filterMap fun loc => (loc.bound (levels ++ [new])).1, ?_, fun loc hloc => ?_⟩
  · rw [boundLocations, assignRegions_locations, hcompile, List.filterMap_append, boundLocations,
      assignRegions_locations]
    congr 1
    refine List.filterMap_congr fun loc hloc => ?_
    obtain ⟨level, hl, hmade⟩ := mem_compileLocations hloc
    rw [Location.bound_append ⟨level, hl, hmade.level_eq.symm⟩]
  · obtain ⟨loc₀, h₀, hb⟩ := List.mem_filterMap.1 hloc
    exact (hm loc₀ h₀).inLevel.bound hb

theorem numbered_level (game : Game) (levels : List Level) :
    (numbered game levels).locations.map (·.level) =
      (boundLocations game levels).map (·.level) :=
  Remap.map_apply _ (fun _ => rfl) _ _

theorem numbered_concat (game : Game)
    (h : ∀ level ∈ levels, level.index.locationBase + maxLocations < new.index.locationBase) :
    ∃ more, (numbered game (levels ++ [new])).locations = (numbered game levels).locations ++ more ∧
      ∀ loc ∈ more, loc.level = new.index := by
  obtain ⟨made, he, hm⟩ := boundLocations_concat game levels new
  have hlt : ∀ a ∈ boundLocations game levels, ∀ b ∈ made, a.id < b.id := by
    intro a ha b hb
    obtain ⟨level, hl, -, -, hle⟩ := mem_boundLocations ha
    exact Int.lt_of_le_of_lt hle (Int.lt_of_lt_of_le (h level hl) (hm b hb).2.1)
  obtain ⟨more, ha, hu⟩ := Remap.apply_append game.locationRemap hlt
  refine ⟨more, ?_, fun loc hloc => ?_⟩
  · rw [← he] at ha
    exact ha
  · have hmem := List.mem_map_of_mem (f := unnumbered) hloc
    rw [hu] at hmem
    obtain ⟨loc₀, h₀, hn⟩ := List.mem_map.1 hmem
    exact (congrArg Location.level hn).symm.trans (hm loc₀ h₀).1

theorem prepare_concat (game : Game)
    (h : ∀ level ∈ levels, level.index.locationBase + maxLocations < new.index.locationBase) :
    (prepare game (levels ++ [new])).1.locations.filter
      (fun loc => loc.level ∈ levels.map (·.index)) = (prepare game levels).1.locations := by
  obtain ⟨more, he, hm⟩ := numbered_concat game h
  have hafter := dropRepeatedIds_locations (numbered game (levels ++ [new]))
  rw [he] at hafter
  refine (dropRepeatedIds_locations (numbered game levels)).filter_append hafter
    (fun loc hloc => ?_) fun loc hloc => ?_
  · have hlevel := List.mem_map_of_mem (f := Location.level) hloc
    rw [numbered_level] at hlevel
    obtain ⟨loc₀, h₀, hl⟩ := List.mem_map.1 hlevel
    obtain ⟨level, hmem, hi, -⟩ := mem_boundLocations h₀
    exact decide_eq_true (List.mem_map.2 ⟨level, hmem, hi.symm.trans hl⟩)
  · refine decide_eq_false fun hlevel => ?_
    obtain ⟨level, hmem, hi⟩ := List.mem_map.1 hlevel
    have hlt := h level hmem
    rw [hi, hm loc hloc] at hlt
    omega

/-- What is prepared depends on the episodes by way of the levels alone. -/
theorem prepare_extended (hx : game.Extends data game' data') (levels : List Level) :
    prepare game' levels = prepare game levels := by
  cases hx <;> rfl

/-- A map behind the others leaves every location as it was, in its place and under its id. -/
theorem prepare_keeps_locations (hfit : ∀ e ∈ game.episodes, e.maps.length ≤ 100)
    (hl : game.levels data = .ok levels) (hx : game.Extends data game' data') :
    ∃ new, game'.levels data' = .ok (levels ++ [new]) ∧
      (∀ level ∈ levels, level.index ≠ new.index) ∧
      (prepare game' (levels ++ [new])).1.locations.filter
        (fun loc => loc.level ∈ levels.map (·.index)) = (prepare game levels).1.locations := by
  obtain ⟨new, hnew⟩ := hx.levels_eq hl
  have hbefore := Game.levels_concat hnew
  refine ⟨new, hnew, fun level h => (hbefore level h).ne, ?_⟩
  rw [prepare_extended hx]
  refine prepare_concat game fun level h => (hbefore level h).ids ?_
  obtain ⟨-, rfl⟩ := Game.levels_eq_ok_iff.1 hl
  obtain ⟨e, he, hmap⟩ := Game.mem_joined h
  exact Nat.lt_of_lt_of_le hmap (hfit e (List.mem_of_getElem? he))

def tripletGame : Game :=
  { twinGame with
    episodes := [{ maps := [⟨"Hangar", "E1M1"⟩, ⟨"Hangar", "E1M2"⟩, ⟨"Hangar", "E1M3"⟩] }] }

theorem prepare_keeps_locations_triplet :
    (∀ e ∈ twinGame.episodes, e.maps.length ≤ 100) ∧
      twinGame.levels twinData = .ok twinLevels ∧
      twinGame.Extends twinData tripletGame ⟨[[twinMap, {}, twinMap]]⟩ ∧
      ∃ new, tripletGame.levels ⟨[[twinMap, {}, twinMap]]⟩ = .ok (twinLevels ++ [new]) ∧
        (∀ level ∈ twinLevels, level.index ≠ new.index) ∧
        (prepare tripletGame (twinLevels ++ [new])).1.locations.filter
          (fun loc => loc.level ∈ twinLevels.map (·.index)) =
            (prepare twinGame twinLevels).1.locations := by
  have hfit : ∀ e ∈ twinGame.episodes, e.maps.length ≤ 100 := by decide
  have hx : twinGame.Extends twinData tripletGame ⟨[[twinMap, {}, twinMap]]⟩ :=
    @Game.Extends.map twinGame twinData [] [] _ _ rfl rfl ⟨"Hangar", "E1M3"⟩ twinMap
  exact ⟨hfit, rfl, hx, prepare_keeps_locations hfit twinGame_levels hx⟩

end Catalog

end Worldsmith
