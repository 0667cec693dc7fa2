import Mathlib.Data.List.Nodup
import Worldsmith.Proofs.Catalog.Locations
import Worldsmith.Proofs.Catalog.Naming
import Worldsmith.Proofs.Level.Collection

namespace Worldsmith.Catalog

variable {game : Game} {levels : List Level} {level : Level} {loc : Location}

/-- A location that belongs to a thing has another name than those in front of it. -/
def Fresh (locations : List Location) : Prop :=
  locations.Pairwise fun a b => b.site.isSome → a.name ≠ b.name

theorem Fresh.concat {locations : List Location} (h : Fresh locations)
    (hloc : loc.site.isSome → loc.name ∉ locations.map (·.name)) :
    Fresh (locations ++ [loc]) := by
  apply List.pairwise_append.2
  refine ⟨h, List.pairwise_singleton _ _, ?_⟩
  intro a ha b hb hsite he
  cases List.mem_singleton.1 hb
  apply hloc hsite
  rw [← he]
  exact List.mem_map_of_mem ha

theorem Insertion.fresh {p : Placed} {rank : Nat} {acc acc' : Locations}
    (h : Insertion game level p rank acc acc') (hacc : Fresh acc.1) : Fresh acc'.1 := by
  cases h with
  | unreachable => exact hacc
  | overflow => exact hacc
  | added =>
    apply hacc.concat
    intro _
    exact uniqueName_notMem _ _ _ _

theorem compileLocations_fresh (game : Game) (levels : List Level) :
    Fresh (compileLocations game levels).1 := by
  apply compileLocations_induction (P := fun acc => Fresh acc.1)
  · exact .nil
  · intro level _ p rank acc acc' _ hstep hacc
    exact hstep.fresh hacc
  · intro level _ acc hacc
    apply hacc.concat
    intro hsite
    cases hsite

def exitNames (locations : List Location) : List String :=
  (locations.filter (·.site.isNone)).map (·.name)

def exitName (level : String) : String := level ++ " - Exit"

theorem exitName_injective : Function.Injective exitName := by
  intro a b h
  exact (String.append_left_inj " - Exit").1 h

theorem exitNames_concat (locations : List Location) (loc : Location) :
    exitNames (locations ++ [loc]) =
      exitNames locations ++ if loc.site.isNone then [loc.name] else [] := by
  rw [exitNames, exitNames, List.filter_append, List.map_append, List.filter_singleton]
  cases loc.site.isNone <;> rfl

theorem Insertion.exitNames_eq {p : Placed} {rank : Nat} {acc acc' : Locations}
    (h : Insertion game level p rank acc acc') : exitNames acc'.1 = exitNames acc.1 := by
  cases h with
  | unreachable => rfl
  | overflow => rfl
  | added =>
    rw [exitNames_concat]
    exact List.append_nil _

theorem insertLevelLocations_exitNames (game : Game) (acc : Locations) (level : Level) :
    exitNames (insertLevelLocations game acc level).1 =
      exitNames acc.1 ++ [exitName level.name] := by
  have hthings : exitNames (((level.placed game).zipIdx 1).foldl
      (fun acc e => insertLocation game level acc e.1 e.2) acc).1 = exitNames acc.1 := by
    apply List.foldlRecOn (motive := fun acc' : Locations => exitNames acc'.1 = exitNames acc.1)
    · rfl
    · intro acc' h e _
      exact (insertLocation_step game level acc' e.1 e.2).exitNames_eq.trans h
  change exitNames (insertExit level (((level.placed game).zipIdx 1).foldl
    (fun acc e => insertLocation game level acc e.1 e.2) acc)).1 = _
  rw [insertExit, exitNames_concat, hthings]
  rfl

theorem compileLocations_exitNames (game : Game) (levels : List Level) :
    exitNames (compileLocations game levels).1 = (levels.map (·.name)).map exitName := by
  have hfrom (acc : Locations) : exitNames (levels.foldl (insertLevelLocations game) acc).1 =
      exitNames acc.1 ++ (levels.map (·.name)).map exitName := by
    induction levels generalizing acc with
    | nil => exact (List.append_nil _).symm
    | cons level levels ih =>
      rw [List.foldl_cons, ih, insertLevelLocations_exitNames, List.append_assoc]
      rfl
  exact hfrom ([], [])

/-- The names of a game's locations are pairwise different exactly if the names of its levels are
and no exit has the name of a thing's location in front of it. -/
theorem compile_names_nodup_iff (game : Game) (levels : List Level) :
    let locations := (compile game levels).1.locations
    (locations.map (·.name)).Nodup ↔
      (levels.map (·.name)).Nodup ∧
        locations.Pairwise fun a b => a.site.isSome → b.site = none → a.name ≠ b.name := by
  intro locations
  have hfresh : Fresh locations := compileLocations_fresh game levels
  have hexits : (exitNames locations).Nodup ↔ (levels.map (·.name)).Nodup := by
    have hnames : exitNames locations = _ := compileLocations_exitNames game levels
    rw [hnames, List.nodup_map_iff exitName_injective]
  rw [← hexits, exitNames, List.nodup_iff_pairwise_ne, List.nodup_iff_pairwise_ne,
    List.pairwise_map, List.pairwise_map, List.pairwise_filter, ← List.pairwise_and_iff]
  constructor
  · intro h
    apply h.imp
    intro a b hne
    exact ⟨fun _ _ => hne, fun _ _ => hne⟩
  · intro h
    apply (h.and hfresh).imp
    rintro a b ⟨⟨hexit, hthing⟩, hlater⟩
    cases hb : b.site with
    | some site => exact hlater (by rw [hb]; rfl)
    | none =>
      cases ha : a.site with
      | some site => exact hthing (by rw [ha]; rfl) hb
      | none => exact hexit (by rw [ha]; rfl) (by rw [hb]; rfl)

/-- The exits of two levels of one name are named alike. -/
theorem twin_names_repeated :
    twinGame.levels twinData = .ok twinLevels ∧
      ¬ ((compile twinGame twinLevels).1.locations.map (·.name)).Nodup := by
  refine ⟨rfl, ?_⟩
  intro h
  have hexits : (exitNames (compile twinGame twinLevels).1.locations).Nodup :=
    h.sublist (List.filter_sublist.map _)
  have hnames : exitNames (compile twinGame twinLevels).1.locations = _ :=
    compileLocations_exitNames twinGame twinLevels
  rw [hnames] at hexits
  exact absurd hexits (by decide)

end Worldsmith.Catalog
