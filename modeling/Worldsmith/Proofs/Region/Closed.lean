import Worldsmith.Proofs.Catalog.Locations
import Worldsmith.Proofs.Catalog.Passes
import Worldsmith.Proofs.Outcome
import Worldsmith.Region.Resolve

namespace Worldsmith

variable {game : Game} {levels : List Level} {level : Level} {loc loc' : Location}
  {out : Option Location × Diagnostics} {c : Connection} {doc : ConnectionDoc} {name : String}

theorem Game.connectionDoc_target {level target : String}
    (h : game.connectionDoc c level target = .ok doc) : doc.target = target := by
  obtain ⟨_, -, h⟩ := exists_ok_of_bind h
  obtain ⟨_, -, h⟩ := exists_ok_of_bind h
  cases h
  rfl

namespace Level

def regionNames (level : Level) : List String := level.nodes.map (·.1)

theorem entranceName_mem (level : Level) : entranceName level.name ∈ level.regionNames :=
  List.mem_cons_self

theorem regionName_mem {region : Region} (h : region ∈ level.data.rules.regions) :
    regionName level.name region.name ∈ level.regionNames := by
  refine List.mem_cons_of_mem _ ?_
  rw [List.map_map]
  exact List.mem_map_of_mem (f := fun r : Region => regionName level.name r.name) h

theorem regionDocs_names (game : Game) (level : Level) :
    (level.regionDocs game).map (·.1.name) = level.regionNames := by
  rw [regionDocs, List.map_map]
  rfl

theorem destination?_mem {target : Target} (h : level.destination? target = .ok (some name)) :
    name ∈ level.regionNames := by
  cases target with
  | levelExit => cases h
  | hubEntrance =>
    cases h
    exact level.entranceName_mem
  | region i =>
    rw [destination?] at h
    split at h
    · next region hr =>
      cases h
      exact regionName_mem (List.mem_of_getElem? hr)
    · cases h
  | unknown code => cases h

theorem connectionDoc?_target (h : level.connectionDoc? game c = .ok (some doc)) :
    level.destination? c.target = .ok (some doc.target) := by
  obtain ⟨target, hd, h⟩ := exists_ok_of_bind h
  cases target with
  | none => cases h
  | some target =>
    obtain ⟨made, hdoc, h⟩ := exists_ok_of_bind h
    cases h
    rw [hd, Game.connectionDoc_target hdoc]

def filed (game : Game) (level : Level) (c : Connection) : Option ConnectionDoc × Diagnostics :=
  match level.connectionDoc? game c with
  | .ok made => (made, [])
  | .error fault => (none, [⟨.unresolvedConnection, fault.message⟩])

theorem connectionDocs_eq (game : Game) (level : Level) (cs : List Connection) :
    level.connectionDocs game cs = ((cs.map (level.filed game)).filterMap (·.1),
      (cs.map (level.filed game)).flatMap (·.2)) := by
  induction cs with
  | nil => rfl
  | cons c cs ih =>
    rw [connectionDocs, ih, List.map_cons, List.filterMap_cons, List.flatMap_cons, filed]
    cases level.connectionDoc? game c with
    | error fault => rfl
    | ok made => cases made <;> rfl

theorem filed_fst_eq_some_iff :
    (level.filed game c).1 = some doc ↔ level.connectionDoc? game c = .ok (some doc) := by
  rw [filed]
  cases level.connectionDoc? game c with
  | error fault => simp
  | ok made => simp

theorem mem_connectionDocs {cs : List Connection} : doc ∈ (level.connectionDocs game cs).1 ↔
    ∃ c ∈ cs, level.connectionDoc? game c = .ok (some doc) := by
  rw [connectionDocs_eq, List.filterMap_map, List.mem_filterMap]
  exact exists_congr fun c => and_congr_right fun _ => filed_fst_eq_some_iff

theorem connectionDocs_target {cs : List Connection} (h : doc ∈ (level.connectionDocs game cs).1) :
    doc.target ∈ level.regionNames := by
  obtain ⟨c, -, hc⟩ := mem_connectionDocs.1 h
  exact destination?_mem (connectionDoc?_target hc)

end Level

theorem regionDocs_names (game : Game) (levels : List Level) :
    (regionDocs game levels).1.map (·.name) = hubName :: levels.flatMap Level.regionNames := by
  rw [regionDocs, List.map_cons, List.map_map, List.map_flatMap]
  congr 1
  exact congrArg (levels.flatMap ·) (funext fun level => level.regionDocs_names game)

theorem regionName_mem_docs (hl : level ∈ levels) (hn : name ∈ level.regionNames) :
    name ∈ (regionDocs game levels).1.map (·.name) := by
  rw [regionDocs_names]
  exact List.mem_cons_of_mem _ (List.mem_flatMap.2 ⟨level, hl, hn⟩)

theorem regionDocs_target {region : RegionDoc} (hr : region ∈ (regionDocs game levels).1)
    (hd : doc ∈ region.connections) : doc.target ∈ (regionDocs game levels).1.map (·.name) := by
  rcases List.mem_cons.1 hr with rfl | hr
  · obtain ⟨level, hl, rfl⟩ := List.mem_map.1 hd
    exact regionName_mem_docs hl level.entranceName_mem
  · obtain ⟨⟨region, notes⟩, hm, rfl⟩ := List.mem_map.1 hr
    obtain ⟨level, hl, hm⟩ := List.mem_flatMap.1 hm
    obtain ⟨node, -, hn⟩ := List.mem_map.1 hm
    cases hn
    exact regionName_mem_docs hl (Level.connectionDocs_target hd)

def Location.HasRegion (levels : List Level) (loc : Location) : Prop :=
  ∃ level ∈ levels, level.index = loc.level ∧
    ∃ name ∈ level.regionNames, loc.region = some name

theorem Location.Binding.hasRegion (h : Location.Binding levels loc out)
    (hlevel : ∃ level ∈ levels, level.index = loc.level)
    (hexit : loc.site = none → loc.HasRegion levels) (hs : out.1 = some loc') :
    loc'.HasRegion levels := by
  cases h with
  | exit hsite =>
    cases hs
    exact hexit hsite
  | elsewhere hl =>
    obtain ⟨level, hmem, hi⟩ := hlevel
    exact absurd (decide_eq_true hi) (List.find?_eq_none.1 hl level hmem)
  | outside => cases hs
  | owned hsite hl hx ho =>
    cases hs
    obtain ⟨hmem, hi⟩ := Location.levelIn?_eq_some hl
    obtain ⟨i, -, hr⟩ := Option.bind_eq_some_iff.1 ho
    exact ⟨_, hmem, hi, _, Level.regionName_mem (List.mem_of_getElem? hr), rfl⟩
  | unowned hsite hl hx ho =>
    cases hs
    obtain ⟨hmem, hi⟩ := Location.levelIn?_eq_some hl
    exact ⟨_, hmem, hi, _, Level.entranceName_mem _, rfl⟩

namespace Catalog

theorem exitRegionName_mem (level : Level) : exitRegionName level ∈ level.regionNames := by
  rw [exitRegionName]
  split
  · next region hr => exact Level.regionName_mem (List.mem_of_find?_eq_some hr)
  · exact level.entranceName_mem

theorem MadeFor.hasRegion (hl : level ∈ levels) (h : MadeFor game level loc)
    (hs : loc.site = none) : loc.HasRegion levels := by
  cases h with
  | placed => cases hs
  | exit => exact ⟨level, hl, rfl, _, exitRegionName_mem level, rfl⟩

theorem assignRegions_hasRegion (game : Game) (levels : List Level) :
    ∀ loc ∈ ((compile game levels).1.assignRegions levels).1.locations,
      loc.HasRegion levels := by
  intro loc hloc
  rw [assignRegions_locations] at hloc
  obtain ⟨loc₀, h₀, hb⟩ := List.mem_filterMap.1 hloc
  obtain ⟨level, hl, hmade⟩ := mem_compileLocations h₀
  exact (loc₀.bound_step levels).hasRegion ⟨level, hl, hmade.level_eq.symm⟩ (hmade.hasRegion hl) hb

theorem runAll_hasRegion {c : Catalog} (h : ∀ loc ∈ c.locations, loc.HasRegion levels)
    (passes : List Pass) : ∀ loc ∈ (c.runAll levels passes).locations, loc.HasRegion levels := by
  refine forall_runAll (fun _ => Iff.rfl) (fun loc loc' hr hb => ?_) h passes
  have hlevel : ∃ level ∈ levels, level.index = loc.level := by
    obtain ⟨level, hl, hi, -⟩ := hr
    exact ⟨level, hl, hi⟩
  exact (loc.bound_step levels).hasRegion hlevel (fun _ => hr) hb

/-- Connections and locations refer to documents that are there. -/
theorem references_closed (game : Game) (levels : List Level) (passes : List Pass) :
    let docs := (regionDocs game levels).1
    let bound := ((compile game levels).1.assignRegions levels).1
    (∀ region ∈ docs, ∀ doc ∈ region.connections, ∃ target ∈ docs, target.name = doc.target) ∧
      ∀ loc ∈ (bound.runAll levels passes).locations,
        ∃ region ∈ docs, loc.region = some region.name := by
  intro docs bound
  constructor
  · intro region hr doc hd
    exact List.mem_map.1 (regionDocs_target hr hd)
  · intro loc hloc
    obtain ⟨level, hl, -, name, hn, he⟩ :=
      runAll_hasRegion (assignRegions_hasRegion game levels) passes loc hloc
    obtain ⟨region, hr, rfl⟩ := List.mem_map.1 (regionName_mem_docs hl hn)
    exact ⟨region, hr, he⟩

end Catalog

end Worldsmith
