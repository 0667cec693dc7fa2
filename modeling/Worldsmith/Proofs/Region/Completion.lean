import Worldsmith.Proofs.Catalog.Locations
import Worldsmith.Proofs.Level.Collection
import Worldsmith.Proofs.Region.Reachability

namespace Worldsmith

variable {game : Game} {data : GameLevels} {levels : List Level} {level : Level} {loc : Location}
  {held : Holdings} {name : String}

def Place.HasExit (place : Place) : Prop := ∃ c ∈ place.connections, c.target = .levelExit

def Region.leadsOut (r : Region) : Bool := r.connections.any fun c => c.target = .levelExit

/-- The first region with a connection to the exit, or the entrance if there is none. -/
def Level.exitPlace (level : Level) : Place :=
  match level.data.rules.regions.findFinIdx? Region.leadsOut with
  | some i => .region level i
  | none => .entrance level

theorem Region.leadsOut_iff {r : Region} :
    r.leadsOut = true ↔ ∃ c ∈ r.connections, c.target = .levelExit := by
  simp [leadsOut]

theorem Level.exitPlace_name (level : Level) :
    level.exitPlace.name = Catalog.exitRegionName level := by
  have hfind : level.data.rules.exitRegion? =
      (level.data.rules.regions.findFinIdx? Region.leadsOut).map (level.data.rules.regions[·]) :=
    List.find?_eq_map_findFinIdx?_getElem
  rw [exitPlace, Catalog.exitRegionName, hfind]
  split
  · next i hi =>
    rw [hi]
    rfl
  · next hi =>
    rw [hi]
    rfl

theorem Level.exitPlace_mem (level : Level) : level.exitPlace ∈ Place.within level := by
  rw [exitPlace]
  split
  · next i _ =>
    exact List.mem_cons_of_mem _ (List.mem_map_of_mem (List.mem_finRange i))
  · exact List.mem_cons_self

theorem Level.exitPlace_hasExit (h : ∃ place ∈ Place.within level, place.HasExit) :
    level.exitPlace.HasExit := by
  rw [exitPlace]
  split
  · next i hi => exact Region.leadsOut_iff.1 (List.findFinIdx?_eq_some_iff.1 hi).1
  · next hi =>
    rw [List.findFinIdx?_eq_none_iff] at hi
    obtain ⟨place, hp, c, hc, ht⟩ := h
    rcases List.mem_cons.1 hp with rfl | hp
    · exact ⟨c, hc, ht⟩
    · obtain ⟨i, -, rfl⟩ := List.mem_map.1 hp
      have hout := Region.leadsOut_iff.2 ⟨c, hc, ht⟩
      exact absurd hout (hi _ (List.getElem_mem i.isLt))

theorem Place.mem_all (hl : level ∈ levels) {place : Place} (h : place ∈ within level) :
    place ∈ all levels :=
  List.mem_cons_of_mem _ (List.mem_flatMap.2 ⟨level, hl, h⟩)

namespace Catalog

/-- The location of an exit lies where its level is completed. -/
def ExitPlaced (levels : List Level) (loc : Location) : Prop :=
  loc.site = none → ∃ level ∈ levels, level.index = loc.level ∧
    loc.region = some (exitRegionName level)

theorem compile_exitPlaced (game : Game) (levels : List Level) :
    ∀ loc ∈ (compile game levels).1.locations, ExitPlaced levels loc := by
  intro loc hloc hsite
  obtain ⟨level, hl, hmade⟩ := mem_compileLocations hloc
  cases hmade with
  | placed => cases hsite
  | exit => exact ⟨level, hl, rfl, rfl⟩

theorem runAll_exitPlaced (game : Game) (levels : List Level) (passes : List Pass) :
    ∀ loc ∈ ((compile game levels).1.runAll levels passes).locations, ExitPlaced levels loc := by
  refine forall_runAll (fun _ => Iff.rfl) (fun loc loc' h hb hsite => ?_)
    (compile_exitPlaced game levels) passes
  have hstep := loc.bound_step levels
  generalize loc.bound levels = out at hstep hb
  cases hstep with
  | exit =>
    cases hb
    exact h hsite
  | elsewhere =>
    cases hb
    exact h hsite
  | outside => cases hb
  | owned hs =>
    cases hb
    exact nomatch hs.symm.trans hsite
  | unowned hs =>
    cases hb
    exact nomatch hs.symm.trans hsite

theorem prepare_locations (game : Game) (levels : List Level) :
    (prepare game levels).1.locations = ((compile game levels).1.runAll levels
      [.assignRegions, .remap game, .sort, .dropRepeatedIds]).locations := rfl

end Catalog

theorem Game.levels_inj (h : game.levels data = .ok levels) {level level' : Level}
    (hl : level ∈ levels) (hl' : level' ∈ levels) (hi : level.index = level'.index) :
    level = level' :=
  List.inj_on_of_nodup_map (Game.levels_nodup h) hl hl' hi

theorem exit_region (h : game.levels data = .ok levels) (hl : level ∈ levels)
    (hloc : loc ∈ (Catalog.prepare game levels).1.locations) (hs : loc.site = none)
    (hi : loc.level = level.index) : loc.region = some level.exitPlace.name := by
  rw [Catalog.prepare_locations] at hloc
  obtain ⟨level', hl', hi', hr⟩ := Catalog.runAll_exitPlaced game levels _ loc hloc hs
  have he := Game.levels_inj h hl' hl (hi'.trans hi)
  rw [hr, he, level.exitPlace_name]

/-- Whether the authored graph reaches an open connection to the exit of a level. -/
def Level.Completable (game : Game) (levels : List Level) (held : Holdings) (level : Level) : Prop :=
  ∃ place ∈ Place.within level, Reachable game levels held place ∧
    ∃ c ∈ place.connections, c.target = .levelExit ∧ c.IsOpen game level.name held

/-- The documents reach the exit of a level exactly when the authored graph reaches the first place
with a connection to it. -/
theorem exit_reachable_iff (h : game.levels data = .ok levels)
    (hn : ((regionDocs game levels).1.map (·.name)).Nodup) (hl : level ∈ levels)
    (hexit : ∃ place ∈ Place.within level, place.HasExit)
    (hloc : loc ∈ (Catalog.prepare game levels).1.locations) (hs : loc.site = none)
    (hi : loc.level = level.index) (hr : loc.region = some name) :
    level.exitPlace ∈ Place.within level ∧ level.exitPlace.HasExit ∧
      ∀ held, (NameReachable (regionDocs game levels).1 held name ↔
          Reachable game levels held level.exitPlace) ∧
        ((∃ c ∈ level.exitPlace.connections,
            c.target = .levelExit ∧ c.IsOpen game level.name held) →
          NameReachable (regionDocs game levels).1 held name →
            level.Completable game levels held) := by
  have hname : level.exitPlace.name = name :=
    Option.some.inj ((exit_region h hl hloc hs hi).symm.trans hr)
  have hmem := level.exitPlace_mem
  refine ⟨hmem, Level.exitPlace_hasExit hexit, fun held => ?_⟩
  have hiff : NameReachable (regionDocs game levels).1 held name ↔
      Reachable game levels held level.exitPlace := by
    rw [← hname]
    exact reachable_iff hn (Place.mem_all hl hmem)
  exact ⟨hiff, fun hopen hreach => ⟨_, hmem, hiff.1 hreach, hopen⟩⟩

def yardExit : Location := Catalog.exitLocation yardLevel "Hangar @ Yard"

theorem yardExit_mem : yardExit ∈ (Catalog.prepare yardGame [yardLevel]).1.locations :=
  (Catalog.dropRepeatedIds_locations (Catalog.numbered yardGame [yardLevel])).first _ |>.2 rfl

theorem yardLevel_hasExit : ∃ place ∈ Place.within yardLevel, place.HasExit :=
  ⟨yardLevel.exitPlace, yardLevel.exitPlace_mem, _, List.mem_cons_self, rfl⟩

theorem exit_reachable_iff_yard :
    yardGame.levels yardData = .ok [yardLevel] ∧
      ((regionDocs yardGame [yardLevel]).1.map (·.name)).Nodup ∧
      (∃ place ∈ Place.within yardLevel, place.HasExit) ∧
      yardExit ∈ (Catalog.prepare yardGame [yardLevel]).1.locations ∧
      (NameReachable (regionDocs yardGame [yardLevel]).1 yardHeld "Hangar @ Yard" ↔
        Reachable yardGame [yardLevel] yardHeld yardLevel.exitPlace) := by
  have hiff := exit_reachable_iff yardGame_levels yard_names (List.mem_singleton_self _)
    yardLevel_hasExit yardExit_mem rfl rfl rfl
  exact ⟨rfl, yard_names, yardLevel_hasExit, yardExit_mem, (hiff.2.2 yardHeld).1⟩

def yardGate : Connection := { target := .region 1, requirementsAnd := [5, -100] }

theorem yardGate_isOpen : yardGate.IsOpen yardGame yardLevel.name yardHeld := by
  have hdoc : yardGame.connectionDoc yardGate yardLevel.name "Hangar @ Yard" =
      .ok ⟨"Hangar @ Yard", ["Allow jumping"], [⟨["Hangar - Blue keycard"], []⟩]⟩ := rfl
  refine (Game.connectionDoc_documents hdoc).isOpen_iff.1
    ⟨fun name hmem => ?_, .inr ⟨_, List.mem_singleton_self _, fun name hmem => ?_, .inl rfl⟩⟩
  · exact List.mem_singleton.1 hmem
  · exact .inr (List.mem_singleton.1 hmem)

theorem yard_reached : Reachable yardGame [yardLevel] yardHeld yardLevel.exitPlace := by
  have hl : yardLevel ∈ [yardLevel] := List.mem_singleton_self _
  have hunlock : Way yardGame [yardLevel] yardHeld .hub (.entrance yardLevel) :=
    .unlock hl (.inl rfl)
  have henter : Way yardGame [yardLevel] yardHeld (.entrance yardLevel)
      (.region yardLevel ⟨0, by decide⟩) :=
    .entrance hl List.mem_cons_self (Connection.isOpen_of_ungated rfl rfl) (.region ⟨0, by decide⟩)
  have hcross : Way yardGame [yardLevel] yardHeld (.region yardLevel ⟨0, by decide⟩)
      (.region yardLevel ⟨1, by decide⟩) :=
    .region hl List.mem_cons_self yardGate_isOpen (.region ⟨1, by decide⟩)
  exact ((Relation.ReflTransGen.single hunlock).tail henter).tail hcross

/-- The region of an exit is reached although what the exit asks for is not held. -/
theorem exit_reachable_gated :
    yardGame.levels yardData = .ok [yardLevel] ∧
      ((regionDocs yardGame [yardLevel]).1.map (·.name)).Nodup ∧
      (∃ place ∈ Place.within yardLevel, place.HasExit) ∧
      (∃ loc ∈ (Catalog.prepare yardGame [yardLevel]).1.locations, loc.site = none ∧
        loc.level = yardLevel.index ∧ ∃ name, loc.region = some name ∧
          NameReachable (regionDocs yardGame [yardLevel]).1 yardHeld name) ∧
      ¬ yardLevel.Completable yardGame [yardLevel] yardHeld := by
  refine ⟨rfl, yard_names, yardLevel_hasExit,
    ⟨yardExit, yardExit_mem, rfl, rfl, _, rfl, yard_reached.documented⟩, ?_⟩
  rintro ⟨place, hp, -, c, hc, ht, ho⟩
  -- Of all connections only that of the second region leads to the exit.
  have hgate : c.requirementsAnd = [2001] := by
    rcases List.mem_cons.1 hp with rfl | hp
    · cases List.mem_singleton.1 hc
      cases ht
    · obtain ⟨⟨i, hi⟩, -, rfl⟩ := List.mem_map.1 hp
      match i, hi with
      | 0, _ =>
        cases List.mem_singleton.1 hc
        cases ht
      | 1, _ =>
        cases List.mem_singleton.1 hc
        rfl
  obtain ⟨name, hheld, hname⟩ := ho.all 2001 (by simp [hgate]) (by decide)
  have hshotgun : yardGame.requiredItem yardLevel.name 2001 = .ok "Shotgun" := rfl
  cases hshotgun.symm.trans hname
  rcases hheld with h | h
  · exact absurd h (by decide)
  · exact absurd h (by decide)

end Worldsmith
