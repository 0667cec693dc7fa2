import Mathlib.Data.List.Nodup
import Worldsmith.Proofs.Catalog.Extension

namespace Worldsmith

variable {game : Game} {data : GameLevels} {levels : List Level} {level : Level}

def Game.ranks (game : Game) (t : Thing) : Bool :=
  game.locationTypes.contains t.type && !t.isMultiplayerOnly

/-- The number of things up to and with the one at an index that have a rank. -/
def Level.rankAt (game : Game) (level : Level) (i : Nat) : Nat :=
  (level.data.map.things.take (i + 1)).countP game.ranks

def Location.unnamed (loc : Location) : Location := { loc with name := "" }

/-- The location of the thing at an index but for its name, if the thing has one. -/
def Level.unnamedThing? (game : Game) (level : Level) (t : Thing) (i : Nat) : Option Location :=
  let notes := level.data.rules.notes i
  if game.ranks t ∧ notes.unreachable = false ∧ level.rankAt game i ≤ 999 then
    some {
      id := (level.index.episode + 1) * 100000 + (level.index.map + 1) * 1000 +
        level.rankAt game i
      name := ""
      level := level.index
      site := some ⟨i, t.position⟩
      kind := .type t.type
      region := none
      checkSanity := notes.checkSanity
      deathLogic := notes.deathLogic }
  else none

def Region.leadsToExit (r : Region) : Bool := r.connections.any fun c => c.target = .levelExit

def Level.unnamedExit (level : Level) : Location where
  id := (level.index.episode + 1) * 100000 + (level.index.map + 1) * 1000
  name := ""
  level := level.index
  site := none
  kind := .levelComplete
  region := some <|
    match level.data.rules.regions.find? Region.leadsToExit with
    | some region => regionName level.name region.name
    | none => entranceName level.name
  checkSanity := false
  deathLogic := false

def Level.unnamedLocations (game : Game) (level : Level) : List Location :=
  (level.data.map.things.zipIdx.filterMap fun (t, i) => level.unnamedThing? game t i) ++
    [level.unnamedExit]

def Game.place? (game : Game) (t : Thing) (i : Nat) : Option Placed :=
  match game.locationTypes.get? t.type with
  | some label => if t.isMultiplayerOnly then none else some ⟨i, t, label⟩
  | none => none

theorem Level.placed_eq (game : Game) (level : Level) : level.placed game =
    level.data.map.things.zipIdx.filterMap fun (t, i) => game.place? t i := rfl

theorem Game.place?_eq_none {t : Thing} {i : Nat} (h : game.ranks t = false) :
    game.place? t i = none := by
  rw [ranks, SortedMap.contains] at h
  rw [place?]
  cases hl : game.locationTypes.get? t.type with
  | none => rfl
  | some label =>
    rw [hl] at h
    simp only [Option.isSome_some, Bool.true_and, Bool.not_eq_false'] at h
    simp only [h, if_true]

theorem Game.exists_place? {t : Thing} (i : Nat) (h : game.ranks t = true) :
    ∃ label, game.place? t i = some ⟨i, t, label⟩ := by
  rw [ranks, SortedMap.contains, Bool.and_eq_true] at h
  obtain ⟨label, hl⟩ := Option.isSome_iff_exists.1 h.1
  refine ⟨label, ?_⟩
  simp only [place?, hl]
  rw [if_neg (by simpa using h.2)]

/-- The rank of a thing is the number of things with a rank in front of it, and one more. -/
theorem zipIdx_place? (game : Game) (things : List Thing) (first rank : Nat) :
    ((things.zipIdx first).filterMap fun e => game.place? e.1 e.2).zipIdx rank =
      (things.zipIdx first).filterMap fun e => (game.place? e.1 e.2).map fun p =>
        (p, rank + (things.take (e.2 - first)).countP game.ranks) := by
  induction things generalizing first rank with
  | nil => rfl
  | cons t things ih =>
    -- Counted from the start of the list, one thing more stands in front of each of the others.
    have hbehind (e : Thing × Nat) (he : e ∈ things.zipIdx (first + 1)) :
        (t :: things).take (e.2 - first) = t :: things.take (e.2 - (first + 1)) := by
      have hle := List.le_snd_of_mem_zipIdx he
      rw [show e.2 - first = (e.2 - (first + 1)) + 1 by omega, List.take_succ_cons]
    rw [List.zipIdx_cons, List.filterMap_cons, List.filterMap_cons]
    cases ht : game.ranks t with
    | false =>
      simp only [Game.place?_eq_none ht, Option.map_none]
      rw [ih]
      apply List.filterMap_congr
      intro e he
      rw [hbehind e he, List.countP_cons_of_neg (by simp [ht])]
    | true =>
      obtain ⟨label, hp⟩ := Game.exists_place? first ht
      simp only [hp, Option.map_some]
      rw [List.zipIdx_cons, ih, Nat.sub_self, List.take_zero, List.countP_nil, Nat.add_zero]
      congr 1
      apply List.filterMap_congr
      intro e he
      rw [hbehind e he, List.countP_cons_of_pos ht]
      congr 1
      funext p
      rw [Nat.add_right_comm, Nat.add_assoc]

theorem Level.rankAt_eq {t : Thing} {i : Nat} (ht : level.data.map.things[i]? = some t)
    (hr : game.ranks t = true) : level.rankAt game i =
      1 + (level.data.map.things.take i).countP game.ranks := by
  rw [rankAt, List.take_add_one, ht, List.countP_append, Option.toList_some, List.countP_singleton,
    if_pos hr, Nat.add_comm]

namespace Catalog

def rankedLocation? (level : Level) (p : Placed) (rank : Nat) : Option Location :=
  if (level.data.rules.notes p.index).unreachable = false ∧ rank ≤ maxLocations then
    some (placedLocation level p (level.index.locationBase + rank) "")
  else none

theorem Insertion.unnamed {p : Placed} {rank : Nat} {acc acc' : Locations}
    (h : Insertion game level p rank acc acc') : acc'.1.map Location.unnamed =
      acc.1.map Location.unnamed ++ (rankedLocation? level p rank).toList := by
  rw [rankedLocation?]
  cases h with
  | unreachable hu => simp [hu]
  | overflow hu hr => simp [Nat.not_le.2 hr]
  | added hu hr =>
    rw [if_pos ⟨hu, hr⟩, List.map_append]
    rfl

theorem insertLocations_unnamed (placed : List (Placed × Nat)) (acc : Locations) :
    (placed.foldl (fun acc e => insertLocation game level acc e.1 e.2) acc).1.map
        Location.unnamed =
      acc.1.map Location.unnamed ++ placed.filterMap fun e => rankedLocation? level e.1 e.2 := by
  induction placed generalizing acc with
  | nil => exact (List.append_nil _).symm
  | cons e placed ih =>
    rw [List.foldl_cons, ih, (insertLocation_step game level acc e.1 e.2).unnamed,
      List.append_assoc, List.filterMap_cons]
    cases rankedLocation? level e.1 e.2 <;> rfl

theorem filterMap_rankedLocation? (game : Game) (level : Level) :
    (((level.placed game).zipIdx 1).filterMap fun e => rankedLocation? level e.1 e.2) =
      level.data.map.things.zipIdx.filterMap fun e => level.unnamedThing? game e.1 e.2 := by
  rw [Level.placed_eq, zipIdx_place?, List.filterMap_filterMap]
  apply List.filterMap_congr
  intro e he
  obtain ⟨t, i⟩ := e
  have ht := List.mem_zipIdx_iff_getElem?.1 he
  cases hr : game.ranks t with
  | false => simp [Game.place?_eq_none hr, Level.unnamedThing?, hr]
  | true =>
    obtain ⟨label, hp⟩ := Game.exists_place? i hr
    simp only [hp, Option.map_some, Option.bind_some, Level.unnamedThing?, Nat.sub_zero,
      rankedLocation?, hr, true_and, maxLocations, Level.rankAt_eq ht hr]
    rfl

theorem insertLevelLocations_unnamed (game : Game) (acc : Locations) (level : Level) :
    (insertLevelLocations game acc level).1.map Location.unnamed =
      acc.1.map Location.unnamed ++ level.unnamedLocations game := by
  change (_ ++ [exitLocation level (exitRegionName level)]).map Location.unnamed = _
  rw [List.map_append, insertLocations_unnamed, filterMap_rankedLocation?, List.append_assoc]
  rfl

theorem compileLocations_unnamed (game : Game) (levels : List Level) (acc : Locations) :
    (levels.foldl (insertLevelLocations game) acc).1.map Location.unnamed =
      acc.1.map Location.unnamed ++ levels.flatMap (·.unnamedLocations game) := by
  induction levels generalizing acc with
  | nil => exact (List.append_nil _).symm
  | cons level levels ih =>
    rw [List.foldl_cons, ih, insertLevelLocations_unnamed, List.append_assoc, List.flatMap_cons]

def lacksExit (level : Level) : Bool := !level.data.rules.regions.any Region.leadsToExit

def noExitNote (level : Level) : Diagnostic :=
  ⟨.levelWithoutExit, level.name ++ " has no region that connects to the Exit."⟩

def exitNotesOf (notes : Diagnostics) : Diagnostics := notes.filter (·.kind = .levelWithoutExit)

theorem Insertion.exitNotesOf_eq {p : Placed} {rank : Nat} {acc acc' : Locations}
    (h : Insertion game level p rank acc acc') : exitNotesOf acc'.2 = exitNotesOf acc.2 := by
  cases h with
  | unreachable => rfl
  | overflow =>
    rw [exitNotesOf, List.filter_append]
    exact List.append_nil _
  | added => rfl

theorem exitNotes_eq (level : Level) :
    exitNotesOf (exitNotes level) = if lacksExit level then [noExitNote level] else [] := by
  have hfind : level.data.rules.exitRegion? =
      level.data.rules.regions.find? Region.leadsToExit := rfl
  rw [exitNotes, lacksExit, hfind, ← List.isSome_find?]
  cases level.data.rules.regions.find? Region.leadsToExit <;> rfl

theorem insertLevelLocations_exitNotesOf (game : Game) (acc : Locations) (level : Level) :
    exitNotesOf (insertLevelLocations game acc level).2 =
      exitNotesOf acc.2 ++ if lacksExit level then [noExitNote level] else [] := by
  have hthings : exitNotesOf (((level.placed game).zipIdx 1).foldl
      (fun acc e => insertLocation game level acc e.1 e.2) acc).2 = exitNotesOf acc.2 := by
    apply List.foldlRecOn (motive := fun acc' : Locations => exitNotesOf acc'.2 = exitNotesOf acc.2)
    · rfl
    · intro acc' h e _
      exact (insertLocation_step game level acc' e.1 e.2).exitNotesOf_eq.trans h
  change exitNotesOf (_ ++ exitNotes level) = _
  rw [exitNotesOf, List.filter_append]
  change exitNotesOf _ ++ exitNotesOf _ = _
  rw [hthings, exitNotes_eq]

theorem compileLocations_exitNotesOf (game : Game) (levels : List Level) (acc : Locations) :
    exitNotesOf (levels.foldl (insertLevelLocations game) acc).2 =
      exitNotesOf acc.2 ++ (levels.filter lacksExit).map noExitNote := by
  induction levels generalizing acc with
  | nil => exact (List.append_nil _).symm
  | cons level levels ih =>
    rw [List.foldl_cons, ih, insertLevelLocations_exitNotesOf, List.append_assoc, List.filter_cons]
    cases lacksExit level <;> rfl

/-- The number that the ids of a level are counted from, in thousands. -/
def idBlock (level : Level) : Nat := 100 * level.index.episode + level.index.map

theorem locationBase_eq (level : Level) :
    level.index.locationBase = 1000 * (idBlock level + 101 : Int) := by
  simp only [LevelIndex.locationBase, idBlock]
  omega

theorem rankedIds_sublist (level : Level) (placed : List (Placed × Nat)) :
    ((placed.filterMap fun e => rankedLocation? level e.1 e.2).map (·.id)).Sublist
      ((placed.map Prod.snd).map fun rank : Nat => level.index.locationBase + rank) := by
  induction placed with
  | nil => exact .slnil
  | cons e placed ih =>
    rw [List.filterMap_cons, rankedLocation?]
    split
    · next h =>
      split at h
      · cases h
      · exact ih.cons _
    · next loc h =>
      split at h
      · cases h
        exact ih.cons_cons _
      · cases h

theorem thingIds_sublist (game : Game) (level : Level) :
    ((level.data.map.things.zipIdx.filterMap fun e =>
        level.unnamedThing? game e.1 e.2).map (·.id)).Sublist
      ((List.range' 1 (level.placed game).length).map fun rank : Nat =>
        level.index.locationBase + rank) := by
  have h := rankedIds_sublist level ((level.placed game).zipIdx 1)
  rw [filterMap_rankedLocation?, List.zipIdx_map_snd] at h
  exact h

theorem unnamedThing?_id_le {t : Thing} {i : Nat} {loc : Location}
    (h : level.unnamedThing? game t i = some loc) :
    loc.id ≤ level.index.locationBase + 999 := by
  rw [Level.unnamedThing?] at h
  split at h
  · next hr =>
    cases h
    simp only [LevelIndex.locationBase]
    omega
  · cases h

theorem unnamedIds_bounds {id : Int} (h : id ∈ (level.unnamedLocations game).map (·.id)) :
    level.index.locationBase ≤ id ∧ id ≤ level.index.locationBase + 999 := by
  obtain ⟨loc, hloc, rfl⟩ := List.mem_map.1 h
  rcases List.mem_append.1 hloc with hthing | hexit
  · have hmem := (thingIds_sublist game level).subset (List.mem_map_of_mem hthing)
    obtain ⟨rank, _, hid⟩ := List.mem_map.1 hmem
    obtain ⟨e, _, he⟩ := List.mem_filterMap.1 hthing
    exact ⟨by omega, unnamedThing?_id_le he⟩
  · rw [List.mem_singleton.1 hexit]
    simp only [Level.unnamedExit, LevelIndex.locationBase]
    omega

theorem unnamedIds_nodup (game : Game) (level : Level) :
    ((level.unnamedLocations game).map (·.id)).Nodup := by
  have hranks : ((List.range' 1 (level.placed game).length).map fun rank : Nat =>
      level.index.locationBase + rank).Nodup := by
    apply List.Nodup.map _ List.nodup_range'
    intro a b hab
    simp only at hab
    omega
  rw [Level.unnamedLocations, List.map_append, List.nodup_append]
  refine ⟨(thingIds_sublist game level).nodup hranks, List.nodup_singleton _, ?_⟩
  intro id hthing id' hexit heq
  obtain ⟨rank, hrank, hid⟩ := List.mem_map.1 ((thingIds_sublist game level).subset hthing)
  have hpos : 1 ≤ rank := (List.mem_range'_1.1 hrank).1
  have hbase : id' = level.index.locationBase := List.mem_singleton.1 hexit
  omega

theorem exitId_mem (game : Game) (level : Level) :
    level.index.locationBase ∈ (level.unnamedLocations game).map (·.id) :=
  List.mem_map_of_mem (List.mem_append_right _ (List.mem_singleton.2 rfl))

/-- Two levels share ids exactly if they have the same block. -/
theorem unnamedIds_disjoint_iff (game : Game) (a b : Level) :
    List.Disjoint ((a.unnamedLocations game).map (·.id))
      ((b.unnamedLocations game).map (·.id)) ↔ idBlock a ≠ idBlock b := by
  have ha := locationBase_eq a
  have hb := locationBase_eq b
  constructor
  · intro h heq
    have hbase : a.index.locationBase = b.index.locationBase := by omega
    have hmem := exitId_mem game b
    rw [← hbase] at hmem
    exact h (exitId_mem game a) hmem
  · intro hne id hida hidb
    have hla := unnamedIds_bounds hida
    have hlb := unnamedIds_bounds hidb
    omega

theorem idBlocks_nodup (hfit : ∀ e ∈ game.episodes, e.maps.length ≤ 100)
    (h : game.levels data = .ok levels) : (levels.map idBlock).Nodup := by
  have hmap : ∀ level ∈ levels, level.index.map < 100 := by
    obtain ⟨-, rfl⟩ := Game.levels_eq_ok_iff.1 h
    intro level hl
    obtain ⟨e, he, hlt⟩ := Game.mem_joined hl
    exact Nat.lt_of_lt_of_le hlt (hfit e (List.mem_of_getElem? he))
  have hindex := List.pairwise_map.1 (Game.levels_nodup h)
  apply List.pairwise_map.2
  apply hindex.imp_of_mem
  intro a b ha hb hne heq
  have hma := hmap a ha
  have hmb := hmap b hb
  simp only [idBlock] at heq
  have hep : a.index.episode = b.index.episode := by omega
  have hm : a.index.map = b.index.map := by omega
  exact hne (congrArg₂ LevelIndex.mk hep hm)

structure Placement (game : Game) (levels : List Level) : Prop where
  /-- Level by level, each with its exit behind its things. -/
  locations : (compile game levels).1.locations.map Location.unnamed =
    levels.flatMap (·.unnamedLocations game)
  exitNotes : (compile game levels).2.filter (·.kind = .levelWithoutExit) =
    (levels.filter lacksExit).map noExitNote
  ids : ((compile game levels).1.locations.map (·.id)).Nodup ↔
    (levels.map fun level => 100 * level.index.episode + level.index.map).Nodup
  fitting : (∀ e ∈ game.episodes, e.maps.length ≤ 100) →
    ((compile game levels).1.locations.map (·.id)).Nodup

theorem compile_ids_nodup_iff (game : Game) (levels : List Level) :
    ((compile game levels).1.locations.map (·.id)).Nodup ↔ (levels.map idBlock).Nodup := by
  have hids : (compile game levels).1.locations.map (·.id) =
      levels.flatMap fun level => (level.unnamedLocations game).map (·.id) := by
    have hunnamed := congrArg (List.map (·.id)) (compileLocations_unnamed game levels ([], []))
    rw [List.map_map, List.map_nil, List.nil_append, List.map_flatMap] at hunnamed
    exact hunnamed
  rw [hids, List.nodup_flatMap, List.nodup_iff_pairwise_ne, List.pairwise_map]
  constructor
  · intro h
    exact h.2.imp fun {a b} hab => (unnamedIds_disjoint_iff game a b).1 hab
  · intro h
    exact ⟨fun level _ => unnamedIds_nodup game level,
      h.imp fun {a b} hab => (unnamedIds_disjoint_iff game a b).2 hab⟩

/-- Compiling places a location for each thing that has a rank and is within reach, and for each
exit. -/
theorem compile_places (h : game.levels data = .ok levels) : Placement game levels where
  locations := compileLocations_unnamed game levels ([], [])
  exitNotes := compileLocations_exitNotesOf game levels ([], [])
  ids := compile_ids_nodup_iff game levels
  fitting hfit := (compile_ids_nodup_iff game levels).2 (idBlocks_nodup hfit h)

theorem compile_places_twin :
    twinGame.levels twinData = .ok twinLevels ∧ Placement twinGame twinLevels :=
  ⟨rfl, compile_places twinGame_levels⟩

end Catalog

end Worldsmith
