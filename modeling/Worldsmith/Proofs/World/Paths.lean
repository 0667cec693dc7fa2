import Mathlib
import Worldsmith.CommandLine
import Worldsmith.Proofs.Files.Walk
import Worldsmith.Proofs.World.Protocol

namespace Worldsmith

def Call.dest? : Call → Option String
  | .text path _ => some path
  | .file dest _ => some dest
  | .finalize => none

def Event.dest? (event : Event) : Option String := event.call.dest?

def includedNames (game : Game) : List String :=
  game.includedWads.map fun source => "wad/" ++ (Path.mk source).fileName

def sharedNames (common : List Disk.Step) : List String :=
  (common.filterMap Disk.names?).map fun names => "id1common/" ++ "/".intercalate names

def dataName (game : Game) : String := game.shortName ++ ".data.json"

def definitionsName (game : Game) : String := game.shortName ++ ".game.json"

def sourceNames : List String := ["archipelago.json", "options.py", "__init__.py"]

def fileNames (game : Game) (common : List Disk.Step) : List String :=
  dataName game ::
    (includedNames game ++ definitionsName game :: (sourceNames ++ sharedNames common))

theorem World.calls_dests (w : World) (versioned : Bool) (common : List Disk.Step) (spacing : Nat)
    (now : DateTime) (included : List String) :
    (w.calls versioned common spacing now included).filterMap Call.dest? =
      (fileNames w.game common).map w.file := by
  have hshared : (common.filterMap w.commonCall?).filterMap Call.dest? =
      (sharedNames common).map w.file := by
    rw [sharedNames, List.filterMap_filterMap, List.map_map, List.map_filterMap]
    apply List.filterMap_congr
    intro step _
    cases step <;> rfl
  have hincluded : (w.game.includedWads.map w.includedCall).filterMap Call.dest? =
      (includedNames w.game).map w.file := by
    rw [List.filterMap_map, includedNames, List.map_map, ← List.filterMap_eq_map]
    rfl
  rw [World.calls, List.filterMap_append, List.filterMap_append, List.filterMap_append, hshared,
    hincluded, fileNames, List.map_cons, List.map_append, List.map_cons, List.map_append]
  rfl

theorem append_injective (beginning : String) :
    Function.Injective (beginning ++ · : String → String) := by
  intro a b h
  exact (String.append_right_inj beginning).1 h

theorem append_ne_of_not_suffix {s t ending : String} (h : ¬ ending.toList <:+ t.toList) :
    s ++ ending ≠ t := by
  rintro rfl
  apply h
  rw [String.toList_append]
  exact List.suffix_append _ _

theorem append_ne_append {a b s t : String} (h : ¬ a.toList <+: b.toList)
    (h' : ¬ b.toList <+: a.toList) : a ++ s ≠ b ++ t := by
  intro he
  have hlist := congrArg String.toList he
  rw [String.toList_append, String.toList_append] at hlist
  have ha : a.toList <+: a.toList ++ s.toList := List.prefix_append _ _
  have hb : b.toList <+: a.toList ++ s.toList := hlist ▸ List.prefix_append _ _
  exact (List.prefix_or_prefix_of_prefix ha hb).elim h h'

theorem append_ne_of_not_prefix {s t beginning : String} (h : ¬ beginning.toList <+: t.toList) :
    beginning ++ s ≠ t := by
  rintro rfl
  apply h
  rw [String.toList_append]
  exact List.prefix_append _ _

variable {game : Game} {common : List Disk.Step} {name : String}

theorem mem_includedNames (h : name ∈ includedNames game) :
    ∃ source ∈ game.includedWads, "wad/" ++ (Path.mk source).fileName = name :=
  List.mem_map.1 h

theorem mem_sharedNames (h : name ∈ sharedNames common) : ∃ rest, "id1common/" ++ rest = name := by
  obtain ⟨names, -, rfl⟩ := List.mem_map.1 h
  exact ⟨"/".intercalate names, rfl⟩

theorem sourceNames_notMem (h : name ∈ sourceNames) :
    name ∉ includedNames game ++ sharedNames common := by
  have hbegin : ∀ name ∈ sourceNames, ¬ "wad/".toList <+: name.toList ∧
      ¬ "id1common/".toList <+: name.toList := by decide
  intro hmem
  rcases List.mem_append.1 hmem with hmem | hmem
  · obtain ⟨source, -, he⟩ := mem_includedNames hmem
    exact append_ne_of_not_prefix (hbegin name h).1 he
  · obtain ⟨rest, he⟩ := mem_sharedNames hmem
    exact append_ne_of_not_prefix (hbegin name h).2 he

theorem dataName_ne_definitionsName (game : Game) : dataName game ≠ definitionsName game := by
  intro h
  exact absurd ((String.append_right_inj _).1 h) (by decide)

theorem dataName_notMem_sourceNames (game : Game) : dataName game ∉ sourceNames := by
  intro h
  have hend : ∀ name ∈ sourceNames, ¬ ".data.json".toList <:+ name.toList := by decide
  exact append_ne_of_not_suffix (hend _ h) rfl

theorem definitionsName_notMem_sourceNames (game : Game) : definitionsName game ∉ sourceNames := by
  intro h
  have hend : ∀ name ∈ sourceNames, ¬ ".game.json".toList <:+ name.toList := by decide
  exact append_ne_of_not_suffix (hend _ h) rfl

theorem otherNames_nodup_iff (hcommon : (sharedNames common).Nodup) :
    (includedNames game ++ sharedNames common).Nodup ↔
      (game.includedWads.map fun source => (Path.mk source).fileName).Nodup := by
  have hincluded : includedNames game =
      (game.includedWads.map fun source => (Path.mk source).fileName).map ("wad/" ++ ·) := by
    rw [includedNames, List.map_map]
    rfl
  rw [List.nodup_append, hincluded, List.nodup_map_iff (append_injective "wad/")]
  constructor
  · exact fun h => h.1
  · intro h
    refine ⟨h, hcommon, ?_⟩
    intro a ha b hb
    obtain ⟨file, -, rfl⟩ := List.mem_map.1 ha
    obtain ⟨rest, rfl⟩ := mem_sharedNames hb
    exact append_ne_append (by decide) (by decide)

/-- Only included files and the two documents that are named after the game can meet. -/
theorem fileNames_nodup_iff (hcommon : (sharedNames common).Nodup) :
    (fileNames game common).Nodup ↔
      (game.includedWads.map fun source => (Path.mk source).fileName).Nodup ∧
        dataName game ∉ includedNames game ++ sharedNames common ∧
        definitionsName game ∉ includedNames game ++ sharedNames common := by
  have hperm : (fileNames game common).Perm (dataName game :: definitionsName game ::
      (sourceNames ++ (includedNames game ++ sharedNames common))) :=
    (List.perm_middle.trans ((List.perm_append_comm_assoc _ _ _).cons _)).cons _
  rw [hperm.nodup_iff, List.nodup_cons, List.nodup_cons, List.nodup_append,
    otherNames_nodup_iff hcommon]
  constructor
  · rintro ⟨hdata, hdefinitions, -, hincluded, -⟩
    refine ⟨hincluded, ?_, ?_⟩
    · intro h
      exact hdata (List.mem_cons_of_mem _ (List.mem_append_right _ h))
    · intro h
      exact hdefinitions (List.mem_append_right _ h)
  · rintro ⟨hincluded, hdata, hdefinitions⟩
    refine ⟨?_, ?_, by decide, hincluded, ?_⟩
    · intro h
      rcases List.mem_cons.1 h with h | h
      · exact dataName_ne_definitionsName game h
      · exact (List.mem_append.1 h).elim (dataName_notMem_sourceNames game) hdata
    · intro h
      exact (List.mem_append.1 h).elim (definitionsName_notMem_sourceNames game) hdefinitions
    · rintro name hname _ hother rfl
      exact sourceNames_notMem hname hother

theorem World.Packs.dests {w : World} {versioned : Bool} {spacing : Nat} {now : DateTime}
    {packed : Except Failure Diagnostics} {notes : Diagnostics} {events : List Event}
    (h : w.Packs versioned common spacing now packed events) (hok : packed = .ok notes) :
    events.filterMap Event.dest? = (fileNames w.game common).map w.file := by
  cases h with
  | refused => cases hok
  | @finalized before _ _ hcalls =>
    have hbefore : before.filterMap Event.dest? = (before.map Event.call).filterMap Call.dest? := by
      rw [List.filterMap_map]
      rfl
    rw [List.filterMap_append, hbefore, hcalls, w.calls_dests]
    exact List.append_nil _

section Run
variable {σ τ : Type} {data : GameLevels} {sink : Sink (StateM σ)} {spacing : Nat} {now : DateTime}
  {s s' : σ} {events : List Event} {report : Report}

theorem generate_dests (hrun : (generate game data sink.logged common spacing now).run.run (s, []) =
    (.ok report, s', events)) :
    events.filterMap Event.dest? =
      (fileNames game common).map fun name => game.worldName ++ "/" ++ name := by
  obtain ⟨result, _, made, -, hlog, -, houtcome⟩ :=
    generate_makes game data sink common spacing now s
  obtain ⟨rfl, hstate⟩ := Prod.mk.inj (hrun.symm.trans (hlog []))
  obtain ⟨-, rfl⟩ := Prod.mk.inj hstate
  generalize hok : Except.ok report = result at houtcome
  cases houtcome with
  | mismatched => cases hok
  | lacking => cases hok
  | @packed _ packed _ _ _ hpacks =>
    cases packed with
    | error e => cases hok
    | ok notes => exact hpacks.dests rfl

/-- A finished run gives all files different paths exactly if the included files have different
names and none of them, and none of the shared module, is named like one of the two documents that
are named after the game. -/
theorem generate_dests_nodup_iff {disk : Disk (StateM τ)} (hdisk : disk.ListsNames)
    (module : Option Path) (t : τ)
    (hrun : (generate game data sink.logged ((CommandLine.found disk module).run t).1 spacing
      now).run.run (s, []) = (.ok report, s', events)) :
    (events.filterMap Event.dest?).Nodup ↔
      (game.includedWads.map fun source => (Path.mk source).fileName).Nodup ∧
        ∀ name ∈ [dataName game, definitionsName game], name ∉ includedNames game ++
          sharedNames ((CommandLine.found disk module).run t).1 := by
  have hspread : Disk.Spread [] ((CommandLine.found disk module).run t).1 := by
    cases module with
    | none => exact .nil _
    | some root => exact Disk.walk_spread hdisk root t
  have hshared : (sharedNames ((CommandLine.found disk module).run t).1).Nodup := by
    have hnodup := hspread.intercalate_nodup.map (append_injective "id1common/")
    rw [List.map_map] at hnodup
    exact hnodup
  rw [generate_dests hrun, List.nodup_map_iff (append_injective (game.worldName ++ "/")),
    fileNames_nodup_iff hshared, List.forall_mem_cons, List.forall_mem_singleton]

end Run

def Sink.obliging : Sink (StateM Unit) where
  addText _ _ := return ()
  addFile _ _ := return ()
  finalize := return []
  label := ""
  versioned := false

/-- A folder with the files of a shared module, and nothing else that can be read or changed. -/
def moduleDisk : Disk (StateM Unit) where
  info p := if p = ⟨"id1common"⟩ then return ⟨.folder, ⟨0, 0⟩⟩ else throw .notFound
  read _ := throw .notFound
  write _ _ := throw (.other "read only")
  makeFolder _ := throw (.other "read only")
  rename _ _ := throw (.other "read only")
  remove _ := throw (.other "read only")
  setModified _ _ := throw (.other "read only")
  entries p :=
    if p = ⟨"id1common"⟩ then return [("__init__.py", .file), ("rules.py", .file)]
    else throw .notFound
  now := return ⟨0, 0⟩

theorem moduleDisk_listsNames : moduleDisk.ListsNames := by
  intro p s entries s' h
  simp only [moduleDisk] at h
  split at h
  · cases h
    decide
  · cases h

def hangarGame (included : List String) : Game where
  shortName := "doom"
  iwad := "DOOM.WAD"
  worldName := "doom_1993"
  includedWads := included
  episodes := [{ maps := [⟨"Hangar", "E1M1"⟩] }]
  filler := [{ type := 2008, name := "Shells", groups := ["Junk"] }]

def hangarMap : LevelData where
  rules := {
    regions := [{ name := "Main", connections := [{ target := .levelExit }] }]
    entrance := [{ target := .region 0 }] }

def hangarLevel : Level := MapInfo.level ⟨"Hangar", "E1M1"⟩ ⟨0, 0⟩ hangarMap

theorem hangarGame_compile (included : List String) :
    World.compile (hangarGame included) ⟨[[hangarMap]]⟩ = .ok
      (.ofLevels (hangarGame included) [hangarLevel],
        World.notesOn (hangarGame included) [hangarLevel]) := by
  have hl : (hangarGame included).levels ⟨[[hangarMap]]⟩ = .ok [hangarLevel] := rfl
  have hv : violations (hangarGame included)
      (Catalog.prepare (hangarGame included) [hangarLevel]).1 = [] := by cbv
  exact World.compile_eq_ok_iff.2 ⟨_, hl, hv, rfl, rfl⟩

theorem moduleDisk_found : ((CommandLine.found moduleDisk (some ⟨"id1common"⟩)).run ()).1 =
    [.ok ⟨⟨"id1common/__init__.py"⟩, ["__init__.py"]⟩,
      .ok ⟨⟨"id1common/rules.py"⟩, ["rules.py"]⟩] := by
  have hsort : Disk.sortedByName [("__init__.py", .file), ("rules.py", .file)] =
      [("__init__.py", .file), ("rules.py", .file)] :=
    List.mergeSort_of_pairwise (by decide)
  have hwalk : ((CommandLine.found moduleDisk (some ⟨"id1common"⟩)).run ()).1 =
      (((Disk.sortedByName [("__init__.py", .file), ("rules.py", .file)]).mapM
        fun e => moduleDisk.walkFrom (Disk.longestPath + 1) ⟨Path.join ⟨"id1common"⟩ e.1, [e.1]⟩
          e.2).run ()).1.flatten :=
    rfl
  rw [hwalk, hsort]
  rfl

/-- What comes of the game in a sink that takes all, and what the sink is given. -/
def hangarRun (included : List String) (common : List Disk.Step) :
    Except Failure Report × Unit × List Event :=
  (generate (hangarGame included) ⟨[[hangarMap]]⟩ Sink.obliging.logged common 1
    ⟨2024, 1, 1, 0, 0, 0⟩).run.run ((), [])

/-- Two included files of different names and the files of a module keep apart. -/
theorem generate_dests_nodup_hangar : ∃ report events,
    hangarRun ["maps/extra.wad", "music/songs.wad"]
      ((CommandLine.found moduleDisk (some ⟨"id1common"⟩)).run ()).1 = (.ok report, (), events) ∧
    moduleDisk.ListsNames ∧ (events.filterMap Event.dest?).Nodup := by
  have hfinished : ∃ report events, hangarRun ["maps/extra.wad", "music/songs.wad"]
      ((CommandLine.found moduleDisk (some ⟨"id1common"⟩)).run ()).1 = (.ok report, (), events) := by
    rw [hangarRun, generate, hangarGame_compile, moduleDisk_found]
    exact ⟨_, _, rfl⟩
  obtain ⟨report, events, hrun⟩ := hfinished
  refine ⟨report, events, hrun, moduleDisk_listsNames, ?_⟩
  apply (generate_dests_nodup_iff moduleDisk_listsNames (some ⟨"id1common"⟩) () hrun).2
  rw [moduleDisk_found]
  decide

/-- Two included files of one name get one path. -/
theorem crowded_dests_repeated : ∃ report events,
    hangarRun ["maps/extra.wad", "music/extra.wad"] [] = (.ok report, (), events) ∧
    ¬ (events.filterMap Event.dest?).Nodup := by
  have hfinished : ∃ report events,
      hangarRun ["maps/extra.wad", "music/extra.wad"] [] = (.ok report, (), events) := by
    rw [hangarRun, generate, hangarGame_compile]
    exact ⟨_, _, rfl⟩
  obtain ⟨report, events, hrun⟩ := hfinished
  refine ⟨report, events, hrun, ?_⟩
  rw [generate_dests hrun]
  decide

end Worldsmith
