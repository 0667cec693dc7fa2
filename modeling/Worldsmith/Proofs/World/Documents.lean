import Worldsmith.Proofs.Catalog.AnyOrder
import Worldsmith.Proofs.World.LocationTable
import Worldsmith.Proofs.World.Protocol

namespace Worldsmith

variable {game : Game} {data : GameLevels} {levels : List Level} {level : Level} {loc : Location}

theorem nodup_map_toString {α : Type} {l : List α} {f : α → Int} (h : (l.map f).Nodup) :
    (l.map fun a => toString (f a)).Nodup := by
  have hn := h.map (f := (toString : Int → String)) fun _ _ he => Int.repr_injective he
  rwa [List.map_map] at hn

theorem Level.mem_placed {p : Placed} (h : p ∈ level.placed game) :
    level.data.map.things[p.index]? = some p.thing := by
  obtain ⟨⟨thing, i⟩, hthing, hp⟩ := List.mem_filterMap.1 h
  simp only at hp
  split at hp
  · rw [Option.ite_none_left_eq_some] at hp
    obtain ⟨-, he⟩ := hp
    cases he
    exact List.mem_zipIdx_iff_getElem?.1 hthing
  · cases hp

/-- What a location is for: a thing of its map, or the exit. -/
inductive Location.StandsFor (loc : Location) (map : LevelData) : Option Nat → Prop
  | thing {i : Nat} {thing : Thing} (hthing : map.map.things[i]? = some thing)
    (hkind : loc.kind = .type thing.type) : StandsFor loc map (some i)
  | exit (hkind : loc.kind = .levelComplete) : StandsFor loc map none

theorem Location.StandsFor.of_kind_eq {loc' : Location} {map : LevelData} {thing : Option Nat}
    (h : loc.StandsFor map thing) (hkind : loc'.kind = loc.kind) : loc'.StandsFor map thing := by
  cases h with
  | thing hthing hk => exact .thing hthing (hkind.trans hk)
  | exit hk => exact .exit (hkind.trans hk)

theorem Catalog.MadeFor.standsFor (h : Catalog.MadeFor game level loc) :
    loc.StandsFor level.data loc.spot.2 := by
  cases h with
  | placed hp => exact .thing (Level.mem_placed (List.fst_mem_of_mem_zipIdx hp)) rfl
  | exit => exact .exit rfl

namespace Catalog

theorem prepare_remains (game : Game) (levels : List Level) :
    Remains (compile game levels).1 (prepare game levels).1 :=
  runAll_remains (compile_grouped game levels) levels
    [.assignRegions, .remap game, .sort, .dropRepeatedIds]

theorem prepare_spots_nodup (h : game.levels data = .ok levels) :
    ((prepare game levels).1.locations.map (·.spot)).Nodup :=
  (prepare_remains game levels).spots_nodup (compile_spots_nodup h)

theorem prepare_ids_nodup (game : Game) (levels : List Level) :
    ((prepare game levels).1.items.map (·.id)).Nodup ∧
      ((prepare game levels).1.locations.map (·.id)).Nodup :=
  ⟨Identified.splitRepeats_nodup [] (numbered game levels).sorted.items,
    Identified.splitRepeats_nodup [] (numbered game levels).sorted.locations⟩

/-- Through all passes a location keeps its place and its kind. -/
theorem prepare_standsFor (h : game.levels data = .ok levels)
    (hloc : loc ∈ (prepare game levels).1.locations) :
    ∃ map, data.at? loc.level = some map ∧ loc.StandsFor map loc.spot.2 := by
  have hfixed := (prepare_remains game levels).locations.subset (List.mem_map_of_mem hloc)
  obtain ⟨made, hmade, he⟩ := List.mem_map.1 hfixed
  have hspot : made.fixedPart.spot = loc.fixedPart.spot := congrArg Location.spot he
  have hkind : made.fixedPart.kind = loc.fixedPart.kind := congrArg Location.kind he
  rw [Location.spot_fixedPart, Location.spot_fixedPart] at hspot
  obtain ⟨level, hl, hfor⟩ := mem_compileLocations hmade
  obtain ⟨-, rfl⟩ := Game.levels_eq_ok_iff.1 h
  refine ⟨level.data, ?_, ?_⟩
  · have hindex : loc.level = level.index := (congrArg Prod.fst hspot).symm.trans hfor.level_eq
    rw [hindex]
    exact Game.at?_of_mem_joined hl
  · rw [← hspot]
    exact hfor.standsFor.of_kind_eq hkind.symm

end Catalog

namespace Document

variable {c : Catalog} {regions : List RegionDoc}

theorem worldData_tables (game : Game) (levels : List Level) (c : Catalog)
    (regions : List RegionDoc) :
    (worldData game levels c regions).get? "item_table" =
        some (.object (c.items.map itemEntry)) ∧
      (worldData game levels c regions).get? "location_table" =
        some (.object (c.locations.map (locationEntry game))) := by
  have hpool : ((poolRatio game).map Prod.fst).Sublist ["custom_pool_ratio"] :=
    Json.keys_optional ..
  have hweights : ((fillerWeights game).map Prod.fst).Sublist ["filler_item_weight"] :=
    Json.keys_optional ..
  constructor
  · rw [worldData, Json.get?_object_append fun h => absurd (hweights.subset h) (by decide)]
    exact Json.get?_object_append_of_mem (by simp) (by simp) fun h =>
      absurd (hpool.subset h) (by decide)
  · rw [worldData, Json.get?_object_append fun h => absurd (hweights.subset h) (by decide)]
    exact Json.get?_object_append_of_mem (by simp) (by simp) fun h =>
      absurd (hpool.subset h) (by decide)

theorem passedOn_keys {key : String} (h : key ∈ (passedOn game).map Prod.fst) :
    key ∈ ["game_info", "map_tweaks", "level_select", "rename_lumps"] := by
  obtain ⟨⟨_, block⟩, hblock, rfl⟩ := List.mem_map.1 h
  obtain ⟨⟨name, block?⟩, hmem, he⟩ := List.mem_filterMap.1 hblock
  obtain ⟨json, -, he⟩ := Option.map_eq_some_iff.1 he
  cases he
  exact List.mem_map_of_mem (f := Prod.fst) hmem

theorem definitions_tables (game : Game) (levels : List Level) (c : Catalog) :
    (definitions game levels c).get? "location_table" =
        some (locationTableJson (locationTable c.locations)) ∧
      (definitions game levels c).get? "item_table" = some (.object (c.items.map itemRow)) ∧
      (definitions game levels c).get? "level_info" = some (levelInfo game levels c) := by
  have hrest : ∀ key ∈ ["location_table", "item_table", "level_info"],
      key ∉ (passedOn game).map Prod.fst := by
    intro key hkey hmem
    have hpassed := passedOn_keys hmem
    simp only [List.mem_cons, List.not_mem_nil, or_false] at hkey hpassed
    rcases hkey with rfl | rfl | rfl <;> simp at hpassed
  refine ⟨?_, ?_, ?_⟩
  · exact Json.get?_object_append_of_mem (by simp) (by simp) (hrest _ (by simp))
  · exact Json.get?_object_append_of_mem (by simp) (by simp) (hrest _ (by simp))
  · exact Json.get?_object_append_of_mem (by simp) (by simp) (hrest _ (by simp))

theorem itemEntry_fields (e : Item) :
    (itemEntry e).2.get? "_name" = some (.str e.name) ∧
      (itemEntry e).2.get? "doom_type" = some (.int e.kind.code) ∧
      (itemEntry e).2.get? "exmx" = e.level.map Json.exmx := by
  simp only [itemEntry]
  refine ⟨?_, ?_, ?_⟩
  · exact Json.get?_object_of_mem (by split <;> split <;> simp) (by simp)
  · exact Json.get?_object_of_mem (by split <;> split <;> simp) (by simp)
  · cases e.level with
    | none => exact Json.get?_object_eq_none (by split <;> simp)
    | some level => exact Json.get?_object_of_mem (by split <;> simp) (by simp)

/-- An entry of the data and a row of the definitions with the same name, type and level. -/
inductive SameItem (entry : Json) : Json → Prop
  | common {name type : Json} (hname : entry.get? "_name" = some name)
    (htype : entry.get? "doom_type" = some type) (hlevel : entry.get? "exmx" = none) :
    SameItem entry (.arr [name, type])
  | inLevel {name type episode map : Json} (hname : entry.get? "_name" = some name)
    (htype : entry.get? "doom_type" = some type)
    (hlevel : entry.get? "exmx" = some (.arr [episode, map])) :
    SameItem entry (.arr [name, type, episode, map])

theorem itemRow_sameItem (e : Item) : SameItem (itemEntry e).2 (itemRow e).2 := by
  obtain ⟨hname, htype, hlevel⟩ := itemEntry_fields e
  rw [itemRow]
  cases hl : e.level with
  | none =>
    rw [hl] at hlevel
    exact .common hname htype hlevel
  | some level =>
    rw [hl] at hlevel
    exact .inLevel hname htype hlevel

structure ItemsAgree (items : List Item) (entries rows : List (String × Json)) : Prop where
  keys : entries.map Prod.fst = rows.map Prod.fst
  nodup : (entries.map Prod.fst).Nodup
  ids : (entries.map Prod.fst).Perm (items.map fun e => toString e.id)
  item : ∀ e ∈ items, ∃ entry row, (toString e.id, entry) ∈ entries ∧
    (toString e.id, row) ∈ rows ∧ entry.get? "_name" = some (.str e.name) ∧
    entry.get? "doom_type" = some (.int e.kind.code) ∧
    entry.get? "exmx" = e.level.map Json.exmx ∧ SameItem entry row

theorem items_agree (h : (c.items.map (·.id)).Nodup) :
    ItemsAgree c.items (Json.object (c.items.map itemEntry)).fields
      (Json.object (c.items.map itemRow)).fields := by
  have hids := nodup_map_toString h
  have hentries : (c.items.map itemEntry).map Prod.fst = c.items.map fun e => toString e.id :=
    List.map_map ..
  have hrows : (c.items.map itemRow).map Prod.fst = c.items.map fun e => toString e.id :=
    List.map_map ..
  have hn : ((c.items.map itemEntry).map Prod.fst).Nodup := hentries ▸ hids
  have hn' : ((c.items.map itemRow).map Prod.fst).Nodup := hrows ▸ hids
  have hperm := (Json.fields_object_perm hn).map Prod.fst
  refine ⟨Json.fields_object_keys hn (hentries.trans hrows.symm), hperm.nodup_iff.2 hn, ?_, ?_⟩
  · rwa [hentries] at hperm
  · intro e he
    obtain ⟨hname, htype, hlevel⟩ := itemEntry_fields e
    refine ⟨(itemEntry e).2, (itemRow e).2, ?_, ?_, hname, htype, hlevel, itemRow_sameItem e⟩
    · exact (Json.fields_object_perm hn).mem_iff.2 (List.mem_map_of_mem he)
    · exact (Json.fields_object_perm hn').mem_iff.2 (List.mem_map_of_mem he)

theorem locationEntry_fields (game : Game) (loc : Location) :
    (locationEntry game loc).2.get? "doom_type" = some (.int loc.kind.code) ∧
      (locationEntry game loc).2.get? "exmx" = some (Json.exmx loc.level) := by
  simp only [locationEntry]
  constructor
  · exact Json.get?_object_of_mem (by split <;> simp) (by simp)
  · exact Json.get?_object_of_mem (by split <;> simp) (by simp)

/-- What the entry of a location says of the thing that its leaf stands under. -/
inductive EntryFor (data : GameLevels) (entry : Json) : String × String × String → Prop
  | thing {index : LevelIndex} {map : LevelData} {i : Nat} {thing : Thing}
    (hmap : data.at? index = some map) (hthing : map.map.things[i]? = some thing)
    (hlevel : entry.get? "exmx" = some (Json.exmx index))
    (htype : entry.get? "doom_type" = some (.int thing.type)) :
    EntryFor data entry (Nat.repr (index.episode + 1), Nat.repr (index.map + 1), Nat.repr i)
  | exit {index : LevelIndex} {map : LevelData} (hmap : data.at? index = some map)
    (hlevel : entry.get? "exmx" = some (Json.exmx index))
    (htype : entry.get? "doom_type" = some (.int (-2))) :
    EntryFor data entry (Nat.repr (index.episode + 1), Nat.repr (index.map + 1), "-1")

theorem locationEntry_entryFor {map : LevelData} (hmap : data.at? loc.level = some map)
    (h : loc.StandsFor map loc.spot.2) : EntryFor data (locationEntry game loc).2 loc.spot.key := by
  obtain ⟨htype, hlevel⟩ := locationEntry_fields game loc
  rw [Spot.key]
  generalize loc.spot.2 = thing at h
  cases h with
  | thing hthing hkind =>
    rw [hkind] at htype
    exact .thing hmap hthing hlevel htype
  | exit hkind =>
    rw [hkind] at htype
    exact .exit hmap hlevel htype

/-- A table by id and the leaves of a table by thing, one for each location in both. -/
structure LocationsAgree (data : GameLevels) (locations : List Location)
    (entries : List (String × Json)) (leaves : List ((String × String × String) × Int)) :
    Prop where
  size : leaves.length = locations.length
  keys : (leaves.map Prod.fst).Nodup
  nodup : (entries.map Prod.fst).Nodup
  ids : (leaves.map fun leaf => toString leaf.2).Perm (entries.map Prod.fst)
  leaf : ∀ leaf ∈ leaves, ∃ entry, (toString leaf.2, entry) ∈ entries ∧ EntryFor data entry leaf.1

theorem locations_agree (game : Game) (hspots : (c.locations.map (·.spot)).Nodup)
    (hids : (c.locations.map (·.id)).Nodup)
    (hfor : ∀ loc ∈ c.locations, ∃ map, data.at? loc.level = some map ∧
      loc.StandsFor map loc.spot.2) :
    LocationsAgree data c.locations (Json.object (c.locations.map (locationEntry game))).fields
      (locationTable c.locations).leaves := by
  have hleaves := leaves_locationTable hspots
  have hentries : (c.locations.map (locationEntry game)).map Prod.fst =
      c.locations.map fun loc => toString loc.id := List.map_map ..
  have hn : ((c.locations.map (locationEntry game)).map Prod.fst).Nodup := by
    rw [hentries]
    exact nodup_map_toString hids
  have hperm := Json.fields_object_perm hn
  refine ⟨?_, LocationTable.leaves_nodup _, (hperm.map Prod.fst).nodup_iff.2 hn, ?_, ?_⟩
  · rw [hleaves.length_eq, List.length_map]
  · have hleafIds := hleaves.map fun leaf => toString leaf.2
    rw [List.map_map] at hleafIds
    exact hleafIds.trans (hentries ▸ (hperm.map Prod.fst).symm)
  · intro leaf hleaf
    obtain ⟨loc, hloc, rfl⟩ := List.mem_map.1 (hleaves.mem_iff.1 hleaf)
    obtain ⟨map, hmap, hstands⟩ := hfor loc hloc
    refine ⟨(locationEntry game loc).2, ?_, locationEntry_entryFor hmap hstands⟩
    exact hperm.mem_iff.2 (List.mem_map_of_mem hloc)

def levelInfos (game : Game) (levels : List Level) (c : Catalog) : List (List Json) :=
  (List.range game.episodes.length).map fun i =>
    (levels.filter fun level => level.index.episode = i).map (levelJson c)

theorem levelInfo_eq (game : Game) (levels : List Level) (c : Catalog) :
    levelInfo game levels c = .arr ((levelInfos game levels c).map .arr) := by
  rw [levelInfo, levelInfos, List.map_map]
  rfl

theorem levelInfos_joined (h : game.Complete data) (c : Catalog) :
    levelInfos game (game.joined data) c =
      (game.numbered data).map fun e => (e.1.1.joined e.2 e.1.2).map (levelJson c) := by
  rw [levelInfos, h.range_episodes, List.map_map]
  refine List.map_congr_left fun e he => ?_
  exact congrArg (List.map (levelJson c)) (Game.filter_joined he)

/-- A thing by its type, with the id of its leaf if the table has one. -/
def listed (table : Json) (index : LevelIndex) (thing : Thing) (i : Nat) : Json :=
  match table.path? [Nat.repr (index.episode + 1), Nat.repr (index.map + 1), Nat.repr i] with
  | some id => .arr [.int thing.type, id]
  | none => .int thing.type

theorem thingJson_eq_listed (h : (c.locations.map (·.spot)).Nodup) (index : LevelIndex)
    (thing : Thing) (i : Nat) : thingJson c index thing i =
      listed (locationTableJson (locationTable c.locations)) index thing i := by
  have hpath := path?_locationTableJson (locationTable c.locations) (Spot.key (index, some i))
  rw [at?_locationTable_thing h] at hpath
  rw [listed, thingJson]
  simp only [Spot.key] at hpath
  rw [hpath]
  cases c.locationAt? index i <;> rfl

theorem levelJson_things (c : Catalog) (level : Level) :
    (levelJson c level).get? "thing_list" = some (.arr (level.data.map.things.zipIdx.map
      fun e => thingJson c level.index e.1 e.2)) := by
  rw [levelJson]
  exact Json.get?_object_of_mem (by simp) (by simp)

/-- One entry for each map, with the things of the map as the table of locations has them. -/
structure InfosAgree (game : Game) (data : GameLevels) (table : Json) (infos : List (List Json)) :
    Prop where
  shape : infos.map List.length = game.episodes.map fun e => e.maps.length
  things : ∀ i e, game.episodes[i]? = some e → ∀ j < e.maps.length,
    ∃ map info, data.at? ⟨i, j⟩ = some map ∧ (infos[i]?.bind fun row => row[j]?) = some info ∧
      info.get? "thing_list" =
        some (.arr (map.map.things.zipIdx.map fun e => listed table ⟨i, j⟩ e.1 e.2))

theorem infos_agree (h : game.Complete data) (hspots : (c.locations.map (·.spot)).Nodup) :
    InfosAgree game data (locationTableJson (locationTable c.locations))
      (levelInfos game (game.joined data) c) where
  shape := by
    have hlength : ∀ e ∈ game.numbered data,
        ((e.1.1.joined e.2 e.1.2).map (levelJson c)).length = e.1.1.maps.length := by
      intro e he
      have hmaps := h.maps e he
      simp [Episode.joined, hmaps]
    rw [levelInfos_joined h, List.map_map, ← h.map_numbered, List.map_map]
    exact List.map_congr_left hlength
  things := by
    intro i e he j hj
    obtain ⟨maps, map, m, hmem, hmap, hlevel⟩ := h.exists_numbered he hj
    refine ⟨map, levelJson c (m.level ⟨i, j⟩ map), hmap, ?_, ?_⟩
    · have hrow := List.mem_zipIdx_iff_getElem?.1 hmem
      have hnum : (game.numbered data)[i]? = some ((e, maps), i) := by
        rw [Game.numbered, List.getElem?_zipIdx, hrow, Nat.zero_add]
        rfl
      rw [levelInfos_joined h, List.getElem?_map, hnum]
      exact (List.getElem?_map ..).trans (congrArg (Option.map (levelJson c)) hlevel)
    · rw [levelJson_things]
      simp only [thingJson_eq_listed hspots]
      rfl

structure Tables where
  itemEntries : List (String × Json)
  itemRows : List (String × Json)
  locationEntries : List (String × Json)
  locationTable : Json
  leaves : List ((String × String × String) × Int)
  infos : List (List Json)

structure Tables.Of (t : Tables) (w : World) : Prop where
  itemEntries : w.data.get? "item_table" = some (.obj t.itemEntries)
  itemRows : w.definitions.get? "item_table" = some (.obj t.itemRows)
  locationEntries : w.data.get? "location_table" = some (.obj t.locationEntries)
  locationTable : w.definitions.get? "location_table" = some t.locationTable
  leaves : t.locationTable.leaves = t.leaves.map fun leaf => (leaf.1, .int leaf.2)
  infos : w.definitions.get? "level_info" = some (.arr (t.infos.map .arr))

def tables (game : Game) (w : World) : Tables where
  itemEntries := (Json.object (w.catalog.items.map itemEntry)).fields
  itemRows := (Json.object (w.catalog.items.map itemRow)).fields
  locationEntries := (Json.object (w.catalog.locations.map (locationEntry game))).fields
  locationTable := locationTableJson (Document.locationTable w.catalog.locations)
  leaves := (Document.locationTable w.catalog.locations).leaves
  infos := levelInfos game w.levels w.catalog

theorem tables_of (w : World) : (tables w.game w).Of w := by
  obtain ⟨hitems, hlocations⟩ := worldData_tables w.game w.levels w.catalog w.regions
  obtain ⟨htable, hrows, hinfos⟩ := definitions_tables w.game w.levels w.catalog
  refine ⟨hitems, hrows, hlocations, htable, leaves_locationTableJson _, ?_⟩
  rw [levelInfo_eq] at hinfos
  exact hinfos

variable {σ : Type} {sink : Sink (StateM σ)} {common : List Disk.Step} {spacing : Nat}
  {now : DateTime} {s s' : σ} {report : Report}

theorem report_counts (h : game.levels data = .ok levels)
    (hrun : (generate game data sink common spacing now).run.run s = (.ok report, s')) :
    report.items = (Catalog.prepare game levels).1.items.length ∧
      report.locations = (Catalog.prepare game levels).1.locations.length := by
  obtain ⟨result, _, _, hresult, -, -, houtcome⟩ :=
    generate_makes game data sink common spacing now s
  obtain ⟨rfl, rfl⟩ := Prod.mk.inj (hrun.symm.trans hresult)
  generalize hok : Except.ok report = result at houtcome
  cases houtcome with
  | mismatched => cases hok
  | lacking => cases hok
  | @packed _ packed _ hlevels =>
    cases h.symm.trans hlevels
    cases packed with
    | error e => cases hok
    | ok notes =>
      cases hok
      exact ⟨rfl, rfl⟩

/-- The documents of a run have the same items under the same ids, a leaf for each location, and
the things of every map as the leaves have them; the run reports their numbers. -/
theorem tables_agree (h : game.levels data = .ok levels) :
    ∃ t : Tables, t.Of (.ofLevels game levels) ∧
      ItemsAgree (Catalog.prepare game levels).1.items t.itemEntries t.itemRows ∧
      LocationsAgree data (Catalog.prepare game levels).1.locations t.locationEntries t.leaves ∧
      InfosAgree game data t.locationTable t.infos ∧
      ∀ (σ : Type) (sink : Sink (StateM σ)) (common : List Disk.Step) (spacing : Nat)
        (now : DateTime) (s s' : σ) (report : Report),
        (generate game data sink common spacing now).run.run s = (.ok report, s') →
          report.items = t.itemEntries.length ∧ report.locations = t.leaves.length := by
  have hspots := Catalog.prepare_spots_nodup h
  obtain ⟨hitemIds, hlocationIds⟩ := Catalog.prepare_ids_nodup game levels
  have hitems := items_agree hitemIds
  have hlocations := locations_agree game hspots hlocationIds
    fun loc hloc => Catalog.prepare_standsFor h hloc
  refine ⟨tables game (.ofLevels game levels), tables_of _, hitems, hlocations, ?_, ?_⟩
  · obtain ⟨hcomplete, rfl⟩ := Game.levels_eq_ok_iff.1 h
    exact infos_agree hcomplete hspots
  · intro σ sink common spacing now s s' report hrun
    obtain ⟨hreported, hreported'⟩ := report_counts h hrun
    refine ⟨hreported.trans ?_, hreported'.trans hlocations.size.symm⟩
    have hlength := hitems.ids.length_eq
    rw [List.length_map, List.length_map] at hlength
    exact hlength.symm

theorem tables_agree_twin : twinGame.levels twinData = .ok twinLevels ∧
    ∃ t : Tables, t.Of (.ofLevels twinGame twinLevels) ∧
      ItemsAgree (Catalog.prepare twinGame twinLevels).1.items t.itemEntries t.itemRows ∧
      LocationsAgree twinData (Catalog.prepare twinGame twinLevels).1.locations t.locationEntries
        t.leaves ∧
      InfosAgree twinGame twinData t.locationTable t.infos :=
  have ⟨t, hof, hitems, hlocations, hinfos, _⟩ := tables_agree twinGame_levels
  ⟨rfl, t, hof, hitems, hlocations, hinfos⟩

end Document

end Worldsmith
