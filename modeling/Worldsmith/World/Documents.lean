import Worldsmith.Catalog.Passes
import Worldsmith.Region.Document
import Worldsmith.Text.Bytes
import Worldsmith.Time

namespace Worldsmith

namespace Document

def itemEntry (item : Item) : String × Json :=
  (toString item.id, .object ([
    ("_name", .str item.name),
    ("classification", .int item.classification.bits),
    ("doom_type", .int item.kind.code)] ++
    (if 0 < item.count then [("count", .int item.count)] else []) ++
    match item.level with
    | some level => [("exmx", Json.exmx level)]
    | none => []))

def locationEntry (game : Game) (loc : Location) : String × Json :=
  (toString loc.id, .object ([
    ("_name", .str loc.name),
    ("doom_type", .int loc.kind.code),
    ("exmx", Json.exmx loc.level),
    ("region", .str (loc.region.getD ""))] ++
    if game.settings.checkSanity && loc.checkSanity then [("check_sanity", .bool true)] else []))

def levelName (levels : List Level) (index : LevelIndex) : Option String :=
  (levels.find? (·.index = index)).map (·.name)

def locationGroups (levels : List Level) (locations : List Location) :
    SortedMap String (List String) :=
  locations.foldl
    (fun groups loc =>
      let level := (levelName levels loc.level).getD ""
      groups.insert level ((groups.get? level).getD [] ++ [loc.name])) .empty

/-- The level that each episode with a start of its own starts with. -/
def startingLevels (game : Game) (levels : List Level) : List (String × Json) :=
  game.episodes.zipIdx.filterMap fun (episode, i) => do
    let start ← episode.start?
    if start < 1 then none
    else
      let name ← levelName levels ⟨i, (start - 1).toNat⟩
      return (Nat.repr (i + 1), .str name)

def poolRatio (game : Game) : List (String × Json) :=
  let ratios := game.worldInfo.customPoolRatio
  if ratios.isEmpty then []
  else [("custom_pool_ratio", .object (ratios.entries.map fun (difficulty, ratio) =>
    (toString difficulty, .arr [.int ratio.helpful, .int ratio.random])))]

def fillerWeights (game : Game) : List (String × Json) :=
  let weights := game.worldInfo.fillerItemWeight
  if weights.isEmpty then []
  else [("filler_item_weight", .ofMap (weights.map fun _ n => .int n))]

def worldData (game : Game) (levels : List Level) (c : Catalog) (regions : List RegionDoc) : Json :=
  .object ([
    ("regions", .arr (regions.map RegionDoc.toJson)),
    ("item_table", .object (c.items.map itemEntry)),
    ("item_name_groups", .ofMap (c.groups.map fun _ names => .strings names.keys)),
    ("location_table", .object (c.locations.map (locationEntry game))),
    ("location_name_groups",
      .ofMap ((locationGroups levels c.locations).map fun _ names => .strings names)),
    ("death_logic_excluded_locations",
      .strings ((c.locations.filter (·.deathLogic)).map (·.name))),
    ("starting_levels_by_episode", .object (startingLevels game levels))] ++
    poolRatio game ++ fillerWeights game)

/-- The number that a text starts with, 0 if there is none or if it does not fit 64 bits. -/
def numberAtStart (cs : List Char) : Nat :=
  let n := (cs.takeWhile Char.isDigit).foldl (fun n c => 10 * n + (c.toNat - 48)) 0
  if n < UInt64.size / 2 then n else 0

/-- Episode and map as a lump's name gives them: `E2M4` or `MAP07`. -/
def lumpPosition (lump : String) : Int × Int :=
  let map : Int := match Text.dropBytes? 3 lump.toList with
    | some cs => numberAtStart cs
    | none => 0
  if ['M', 'A', 'P'].isPrefixOf lump.toList then (1, map)
  else
    match (Text.toBytes lump)[1]? with
    | some b => ((b.toNat : Int) - 48, map)
    | none => (0, map)

def thingKey (loc : Location) : String :=
  match loc.site with
  | some site => Nat.repr site.thing
  | none => "-1"

abbrev LocationTable := SortedMap String (SortedMap String (SortedMap String Int))

def enterLocation (table : LocationTable) (loc : Location) : LocationTable :=
  let (episode, map) := loc.level.exmx
  let maps := (table.get? (Nat.repr episode)).getD .empty
  let things := (maps.get? (Nat.repr map)).getD .empty
  table.insert (Nat.repr episode) (maps.insert (Nat.repr map) (things.insert (thingKey loc) loc.id))

def locationTable (locations : List Location) : LocationTable :=
  locations.foldl enterLocation .empty

def locationTableJson (table : LocationTable) : Json :=
  .ofMap (table.map fun _ maps => .ofMap (maps.map fun _ things =>
    .ofMap (things.map fun _ id => .int id)))

def itemRow (item : Item) : String × Json :=
  (toString item.id, .arr ([.str item.name, .int item.kind.code] ++
    match item.level with
    | some level => [.int level.exmx.1, .int level.exmx.2]
    | none => []))

def thingJson (c : Catalog) (level : LevelIndex) (thing : Thing) (index : Nat) : Json :=
  match c.locationAt? level index with
  | some loc => .arr [.int thing.type, .int loc.id]
  | none => .int thing.type

def levelJson (c : Catalog) (level : Level) : Json :=
  let keys := c.keysAt level.index
  let (episode, map) := lumpPosition level.lump
  .object [
    ("_name", .str level.name),
    ("key", .arr (keys.present.map Json.bool)),
    ("use_skull", .arr (keys.useSkull.map Json.bool)),
    ("game_map", .arr [.int episode, .int map]),
    ("thing_list", .arr (level.data.map.things.zipIdx.map fun (thing, i) =>
      thingJson c level.index thing i))]

def levelInfo (game : Game) (levels : List Level) (c : Catalog) : Json :=
  .arr ((List.range game.episodes.length).map fun i =>
    .arr ((levels.filter (·.index.episode = i)).map (levelJson c)))

/-- Blocks that are handed on as they are. -/
def passedOn (game : Game) : List (String × Json) :=
  [("game_info", game.gameInfo), ("map_tweaks", game.mapTweaks),
    ("level_select", game.levelSelect), ("rename_lumps", game.renameLumps)].filterMap
    fun (name, block) => block.map fun json => (name, json)

def definitions (game : Game) (levels : List Level) (c : Catalog) : Json :=
  .object ([
    ("location_table", locationTableJson (locationTable c.locations)),
    ("item_table", .object (c.items.map itemRow)),
    ("level_info", levelInfo game levels c),
    ("type_sprites", .object ((game.templates ++ game.keys.map (·.item)).map fun t =>
      (toString t.type, .str t.sprite))),
    ("ap_location_types", .arr (game.locationTypes.keys.map Json.int))] ++
    passedOn game)

def launcher (game : Game) (included : List String) (definitionsPath : String) : Json :=
  .object ([
    ("short_name", .str game.shortName),
    ("iwad", .str game.iwad)] ++
    (if game.fullName = game.apName then [] else [("full_name", .str game.fullName)]) ++
    Json.optionalList "wads_required" (game.requiredWads.map Json.str) ++
    Json.optionalList "wads_optional" (game.optionalWads.map Json.str) ++
    Json.optionalList "wads_included" (included.map Json.str) ++
    [("definitions", .str definitionsPath)])

def worldVersion (now : DateTime) : String := "2.0." ++ now.dateText

/-- Only archives carry the version of the manifest itself. -/
def manifest (game : Game) (launcher : Json) (versioned : Bool) (now : DateTime) : Json :=
  .object ((if versioned then [("version", .int 7), ("compatible_version", .int 7)] else []) ++ [
    ("game", .str game.apName),
    ("world_version", .str (worldVersion now)),
    ("__apdoom", launcher)])

end Document

end Worldsmith
