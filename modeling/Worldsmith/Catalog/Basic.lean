import Worldsmith.Entity.Id
import Worldsmith.Entity.Remap
import Worldsmith.Failure
import Worldsmith.Game.Basic
import Worldsmith.Level.Data

namespace Worldsmith

/-- How an item is treated; with neither mark it is filler. -/
structure Classification where
  progression : Bool := false
  useful : Bool := false
  deriving DecidableEq, Repr, Inhabited

def Classification.bits (c : Classification) : Nat :=
  (if c.progression then 1 else 0) + (if c.useful then 2 else 0)

structure Item where
  id : Int
  name : String
  /-- The level it belongs to, if it belongs to one. -/
  level : Option LevelIndex
  kind : EntityKind
  count : Int
  isKey : Bool
  classification : Classification
  deriving DecidableEq, Repr

/-- The thing that a location is tied to, by its index, and where it stands. -/
structure Site where
  thing : Nat
  position : Point
  deriving DecidableEq, Repr

structure Location where
  id : Int
  name : String
  level : LevelIndex
  /-- Missing for the exit of a level. -/
  site : Option Site
  kind : EntityKind
  region : Option String
  checkSanity : Bool
  deathLogic : Bool
  deriving DecidableEq, Repr

instance : Identified Item := ⟨Item.name, Item.id, fun e id => { e with id }⟩

instance : Identified Location := ⟨Location.name, Location.id, fun e id => { e with id }⟩

/-- The key slots of a level: which are taken, and which of those show a skull. -/
structure LevelKeys where
  present : List Bool := [false, false, false]
  useSkull : List Bool := [false, false, false]
  deriving DecidableEq, Repr, Inhabited

def LevelKeys.place (keys : LevelKeys) (slot : Nat) (skull : Bool) : LevelKeys :=
  ⟨keys.present.set slot true, keys.useSkull.set slot skull⟩

structure Level where
  index : LevelIndex
  name : String
  /-- What stands for the level in the names of groups. -/
  groupTag : String
  lump : String
  data : LevelData

/-- The part of a list from behind the last `'('` up to the last `')'`, if they stand in this
order. -/
def parenthesized? (cs : List Char) : Option (List Char) :=
  match cs.reverse.idxOf? '(', cs.reverse.idxOf? ')' with
  | some fromOpen, some fromClose =>
    if fromClose < fromOpen then
      some ((cs.drop (cs.length - fromOpen)).take (fromOpen - fromClose - 1))
    else none
  | _, _ => none

/-- The lump's name, unless the map's own name carries one in parentheses. -/
def MapInfo.groupTag (m : MapInfo) : String :=
  match parenthesized? m.name.toList with
  | some cs => String.ofList cs
  | none => m.lump

def MapInfo.level (m : MapInfo) (index : LevelIndex) (data : LevelData) : Level :=
  ⟨index, m.name, m.groupTag, m.lump, data⟩

def Episode.joined (e : Episode) (episode : Nat) (maps : List LevelData) : List Level :=
  (e.maps.zip maps).zipIdx.map fun ((m, data), i) => m.level ⟨episode, i⟩ data

def Episode.levels (e : Episode) (episode : Nat) (maps : List LevelData) :
    Except Failure (List Level) :=
  if maps.length = e.maps.length then .ok (e.joined episode maps)
  else .error (.config (.mapCount (episode + 1) maps.length e.maps.length))

def Game.levels (game : Game) (data : GameLevels) : Except Failure (List Level) := do
  if data.episodes.length = game.episodes.length then
    let episodes ← (game.episodes.zip data.episodes).zipIdx.mapM fun ((e, maps), i) =>
      e.levels i maps
    return episodes.flatten
  else
    throw (.config (.episodeCount data.episodes.length game.shortName game.episodes.length))

structure Catalog where
  items : List Item := []
  locations : List Location := []
  /-- The names of the items in each group. -/
  groups : SortedMap String (SortedSet String) := .empty
  keys : SortedMap LevelIndex LevelKeys := .empty

namespace Catalog

def hasGroup (c : Catalog) (group : String) : Bool := c.groups.contains group

def keysAt (c : Catalog) (level : LevelIndex) : LevelKeys := (c.keys.get? level).getD {}

def locationAt? (c : Catalog) (level : LevelIndex) (thing : Nat) : Option Location :=
  c.locations.find? fun loc => loc.level = level && loc.site.map (·.thing) = some thing

end Catalog

end Worldsmith
