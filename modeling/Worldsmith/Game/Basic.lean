import Worldsmith.Json.Basic

namespace Worldsmith

/-- An item to be made once, or once for each level. -/
structure ItemTemplate where
  type : Int
  name : String := ""
  sprite : String := ""
  count : Int := 1
  groups : List String := []
  deriving DecidableEq, Repr, Inhabited

structure KeyTemplate where
  item : ItemTemplate
  /-- The place on the status bar, from 0. -/
  slot : Nat
  useSkull : Bool := false
  regionName : String := ""
  deriving DecidableEq, Repr, Inhabited

structure MapInfo where
  name : String
  lump : String
  deriving DecidableEq, Repr, Inhabited

structure Episode where
  name : Option String := none
  minor : Bool := false
  defaultEnabled : Bool := true
  /-- The map that the episode starts with, from 1. -/
  startLevel : Int := 1
  /-- The map that ends the episode, from 1, if it is not the last one. -/
  bossLevel : Option Int := none
  maps : List MapInfo := []
  deriving DecidableEq, Repr, Inhabited

namespace Episode

def displayName (e : Episode) (index : Nat) : String :=
  e.name.getD ("Episode " ++ Nat.repr (index + 1))

/-- Minor episodes have no start of their own. -/
def start? (e : Episode) : Option Int := if e.minor then none else some e.startLevel

def boss? (e : Episode) : Option Int :=
  if e.minor then none else some (e.bossLevel.getD e.maps.length)

end Episode

structure Settings where
  checkSanity : Bool := false
  extendedNames : Bool := false
  deriving DecidableEq, Repr, Inhabited

structure PoolRatio where
  helpful : Int := 0
  random : Int := 0
  deriving DecidableEq, Repr, Inhabited

structure WorldInfo where
  description : List String := []
  /-- Declarations of world options, as they are written. -/
  worldOptions : List Json := []
  /-- Lines of code by the hook that they are put in. -/
  hooks : SortedMap String (List String) := .empty
  fillerItemWeight : SortedMap String Int := .empty
  /-- By difficulty. -/
  customPoolRatio : SortedMap Int PoolRatio := .empty

instance : Inhabited WorldInfo := ⟨{}⟩

structure Game where
  shortName : String
  iwad : String
  apName : String := "Unnamed id1 Game"
  worldName : String := "id1_game"
  className : String := "id1Game"
  fullName? : Option String := none
  requiredWads : List String := []
  optionalWads : List String := []
  includedWads : List String := []
  settings : Settings := {}
  episodes : List Episode
  /-- The labels of the things that hold a location, by type. -/
  locationTypes : SortedMap Int String := .empty
  extraRequirements : List ItemTemplate := []
  progression : List ItemTemplate := []
  useful : List ItemTemplate := []
  filler : List ItemTemplate := []
  uniqueProgression : List ItemTemplate := []
  uniqueUseful : List ItemTemplate := []
  uniqueFiller : List ItemTemplate := []
  keys : List KeyTemplate := []
  worldInfo : WorldInfo := {}
  gameInfo : Option Json := none
  mapTweaks : Option Json := none
  levelSelect : Option Json := none
  renameLumps : Option Json := none
  /-- Fixed ids of locations, by name. -/
  locationRemap : SortedMap String Int := .empty
  itemRemap : SortedMap String Int := .empty

namespace Game

def fullName (g : Game) : String := g.fullName?.getD g.apName

def isHeretic (g : Game) : Bool := g.iwad == "HERETIC.WAD"

def description (g : Game) : List String :=
  if g.worldInfo.description.isEmpty then
    [g.apName ++ " is a game playable with APDoom version 2.0.0."]
  else g.worldInfo.description

def levelCount (g : Game) : Nat := (g.episodes.flatMap (·.maps)).length

/-- All that a connection may require by its type, in the order of search. -/
def requirable (g : Game) : List ItemTemplate :=
  g.extraRequirements ++ g.progression ++ g.uniqueProgression ++ g.keys.map (·.item)

def templates (g : Game) : List ItemTemplate :=
  g.progression ++ g.useful ++ g.filler ++ g.uniqueProgression ++ g.uniqueUseful ++ g.uniqueFiller

def itemName (g : Game) (type : Int) : String :=
  match g.templates.find? (·.type == type) with
  | some t => t.name
  | none => "(no item)"

def keyOf? (g : Game) (type : Int) : Option KeyTemplate := g.keys.find? (·.item.type == type)

def infoField? (g : Game) (field : String) : Option Json := g.gameInfo.bind (·.get? field)

end Game

end Worldsmith
