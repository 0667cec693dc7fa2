import Worldsmith.SortedMap
import Worldsmith.Level.Index
import Worldsmith.Level.Sector

namespace Worldsmith

structure Thing where
  x : Int
  y : Int
  angle : Int
  type : Int
  flags : Int
  deriving DecidableEq, Repr, Inhabited

namespace Thing

def position (t : Thing) : Point := ⟨t.x, t.y⟩

/-- Bit 4 of the flags, in two's complement. -/
def isMultiplayerOnly (t : Thing) : Bool := t.flags / 16 % 2 == 1

end Thing

structure MapData where
  things : List Thing := []
  sectors : List Sector := []
  deriving DecidableEq, Repr, Inhabited

def MapData.sectorAt? (m : MapData) (p : Point) : Option Nat :=
  m.sectors.findIdx? (·.contains p)

inductive Target
  | region (index : Nat)
  | hubEntrance
  | levelExit
  /-- A negative code without a meaning. -/
  | unknown (code : Int)
  deriving DecidableEq, Repr, Inhabited

namespace Target

def ofCode (n : Int) : Target :=
  if n = -1 then hubEntrance
  else if n = -2 then levelExit
  else if n < 0 then unknown n
  else region n.toNat

def code : Target → Int
  | region i => i
  | hubEntrance => -1
  | levelExit => -2
  | unknown n => n

def description : Target → String
  | region i => "Region(" ++ toString i ++ ")"
  | hubEntrance => "HubEntrance"
  | levelExit => "LevelExit"
  | unknown n => "Unknown(" ++ toString n ++ ")"

end Target

/-- A way from one region to another. A code names an item that must be held, or if it is negative
an option that must be on. -/
structure Connection where
  target : Target
  requirementsAnd : List Int := []
  requirementsOr : List Int := []
  deriving DecidableEq, Repr, Inhabited

structure Region where
  name : String
  sectors : SortedSet Nat := .empty
  connections : List Connection := []

structure LocationNotes where
  /-- Added to the location's name when names are extended. -/
  name : String := ""
  unreachable : Bool := false
  checkSanity : Bool := false
  deathLogic : Bool := false
  deriving DecidableEq, Repr, Inhabited

structure RuleGraph where
  regions : List Region := []
  /-- The connections out of the level's entrance. -/
  entrance : List Connection := []
  /-- By the index of the thing. -/
  locations : SortedMap Nat LocationNotes := .empty

namespace RuleGraph

/-- The first region with a connection to the level exit. -/
def exitRegion? (g : RuleGraph) : Option Region :=
  g.regions.find? fun r => r.connections.any fun c => c.target = .levelExit

def notes (g : RuleGraph) (thing : Nat) : LocationNotes := (g.locations.get? thing).getD {}

/-- From sectors to the regions that own them; a sector listed twice belongs to the last region. -/
def owners (g : RuleGraph) : SortedMap Nat Nat :=
  g.regions.zipIdx.foldl
    (fun owners (r, i) => r.sectors.toList.foldl (fun owners s => owners.insert s i) owners) .empty

def owner? (g : RuleGraph) (sector : Nat) : Option Region :=
  (g.owners.get? sector).bind fun i => g.regions[i]?

end RuleGraph

structure LevelData where
  map : MapData := {}
  rules : RuleGraph := {}

instance : Inhabited LevelData := ⟨{}⟩

structure GameLevels where
  episodes : List (List LevelData)

end Worldsmith
