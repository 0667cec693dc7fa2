import Worldsmith.Level.Index

/-!
Numeric ids. The locations of a level are numbered from `(episode + 1) * 100000 + (map + 1) * 1000`,
where the level exit has the base itself. Its items lie above
`(episode + 1) * 10000000 + (map + 1) * 100000`, by type; items of no level have their bare type.
-/

namespace Worldsmith

inductive EntityKind
  | type (code : Int)
  | levelUnlock
  | levelComplete
  deriving DecidableEq, Repr, Inhabited

namespace EntityKind

/-- The code in the documents, where the pseudo types are negative. -/
def code : EntityKind → Int
  | type c => c
  | levelUnlock => -1
  | levelComplete => -2

def offset : EntityKind → Int
  | type c => c
  | levelUnlock => 0
  | levelComplete => 99999

end EntityKind

namespace LevelIndex

def locationBase (l : LevelIndex) : Int := (l.episode + 1) * 100000 + (l.map + 1) * 1000

def itemBase (l : LevelIndex) : Int := (l.episode + 1) * 10000000 + (l.map + 1) * 100000

def exitId (l : LevelIndex) : Int := l.locationBase

end LevelIndex

def itemId (level : Option LevelIndex) (kind : EntityKind) : Int :=
  match level with
  | some l => l.itemBase + kind.offset
  | none => kind.offset

/-- A level has ids for this many locations. -/
def maxLocations : Nat := 999

structure LocationOverflow where
  level : LevelIndex
  name : String
  deriving DecidableEq, Repr

def LocationOverflow.message (o : LocationOverflow) : String :=
  "maximum number of locations reached for " ++ o.level.toString ++ " (location '" ++ o.name ++
    "' dropped)"

/-- The id of the location with a given rank in its level, where ranks start at 1. -/
def locationId (level : LevelIndex) (rank : Nat) (name : String) : Except LocationOverflow Int :=
  if maxLocations < rank then .error ⟨level, name⟩ else .ok (level.locationBase + rank)

end Worldsmith
