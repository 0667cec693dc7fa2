import Worldsmith.Catalog.Basic
import Worldsmith.Catalog.Naming
import Worldsmith.Diagnostic
import Worldsmith.Region.Name

/-!
The catalog of a game. Every thing of a listed type that is there for a single player gets a rank in
its level and, if its rank allows, a location; every level gets one more for its exit. The items are
those of the game as a whole, a copy of each key for the levels that hold one, and for every level
its unlock and completion and its own copies of the unique items.
-/

namespace Worldsmith

/-- A thing of a listed type, with its index and the label of its type. -/
structure Placed where
  index : Nat
  thing : Thing
  label : String
  deriving DecidableEq, Repr

/-- The things of a level that count, in the order of ranks. -/
def Level.placed (game : Game) (level : Level) : List Placed :=
  level.data.map.things.zipIdx.filterMap fun (thing, i) =>
    match game.locationTypes.get? thing.type with
    | some label => if thing.isMultiplayerOnly then none else some ⟨i, thing, label⟩
    | none => none

def ItemTemplate.nameIn (t : ItemTemplate) : Option Level → String
  | none => t.name
  | some level => if t.name.isEmpty then level.name else level.name ++ " - " ++ t.name

/-- Puts `name` in the place of every `%MAP%`. -/
def expandMarker (name : List Char) : List Char → List Char
  | '%' :: 'M' :: 'A' :: 'P' :: '%' :: cs => name ++ expandMarker name cs
  | c :: cs => c :: expandMarker name cs
  | [] => []

namespace Catalog

abbrev Locations := List Location × Diagnostics

def placedLocation (level : Level) (p : Placed) (id : Int) (name : String) : Location :=
  let notes := level.data.rules.notes p.index
  { id, name
    level := level.index
    site := some ⟨p.index, p.thing.position⟩
    kind := .type p.thing.type
    region := none
    checkSanity := notes.checkSanity
    deathLogic := notes.deathLogic }

def insertLocation (game : Game) (level : Level) (acc : Locations) (p : Placed) (rank : Nat) :
    Locations :=
  let notes := level.data.rules.notes p.index
  if notes.unreachable then acc
  else
    let base := level.name ++ " - " ++ p.label
    match locationId level.index rank base with
    | .error overflow => (acc.1, acc.2 ++ [⟨.locationOverflow, overflow.message⟩])
    | .ok id =>
      let name := uniqueName game.settings.extendedNames base notes.name (acc.1.map (·.name))
      (acc.1 ++ [placedLocation level p id name], acc.2)

def exitLocation (level : Level) (region : String) : Location where
  id := level.index.exitId
  name := level.name ++ " - Exit"
  level := level.index
  site := none
  kind := .levelComplete
  region := some region
  checkSanity := false
  deathLogic := false

/-- The region that a level is completed in, which is its entrance if no region leads out. -/
def exitRegionName (level : Level) : String :=
  match level.data.rules.exitRegion? with
  | some region => regionName level.name region.name
  | none => entranceName level.name

def exitNotes (level : Level) : Diagnostics :=
  match level.data.rules.exitRegion? with
  | some _ => []
  | none => [⟨.levelWithoutExit, level.name ++ " has no region that connects to the Exit."⟩]

def insertExit (level : Level) (acc : Locations) : Locations :=
  (acc.1 ++ [exitLocation level (exitRegionName level)], acc.2 ++ exitNotes level)

def insertLevelLocations (game : Game) (acc : Locations) (level : Level) : Locations :=
  insertExit level (((level.placed game).zipIdx 1).foldl
    (fun acc (p, rank) => insertLocation game level acc p rank) acc)

def compileLocations (game : Game) (levels : List Level) : Locations :=
  levels.foldl (insertLevelLocations game) ([], [])

def groupOf (level : Option Level) (group : String) : String :=
  match level with
  | some level => String.ofList (expandMarker level.groupTag.toList group.toList)
  | none => group

def addToGroup (groups : SortedMap String (SortedSet String)) (item group : String) :
    SortedMap String (SortedSet String) :=
  groups.insert group (SortedSet.add ((groups.get? group).getD .empty) item)

/-- Enters an item into its groups, of which the ones without a name do not count. -/
def addToGroups (c : Catalog) (item : String) (names : List String) (level : Option Level) :
    Catalog :=
  let names := (names.filter (!·.isEmpty)).map (groupOf level)
  { c with groups := names.foldl (fun groups group => addToGroup groups item group) c.groups }

def insertItem (c : Catalog) (t : ItemTemplate) (kind : EntityKind)
    (classification : Classification) (level : Option Level) : Catalog :=
  let name := t.nameIn level
  let index := level.map (·.index)
  let c := c.addToGroups name t.groups level
  { c with items := c.items ++ [⟨itemId index kind, name, index, kind, t.count, false,
      classification⟩] }

def insertItems (c : Catalog) (ts : List ItemTemplate) (classification : Classification)
    (level : Option Level) : Catalog :=
  ts.foldl (fun c t => c.insertItem t (.type t.type) classification level) c

/-- Enters a key that is placed in a level, and its item unless one of the name is there. -/
def insertKey (level : Level) (c : Catalog) (key : KeyTemplate) : Catalog :=
  let name := level.name ++ " - " ++ key.item.name
  let keys := (c.keysAt level.index).place key.slot key.useSkull
  let c := { c with keys := c.keys.insert level.index keys }
  if c.items.any (·.name == name) then c
  else
    let kind := EntityKind.type key.item.type
    let c := c.addToGroups name key.item.groups (some level)
    { c with items := c.items ++ [⟨itemId (some level.index) kind, name, some level.index, kind,
        1, true, { progression := true }⟩] }

def insertKeys (game : Game) (c : Catalog) (level : Level) : Catalog :=
  ((level.placed game).filterMap fun p => game.keyOf? p.thing.type).foldl (insertKey level) c

def unlockTemplate : ItemTemplate := { type := -1, count := 1, groups := ["Levels", "%MAP%"] }

def completeTemplate : ItemTemplate := { type := -2, name := "Complete", count := 0 }

def insertLevelItems (game : Game) (c : Catalog) (level : Level) : Catalog :=
  c.insertItem unlockTemplate .levelUnlock { progression := true, useful := true } (some level)
    |>.insertItem completeTemplate .levelComplete { progression := true } (some level)
    |>.insertItems game.uniqueProgression { progression := true } (some level)
    |>.insertItems game.uniqueUseful { useful := true } (some level)
    |>.insertItems game.uniqueFiller {} (some level)

def compileItems (game : Game) (levels : List Level) : Catalog :=
  let c := insertItems {} game.progression { progression := true } none
    |>.insertItems game.useful { useful := true } none
    |>.insertItems game.filler {} none
  let c := levels.foldl (insertKeys game) c
  levels.foldl (insertLevelItems game) c

def compile (game : Game) (levels : List Level) : Catalog × Diagnostics :=
  let (locations, diagnostics) := compileLocations game levels
  ({ compileItems game levels with locations }, diagnostics)

end Catalog

end Worldsmith
