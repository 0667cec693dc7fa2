import Worldsmith.Catalog.Compile

namespace Worldsmith

def Location.inRegion (loc : Location) (name : String) : Location := { loc with region := some name }

def Location.assignRegion (levels : List (Level × SortedMap Nat Nat)) (loc : Location) :
    Option Location × Diagnostics :=
  match loc.site, levels.find? (·.1.index = loc.level) with
  | some site, some (level, owners) =>
    match level.data.map.sectorAt? site.position with
    | none => (none, [⟨.missingSector, "Cannot find sector for location: " ++ loc.name⟩])
    | some sector =>
      match (owners.get? sector).bind fun i => level.data.rules.regions[i]? with
      | some region => (some (loc.inRegion (regionName level.name region.name)), [])
      | none =>
        (some (loc.inRegion (entranceName level.name)),
          [⟨.unboundLocation, "Location '" ++ loc.name ++
            "' is not marked as unreachable, and is not associated with a region."⟩])
  | _, _ => (some loc, [])

/-- Splits off every element whose id stands further to the front already. -/
def splitRepeats {α : Type} [Identified α] (seen : List Int) : List α → List α × List α
  | [] => ([], [])
  | e :: es =>
    if seen.contains (Identified.id e) then
      let (kept, dropped) := splitRepeats seen es
      (kept, e :: dropped)
    else
      let (kept, dropped) := splitRepeats (Identified.id e :: seen) es
      (e :: kept, dropped)

namespace Catalog

def assignRegions (levels : List Level) (c : Catalog) : Catalog × Diagnostics :=
  let levels := levels.map fun level => (level, level.data.rules.owners)
  let bound := c.locations.map (·.assignRegion levels)
  ({ c with locations := bound.filterMap (·.1) }, bound.flatMap (·.2))

def remap (game : Game) (c : Catalog) : Catalog :=
  { c with
    locations := (Remap.apply game.locationRemap c.locations).1
    items := (Remap.apply game.itemRemap c.items).1 }

def sorted (c : Catalog) : Catalog :=
  { c with
    locations := c.locations.mergeSort fun a b => a.id ≤ b.id
    items := c.items.mergeSort fun a b => a.id ≤ b.id }

def repeated (what name : String) (id : Int) : Diagnostic :=
  ⟨.duplicateId, what ++ " '" ++ name ++ "' dropped: id " ++ toString id ++ " is already used."⟩

/-- Takes names out of all groups, and then drops the groups that are empty. -/
def pruneGroups (gone : List String) (groups : SortedMap String (SortedSet String)) :
    SortedMap String (SortedSet String) :=
  (groups.map fun _ members => members.filter fun name _ => !gone.contains name).filter
    fun _ members => !members.isEmpty

/-- Keeps the first entity of each id. A name that no item has any more leaves its groups. -/
def dropRepeatedIds (c : Catalog) : Catalog × Diagnostics :=
  let (items, droppedItems) := splitRepeats [] c.items
  let (locations, droppedLocations) := splitRepeats [] c.locations
  let gone := (droppedItems.map (·.name)).filter fun name => !items.any (·.name == name)
  ({ c with items, locations, groups := pruneGroups gone c.groups },
    droppedItems.map (fun e => repeated "Item" e.name e.id) ++
      droppedLocations.map fun e => repeated "Location" e.name e.id)

def prepare (game : Game) (levels : List Level) : Catalog × Diagnostics :=
  let (c, compiling) := compile game levels
  let (c, binding) := c.assignRegions levels
  let (c, dropping) := ((c.remap game).sorted).dropRepeatedIds
  (c, compiling ++ binding ++ dropping)

end Catalog

def fillerGroup : String := "Junk"

def violations (game : Game) (c : Catalog) : List Requirement :=
  (if c.hasGroup fillerGroup then [] else [.fillerGroup]) ++
    (if game.episodes.all (·.minor) then [.majorEpisode] else []) ++
    (if game.episodes.any (·.defaultEnabled) then [] else [.defaultEpisode])

end Worldsmith
