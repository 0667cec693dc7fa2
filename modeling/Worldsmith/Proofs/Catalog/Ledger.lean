import Worldsmith.Proofs.Catalog.Locations
import Worldsmith.Proofs.Catalog.Passes

/-!
Every place that is due a location has one in the end, or there is one note on what became of it.
The account is kept for one step at a time: steps in a row and steps side by side add up.
-/

namespace Worldsmith

variable {game : Game} {levels : List Level} {level : Level} {loc : Location}

/-- What a location is for: a thing of a level, by its index, or the level's exit. -/
abbrev Spot := LevelIndex × Option Nat

def Location.spot (loc : Location) : Spot := (loc.level, loc.site.map (·.thing))

def Level.eligible (game : Game) (level : Level) : List Nat :=
  (level.data.map.things.zipIdx.filter fun e =>
    game.locationTypes.contains e.1.type && !e.1.isMultiplayerOnly &&
      !(level.data.rules.notes e.2).unreachable).map (·.2)

def Level.spots (game : Game) (level : Level) : List Spot :=
  (level.eligible game).map (fun i => (level.index, some i)) ++ [(level.index, none)]

def Diagnostic.repeats (what : String) (d : Diagnostic) : Bool :=
  d.kind = .duplicateId && (what ++ " '").toList.isPrefixOf d.message.toList

def Diagnostic.costsLocation (d : Diagnostic) : Bool :=
  d.kind = .locationOverflow || d.kind = .missingSector || d.repeats "Location"

theorem Diagnostic.repeats_kind {what : String} {d : Diagnostic} (h : d.repeats what = true) :
    d.kind = .duplicateId := by
  rw [repeats, Bool.and_eq_true] at h
  exact of_decide_eq_true h.1

namespace Catalog

open Identified (splitRepeats_perm)

theorem repeated_repeats (what name : String) (id : Int) :
    (repeated what name id).repeats what = true := by
  simp [Diagnostic.repeats, repeated, String.toList_append]

theorem repeated_item_repeats (name : String) (id : Int) :
    (repeated "Item" name id).repeats "Location" = false := by
  simp [Diagnostic.repeats, repeated, String.toList_append, List.isPrefixOf]

theorem repeated_location_repeats (name : String) (id : Int) :
    (repeated "Location" name id).repeats "Item" = false := by
  simp [Diagnostic.repeats, repeated, String.toList_append, List.isPrefixOf]

theorem repeated_item_costs (name : String) (id : Int) :
    (repeated "Item" name id).costsLocation = false := by
  rw [Diagnostic.costsLocation, repeated_item_repeats]
  rfl

theorem repeated_location_costs (name : String) (id : Int) :
    (repeated "Location" name id).costsLocation = true := by
  rw [Diagnostic.costsLocation, repeated_repeats, Bool.or_true]

/-- What a note that costs a location says of the spot that goes without. -/
inductive Accounts (game : Game) (levels : List Level) : Spot → Diagnostic → Prop
  | overflow {level : Level} {p : Placed} {rank : Nat} (hl : level ∈ levels)
    (hp : (p, rank) ∈ (level.placed game).zipIdx 1) (hr : maxLocations < rank) :
    Accounts game levels (level.index, some p.index) (overflowNote level p)
  | outside {loc : Location} {site : Site} {level : Level}
    (hloc : loc ∈ (compile game levels).1.locations) (hs : loc.site = some site)
    (hl : loc.levelIn? levels = some level)
    (hx : level.data.map.sectorAt? site.position = none) :
    Accounts game levels loc.spot loc.missingSectorNote
  | repeated {loc : Location} (hloc : loc ∈ (numbered game levels).locations) :
    Accounts game levels loc.spot (repeated "Location" loc.name loc.id)

theorem Accounts.exit {spot : Spot} {note : Diagnostic} (h : Accounts game levels spot note)
    (hs : spot.2 = none) : note.kind = .duplicateId := by
  cases h with
  | overflow => cases hs
  | outside hloc hsite => simp [Location.spot, hsite] at hs
  | repeated => rfl

/-- Some spots, the locations that are there for them, the notes that were made on the way, and the
spots that went without with the note on each. -/
structure Ledger (game : Game) (levels : List Level) (spots : List Spot) (locs : List Location)
    (notes : Diagnostics) (lost : List (Spot × Diagnostic)) : Prop where
  covers : (locs.map (·.spot) ++ lost.map (·.1)).Perm spots
  noted : notes.filter (·.costsLocation) = lost.map (·.2)
  accounted : ∀ e ∈ lost, Accounts game levels e.1 e.2

namespace Ledger
variable {spots spots' : List Spot} {locs locs' : List Location} {notes notes' : Diagnostics}
  {lost lost' : List (Spot × Diagnostic)}

theorem nil : Ledger game levels [] [] [] [] :=
  ⟨.refl _, rfl, by simp⟩

theorem place (loc : Location) : Ledger game levels [loc.spot] [loc] [] [] :=
  ⟨.refl _, rfl, by simp⟩

theorem lose {spot : Spot} {note : Diagnostic} (h : Accounts game levels spot note)
    (hc : note.costsLocation = true) : Ledger game levels [spot] [] [note] [(spot, note)] :=
  ⟨.refl _, by simp [hc], by simpa using h⟩

theorem quiet (h : ∀ note ∈ notes, note.costsLocation = false) :
    Ledger game levels [] [] notes [] :=
  ⟨.refl _, by simpa using h, by simp⟩

theorem perm (h : Ledger game levels spots locs notes lost) (hs : spots.Perm spots') :
    Ledger game levels spots' locs notes lost :=
  ⟨h.covers.trans hs, h.noted, h.accounted⟩

theorem append (h : Ledger game levels spots locs notes lost)
    (h' : Ledger game levels spots' locs' notes' lost') :
    Ledger game levels (spots ++ spots') (locs ++ locs') (notes ++ notes') (lost ++ lost') where
  covers := by
    refine List.perm_iff_count.2 fun spot => ?_
    have hc := h.covers.count_eq spot
    have hc' := h'.covers.count_eq spot
    simp only [List.map_append, List.count_append] at hc hc' ⊢
    omega
  noted := by rw [List.filter_append, List.map_append, h.noted, h'.noted]
  accounted e he := (List.mem_append.1 he).elim (h.accounted e) (h'.accounted e)

/-- The locations that one step leaves are the spots of the next. -/
theorem trans (h : Ledger game levels spots locs notes lost)
    (h' : Ledger game levels (locs.map (·.spot)) locs' notes' lost') :
    Ledger game levels spots locs' (notes ++ notes') (lost ++ lost') where
  covers := by
    refine List.perm_iff_count.2 fun spot => ?_
    have hc := h.covers.count_eq spot
    have hc' := h'.covers.count_eq spot
    simp only [List.map_append, List.count_append] at hc hc' ⊢
    omega
  noted := by rw [List.filter_append, List.map_append, h.noted, h'.noted]
  accounted e he := (List.mem_append.1 he).elim (h.accounted e) (h'.accounted e)

end Ledger

def Placed.spots (level : Level) (p : Placed) : List Spot :=
  if (level.data.rules.notes p.index).unreachable then [] else [(level.index, some p.index)]

section Compiling
variable {acc acc' : Locations} {spots : List Spot} {lost : List (Spot × Diagnostic)}

theorem Insertion.ledger {p : Placed} {rank : Nat} (h : Insertion game level p rank acc acc')
    (hl : level ∈ levels) (hp : (p, rank) ∈ (level.placed game).zipIdx 1)
    (hacc : Ledger game levels spots acc.1 acc.2 lost) :
    ∃ lost', Ledger game levels (spots ++ Placed.spots level p) acc'.1 acc'.2 lost' := by
  cases h with
  | unreachable hu =>
    rw [Placed.spots, if_pos hu, List.append_nil]
    exact ⟨lost, hacc⟩
  | overflow hu hr =>
    have hlose := Ledger.lose (.overflow hl hp hr) rfl
    have hnew := hacc.append hlose
    rw [List.append_nil] at hnew
    rw [Placed.spots, hu]
    exact ⟨_, hnew⟩
  | added hu hr =>
    have hnew := hacc.append (.place (placedLocation level p (level.index.locationBase + rank)
      (locationName game level p acc.1)))
    rw [List.append_nil] at hnew
    rw [Placed.spots, hu]
    exact ⟨_, hnew⟩

theorem insertLocations_ledger (hl : level ∈ levels) {ps : List (Placed × Nat)}
    (hps : ps ⊆ (level.placed game).zipIdx 1)
    (hacc : Ledger game levels spots acc.1 acc.2 lost) :
    let acc' := ps.foldl (fun acc (p, rank) => insertLocation game level acc p rank) acc
    ∃ lost', Ledger game levels (spots ++ ps.flatMap fun e => Placed.spots level e.1)
      acc'.1 acc'.2 lost' := by
  induction ps generalizing acc spots lost with
  | nil => exact ⟨lost, hacc.perm (by simp)⟩
  | cons e ps ih =>
    rw [List.cons_subset] at hps
    obtain ⟨lost', hacc'⟩ :=
      (insertLocation_step game level acc e.1 e.2).ledger hl hps.1 hacc
    rw [List.flatMap_cons, ← List.append_assoc]
    exact ih hps.2 hacc'

theorem placed_spots (game : Game) (level : Level) :
    (level.placed game).flatMap (Placed.spots level) =
      (level.eligible game).map fun i => (level.index, some i) := by
  rw [Level.placed, Level.eligible]
  induction level.data.map.things.zipIdx with
  | nil => rfl
  | cons e rest ih =>
    obtain ⟨thing, i⟩ := e
    rw [List.filterMap_cons, List.filter_cons]
    cases hlabel : game.locationTypes.get? thing.type with
    | none => simpa [SortedMap.contains, hlabel] using ih
    | some label =>
      cases hm : thing.isMultiplayerOnly with
      | true => simpa [hlabel, hm] using ih
      | false =>
        cases hu : (level.data.rules.notes i).unreachable <;>
          simpa [SortedMap.contains, hlabel, hm, hu, Placed.spots] using ih

theorem exitNotes_quiet (level : Level) : ∀ note ∈ exitNotes level, note.costsLocation = false := by
  intro note hn
  simp [Diagnostic.costsLocation, Diagnostic.repeats, exitNotes_kind hn]

theorem insertLevelLocations_ledger (hl : level ∈ levels)
    (hacc : Ledger game levels spots acc.1 acc.2 lost) :
    let acc' := insertLevelLocations game acc level
    ∃ lost', Ledger game levels (spots ++ level.spots game) acc'.1 acc'.2 lost' := by
  intro acc'
  obtain ⟨lost', hthings⟩ := insertLocations_ledger hl (fun _ h => h) hacc
  have hexit : Ledger game levels [(level.index, none)] _ _ _ :=
    (Ledger.place (exitLocation level (exitRegionName level))).append
      (.quiet (exitNotes_quiet level))
  have hnew := hthings.append hexit
  have hspots := List.flatMap_map Prod.fst (Placed.spots level) ((level.placed game).zipIdx 1)
  rw [List.zipIdx_map_fst, placed_spots] at hspots
  rw [← hspots, List.append_assoc] at hnew
  exact ⟨_, hnew⟩

theorem compileLocations_ledger (game : Game) (levels : List Level) :
    ∃ lost, Ledger game levels (levels.flatMap (·.spots game)) (compileLocations game levels).1
      (compileLocations game levels).2 lost := by
  have hrun : ∀ ls ⊆ levels, ∀ acc spots lost, Ledger game levels spots acc.1 acc.2 lost →
      ∃ lost', Ledger game levels (spots ++ ls.flatMap (·.spots game))
        (ls.foldl (insertLevelLocations game) acc).1
        (ls.foldl (insertLevelLocations game) acc).2 lost' := by
    intro ls hls
    induction ls with
    | nil => exact fun acc spots lost hacc => ⟨lost, hacc.perm (by simp)⟩
    | cons level ls ih =>
      intro acc spots lost hacc
      rw [List.cons_subset] at hls
      obtain ⟨lost', hacc'⟩ := insertLevelLocations_ledger hls.1 hacc
      rw [List.flatMap_cons, ← List.append_assoc]
      exact ih hls.2 _ _ _ hacc'
  exact hrun levels (fun _ h => h) ([], []) [] [] .nil

end Compiling

theorem binding_ledger {out : Option Location × Diagnostics} (h : loc.Binding levels out)
    (hloc : loc ∈ (compile game levels).1.locations) :
    ∃ lost, Ledger game levels [loc.spot] out.1.toList out.2 lost := by
  cases h with
  | exit => exact ⟨_, .place loc⟩
  | elsewhere => exact ⟨_, .place loc⟩
  | outside hs hl hx => exact ⟨_, .lose (.outside hloc hs hl hx) rfl⟩
  | owned => exact ⟨_, .place (loc.inRegion _)⟩
  | unowned => exact ⟨_, (Ledger.place (loc.inRegion _)).append (.quiet (by simp; rfl))⟩

theorem assignRegions_ledger (game : Game) (levels : List Level) :
    let c := (compile game levels).1
    ∃ lost, Ledger game levels (c.locations.map (·.spot)) (c.assignRegions levels).1.locations
      (c.assignRegions levels).2 lost := by
  intro c
  rw [assignRegions_locations, assignRegions_notes]
  have hrun : ∀ locs ⊆ c.locations, ∃ lost, Ledger game levels (locs.map (·.spot))
      (locs.filterMap fun loc => (loc.bound levels).1)
      (locs.flatMap fun loc => (loc.bound levels).2) lost := by
    intro locs hlocs
    induction locs with
    | nil => exact ⟨[], .nil⟩
    | cons loc locs ih =>
      rw [List.cons_subset] at hlocs
      obtain ⟨first, hfirst⟩ := binding_ledger (loc.bound_step levels) hlocs.1
      obtain ⟨rest, hrest⟩ := ih hlocs.2
      have hkept : (loc :: locs).filterMap (fun loc => (loc.bound levels).1) =
          (loc.bound levels).1.toList ++ locs.filterMap fun loc => (loc.bound levels).1 := by
        rw [List.filterMap_cons]
        cases (loc.bound levels).1 <;> rfl
      rw [hkept, List.flatMap_cons]
      exact ⟨_, hfirst.append hrest⟩
  exact hrun _ (List.Subset.refl _)

theorem numbered_spots (game : Game) (levels : List Level) :
    (numbered game levels).locations.map (·.spot) =
      ((compile game levels).1.assignRegions levels).1.locations.map (·.spot) :=
  Remap.map_apply _ (fun _ => rfl) _ _

section Repeats
variable {α : Type} [Identified α] {p : Diagnostic → Bool} {what : String}

def repeatNotes (what : String) (dropped : List α) : Diagnostics :=
  dropped.map fun e => repeated what (Identified.name e) (Identified.id e)

@[simp] theorem repeatNotes_length (what : String) (dropped : List α) :
    (repeatNotes what dropped).length = dropped.length :=
  List.length_map _

theorem repeatNotes_filter_eq_nil (h : ∀ name id, p (repeated what name id) = false)
    (dropped : List α) : (repeatNotes what dropped).filter p = [] := by
  refine List.filter_eq_nil_iff.2 fun note hn => ?_
  obtain ⟨e, -, rfl⟩ := List.mem_map.1 hn
  rw [h]
  exact Bool.false_ne_true

theorem repeatNotes_filter_eq_self (h : ∀ name id, p (repeated what name id) = true)
    (dropped : List α) : (repeatNotes what dropped).filter p = repeatNotes what dropped := by
  refine List.filter_eq_self.2 fun note hn => ?_
  obtain ⟨e, -, rfl⟩ := List.mem_map.1 hn
  exact h _ _

end Repeats

theorem dropRepeatedIds_notes (c : Catalog) : c.dropRepeatedIds.2 =
    repeatNotes "Item" (splitRepeats [] c.items).2 ++
      repeatNotes "Location" (splitRepeats [] c.locations).2 := rfl

theorem dropRepeatedIds_ledger (game : Game) (levels : List Level) :
    let c := (numbered game levels).sorted
    ∃ lost, Ledger game levels ((numbered game levels).locations.map (·.spot))
      c.dropRepeatedIds.1.locations c.dropRepeatedIds.2 lost := by
  intro c
  have hsplit := splitRepeats_perm [] c.locations
  have hperm := hsplit.trans (sorted_locations_perm (numbered game levels))
  refine ⟨(splitRepeats [] c.locations).2.map fun e =>
    (e.spot, repeated "Location" e.name e.id), ?_, ?_, ?_⟩
  · have hspots := hperm.map (·.spot)
    rw [List.map_append] at hspots
    rw [List.map_map]
    exact hspots
  · rw [List.map_map, dropRepeatedIds_notes, List.filter_append,
      repeatNotes_filter_eq_nil repeated_item_costs,
      repeatNotes_filter_eq_self repeated_location_costs]
    rfl
  · intro e he
    obtain ⟨loc, hloc, rfl⟩ := List.mem_map.1 he
    exact .repeated (hperm.subset (List.mem_append_right _ hloc))

/-- Compiling and the passes account for every spot. -/
theorem prepare_ledger (game : Game) (levels : List Level) :
    ∃ lost, Ledger game levels (levels.flatMap (·.spots game)) (prepare game levels).1.locations
      (prepare game levels).2 lost := by
  obtain ⟨_, hcompile⟩ := compileLocations_ledger game levels
  obtain ⟨_, hbind⟩ := assignRegions_ledger game levels
  obtain ⟨_, hdrop⟩ := dropRepeatedIds_ledger game levels
  rw [numbered_spots] at hdrop
  exact ⟨_, (hcompile.trans hbind).trans hdrop⟩

end Catalog

end Worldsmith
