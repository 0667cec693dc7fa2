import Worldsmith.Proofs.Catalog.Ledger
import Worldsmith.Proofs.Level.Collection

namespace Worldsmith

open Identified (splitRepeats_perm)

variable {game : Game} {data : GameLevels} {levels : List Level} {level : Level}

theorem Level.eligible_nodup (game : Game) (level : Level) : (level.eligible game).Nodup := by
  have hs : (level.eligible game).Sublist (level.data.map.things.zipIdx.map (·.2)) :=
    List.filter_sublist.map _
  rw [List.zipIdx_map_snd] at hs
  exact List.Nodup.sublist hs List.nodup_range'

theorem Level.spots_nodup (game : Game) (level : Level) : (level.spots game).Nodup := by
  refine List.nodup_append.2 ⟨?_, by simp, ?_⟩
  · refine List.pairwise_map.2 ((level.eligible_nodup game).imp fun hne he => hne ?_)
    simpa using he
  · rintro spot hspot _ hexit rfl
    obtain ⟨i, -, rfl⟩ := List.mem_map.1 hspot
    simp at hexit

theorem Level.mem_spots {spot : Spot} (h : spot ∈ level.spots game) : spot.1 = level.index := by
  rcases List.mem_append.1 h with h | h
  · obtain ⟨i, -, rfl⟩ := List.mem_map.1 h
    rfl
  · rw [List.mem_singleton.1 h]

theorem spots_nodup (h : (levels.map (·.index)).Nodup) :
    (levels.flatMap (·.spots game)).Nodup := by
  refine List.pairwise_flatMap.2 ⟨fun level _ => level.spots_nodup game, ?_⟩
  refine (List.pairwise_map.1 h).imp fun hne a ha b hb he => hne ?_
  rw [← Level.mem_spots ha, he, Level.mem_spots hb]

theorem spots_length (game : Game) (levels : List Level) :
    (levels.flatMap (·.spots game)).length =
      (levels.flatMap (·.eligible game)).length + levels.length := by
  induction levels with
  | nil => rfl
  | cons level levels ih =>
    have hlevel : (level.spots game).length = (level.eligible game).length + 1 := by
      simp [Level.spots]
    rw [List.flatMap_cons, List.length_append, ih, hlevel, List.flatMap_cons, List.length_append,
      List.length_cons]
    omega

namespace Diagnostics

theorem countP_costsLocation (notes : Diagnostics) :
    notes.countP (·.costsLocation) = notes.count .locationOverflow + notes.count .missingSector +
      notes.countP (·.repeats "Location") := by
  induction notes with
  | nil => rfl
  | cons note notes ih =>
    have hnote : (if note.costsLocation then 1 else 0) =
        (if note.kind = .locationOverflow then 1 else 0) +
        (if note.kind = .missingSector then 1 else 0) +
        (if note.repeats "Location" then 1 else 0) := by
      obtain ⟨kind, message⟩ := note
      cases kind <;> simp [Diagnostic.costsLocation, Diagnostic.repeats]
    simp only [count, List.countP_cons, decide_eq_true_eq] at ih ⊢
    omega

end Diagnostics

namespace Catalog

theorem assignRegions_notes_kind {c : Catalog} : ∀ note ∈ (c.assignRegions levels).2,
    note.kind = .missingSector ∨ note.kind = .unboundLocation := by
  intro note hn
  rw [assignRegions_notes] at hn
  obtain ⟨loc, -, hn⟩ := List.mem_flatMap.1 hn
  generalize loc.bound levels = out, loc.bound_step levels = h at hn
  cases h with
  | exit | elsewhere | owned => cases hn
  | outside =>
    cases List.mem_singleton.1 hn
    exact .inl rfl
  | unowned =>
    cases List.mem_singleton.1 hn
    exact .inr rfl

/-- The entities that share their id with one in front. -/
def droppedItems (game : Game) (levels : List Level) : List Item :=
  (splitRepeats [] (numbered game levels).sorted.items).2

def droppedLocations (game : Game) (levels : List Level) : List Location :=
  (splitRepeats [] (numbered game levels).sorted.locations).2

theorem prepare_repeats {p : Diagnostic → Bool} (hp : ∀ d, p d = true → d.kind = .duplicateId) :
    (prepare game levels).2.filter p = (repeatNotes "Item" (droppedItems game levels)).filter p ++
      (repeatNotes "Location" (droppedLocations game levels)).filter p := by
  have hkind : ∀ note ∈ (compileLocations game levels).2 ++
      ((compile game levels).1.assignRegions levels).2, note.kind ≠ .duplicateId := by
    intro note hn
    rcases List.mem_append.1 hn with hn | hn
    · rcases compileLocations_notes note hn with hk | hk <;> simp [hk]
    · rcases assignRegions_notes_kind note hn with hk | hk <;> simp [hk]
  have hnil : ((compileLocations game levels).2 ++
      ((compile game levels).1.assignRegions levels).2).filter p = [] :=
    List.filter_eq_nil_iff.2 fun note hn h => hkind note hn (hp note h)
  have hnotes : (prepare game levels).2 = (compileLocations game levels).2 ++
      ((compile game levels).1.assignRegions levels).2 ++
      (repeatNotes "Item" (droppedItems game levels) ++
        repeatNotes "Location" (droppedLocations game levels)) := rfl
  rw [hnotes, List.filter_append, hnil, List.nil_append, List.filter_append]

theorem count_repeated_items (game : Game) (levels : List Level) :
    (prepare game levels).2.countP (·.repeats "Item") = (droppedItems game levels).length := by
  rw [List.countP_eq_length_filter, prepare_repeats fun _ => Diagnostic.repeats_kind,
    repeatNotes_filter_eq_self (repeated_repeats "Item"),
    repeatNotes_filter_eq_nil repeated_location_repeats, List.append_nil, repeatNotes_length]

theorem count_repeated_locations (game : Game) (levels : List Level) :
    (prepare game levels).2.countP (·.repeats "Location") =
      (droppedLocations game levels).length := by
  rw [List.countP_eq_length_filter, prepare_repeats fun _ => Diagnostic.repeats_kind,
    repeatNotes_filter_eq_nil repeated_item_repeats,
    repeatNotes_filter_eq_self (repeated_repeats "Location"), List.nil_append,
    repeatNotes_length]

theorem count_duplicateId (game : Game) (levels : List Level) :
    (prepare game levels).2.count .duplicateId =
      (droppedItems game levels).length + (droppedLocations game levels).length := by
  rw [Diagnostics.count, List.countP_eq_length_filter,
    prepare_repeats fun _ h => of_decide_eq_true h,
    repeatNotes_filter_eq_self fun _ _ => rfl, repeatNotes_filter_eq_self fun _ _ => rfl,
    List.length_append, repeatNotes_length, repeatNotes_length]

theorem items_length (game : Game) (levels : List Level) :
    (compile game levels).1.items.length =
      (prepare game levels).1.items.length + (droppedItems game levels).length := by
  have hsplit := splitRepeats_perm [] (numbered game levels).sorted.items
  have hlength := (hsplit.trans (sorted_items_perm _)).length_eq
  have hitems := congrArg List.length
    (remap_items game ((compile game levels).1.assignRegions levels).1)
  rw [List.length_append] at hlength
  rw [List.length_map, List.length_map] at hitems
  exact hitems.symm.trans hlength.symm

/-- Nothing is lost without a note: `lost` has the spots that went without a location, each with the
note that was made on it, in the order of notes. -/
structure Conserved (game : Game) (levels : List Level) (lost : List (Spot × Diagnostic)) :
    Prop where
  fate : ∀ spot, ((prepare game levels).1.locations.map (·.spot)).count spot +
    (lost.map (·.1)).count spot = if spot ∈ levels.flatMap (·.spots game) then 1 else 0
  noted : (prepare game levels).2.filter (·.costsLocation) = lost.map (·.2)
  accounted : ∀ e ∈ lost, Accounts game levels e.1 e.2
  exits : ∀ e ∈ lost, e.1.2 = none → e.2.kind = .duplicateId
  locations : (levels.flatMap (·.eligible game)).length + levels.length =
    (prepare game levels).1.locations.length + (prepare game levels).2.count .locationOverflow +
      (prepare game levels).2.count .missingSector +
      (prepare game levels).2.countP (·.repeats "Location")
  items : (compile game levels).1.items.length =
    (prepare game levels).1.items.length + (prepare game levels).2.countP (·.repeats "Item")
  repeats : (prepare game levels).2.count .duplicateId =
    (prepare game levels).2.countP (·.repeats "Item") +
      (prepare game levels).2.countP (·.repeats "Location")

/-- Every spot of a level has one location in the end or one note on its loss, and nothing else has
either. -/
theorem prepare_conserved (h : game.levels data = .ok levels) :
    ∃ lost, Conserved game levels lost := by
  obtain ⟨lost, hledger⟩ := prepare_ledger game levels
  refine ⟨lost, ?_, hledger.noted, hledger.accounted,
    fun e he hexit => (hledger.accounted e he).exit hexit, ?_, ?_, ?_⟩
  · intro spot
    rw [← List.count_append, hledger.covers.count_eq spot]
    exact (spots_nodup (Game.levels_nodup h)).count
  · have hlength := hledger.covers.length_eq
    have hnoted := congrArg List.length hledger.noted
    rw [← List.countP_eq_length_filter, Diagnostics.countP_costsLocation] at hnoted
    rw [spots_length, List.length_append] at hlength
    simp only [List.length_map] at hlength hnoted
    omega
  · rw [count_repeated_items, items_length]
  · rw [count_duplicateId, count_repeated_items, count_repeated_locations]

theorem prepare_conserved_twin : twinGame.levels twinData = .ok twinLevels ∧
    ∃ lost, Conserved twinGame twinLevels lost :=
  ⟨rfl, prepare_conserved twinGame_levels⟩

end Catalog

end Worldsmith
