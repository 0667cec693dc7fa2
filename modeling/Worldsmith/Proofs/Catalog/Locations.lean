import Worldsmith.Catalog.Compile

namespace Worldsmith.Catalog

variable {game : Game} {levels : List Level} {level : Level} {loc : Location}

def overflowNote (level : Level) (p : Placed) : Diagnostic :=
  ⟨.locationOverflow,
    (LocationOverflow.mk level.index (level.name ++ " - " ++ p.label)).message⟩

def locationName (game : Game) (level : Level) (p : Placed) (taken : List Location) : String :=
  uniqueName game.settings.extendedNames (level.name ++ " - " ++ p.label)
    (level.data.rules.notes p.index).name (taken.map (·.name))

/-- The possible outcomes for a thing of a given rank. -/
inductive Insertion (game : Game) (level : Level) (p : Placed) (rank : Nat) (acc : Locations) :
    Locations → Prop
  | unreachable (hu : (level.data.rules.notes p.index).unreachable = true) :
    Insertion game level p rank acc acc
  | overflow (hu : (level.data.rules.notes p.index).unreachable = false)
    (hr : maxLocations < rank) :
    Insertion game level p rank acc (acc.1, acc.2 ++ [overflowNote level p])
  | added (hu : (level.data.rules.notes p.index).unreachable = false)
    (hr : rank ≤ maxLocations) :
    Insertion game level p rank acc (acc.1 ++ [placedLocation level p
      (level.index.locationBase + rank) (locationName game level p acc.1)], acc.2)

theorem insertLocation_step (game : Game) (level : Level) (acc : Locations) (p : Placed)
    (rank : Nat) : Insertion game level p rank acc (insertLocation game level acc p rank) := by
  cases hu : (level.data.rules.notes p.index).unreachable with
  | true =>
    simp only [insertLocation, hu, if_true]
    exact .unreachable hu
  | false =>
    by_cases hr : maxLocations < rank
    · simp only [insertLocation, hu, locationId, if_pos hr]
      exact .overflow hu hr
    · simp only [insertLocation, hu, locationId, if_neg hr]
      exact .added hu (Nat.le_of_not_lt hr)

theorem insertLevelLocations_induction {P : Locations → Prop} {acc : Locations} (hacc : P acc)
    (hthing : ∀ p rank acc acc', (p, rank) ∈ (level.placed game).zipIdx 1 →
      Insertion game level p rank acc acc' → P acc → P acc')
    (hexit : ∀ acc, P acc → P (insertExit level acc)) :
    P (insertLevelLocations game acc level) := by
  refine hexit _ (List.foldlRecOn _ _ hacc fun acc h e he => ?_)
  exact hthing e.1 e.2 acc _ he (insertLocation_step game level acc e.1 e.2) h

/-- What the empty list has and every step keeps is true of the whole run. -/
theorem compileLocations_induction {P : Locations → Prop} (hnil : P ([], []))
    (hthing : ∀ level ∈ levels, ∀ p rank acc acc', (p, rank) ∈ (level.placed game).zipIdx 1 →
      Insertion game level p rank acc acc' → P acc → P acc')
    (hexit : ∀ level ∈ levels, ∀ acc, P acc → P (insertExit level acc)) :
    P (compileLocations game levels) := by
  refine List.foldlRecOn levels (insertLevelLocations game) hnil fun acc h level hl => ?_
  exact insertLevelLocations_induction h (hthing level hl) (hexit level hl)

inductive MadeFor (game : Game) (level : Level) : Location → Prop
  | placed {p : Placed} {rank : Nat} {name : String}
    (hp : (p, rank) ∈ (level.placed game).zipIdx 1) (hr : rank ≤ maxLocations) :
    MadeFor game level (placedLocation level p (level.index.locationBase + rank) name)
  | exit : MadeFor game level (exitLocation level (exitRegionName level))

theorem MadeFor.level_eq (h : MadeFor game level loc) : loc.level = level.index := by
  cases h <;> rfl

theorem MadeFor.id_bounds (h : MadeFor game level loc) :
    level.index.locationBase ≤ loc.id ∧ loc.id ≤ level.index.locationBase + maxLocations := by
  cases h with
  | placed hp hr =>
    simp only [placedLocation]
    omega
  | exit =>
    simp only [exitLocation, LevelIndex.exitId]
    omega

theorem exitNotes_kind {note : Diagnostic} (h : note ∈ exitNotes level) :
    note.kind = .levelWithoutExit := by
  rw [exitNotes] at h
  split at h
  · cases h
  · cases List.mem_singleton.1 h
    rfl

/-- One list goes on where the other ends, with elements of a kind. -/
def Continues (P : Location → Prop) (before after : List Location) : Prop :=
  ∃ more, after = before ++ more ∧ ∀ loc ∈ more, P loc

namespace Continues
variable {P : Location → Prop} {a b c : List Location}

theorem refl (a : List Location) : Continues P a a := ⟨[], by simp, by simp⟩

theorem single (a : List Location) (h : P loc) : Continues P a (a ++ [loc]) :=
  ⟨[loc], rfl, by simpa using h⟩

theorem trans (hab : Continues P a b) (hbc : Continues P b c) : Continues P a c := by
  obtain ⟨more, rfl, hm⟩ := hab
  obtain ⟨rest, rfl, hr⟩ := hbc
  refine ⟨more ++ rest, List.append_assoc .., fun loc hl => ?_⟩
  rcases List.mem_append.1 hl with hl | hl
  · exact hm loc hl
  · exact hr loc hl

end Continues

theorem Insertion.continues {p : Placed} {rank : Nat} {acc acc' : Locations}
    (h : Insertion game level p rank acc acc') (hp : (p, rank) ∈ (level.placed game).zipIdx 1) :
    Continues (MadeFor game level) acc.1 acc'.1 := by
  cases h with
  | unreachable => exact .refl _
  | overflow => exact .refl _
  | added hu hr => exact .single _ (.placed hp hr)

theorem insertLevelLocations_continues (game : Game) (acc : Locations) (level : Level) :
    Continues (MadeFor game level) acc.1 (insertLevelLocations game acc level).1 := by
  refine insertLevelLocations_induction (P := fun acc' => Continues _ acc.1 acc'.1) (.refl _)
    (fun p rank acc acc' hp hstep h => h.trans (hstep.continues hp)) fun acc h => ?_
  exact h.trans (.single _ .exit)

theorem mem_compileLocations (h : loc ∈ (compileLocations game levels).1) :
    ∃ level ∈ levels, MadeFor game level loc := by
  refine compileLocations_induction
    (P := fun acc => ∀ loc ∈ acc.1, ∃ level ∈ levels, MadeFor game level loc)
    (by simp) (fun level hl p rank acc acc' hp hstep ih loc hloc => ?_)
    (fun level hl acc ih loc hloc => ?_) loc h
  · obtain ⟨more, he, hm⟩ := hstep.continues hp
    rw [he] at hloc
    rcases List.mem_append.1 hloc with hloc | hloc
    · exact ih loc hloc
    · exact ⟨level, hl, hm loc hloc⟩
  · rcases List.mem_append.1 hloc with hloc | hloc
    · exact ih loc hloc
    · cases List.mem_singleton.1 hloc
      exact ⟨level, hl, .exit⟩

theorem compileLocations_notes : ∀ note ∈ (compileLocations game levels).2,
    note.kind = .locationOverflow ∨ note.kind = .levelWithoutExit := by
  refine compileLocations_induction
    (P := fun acc => ∀ note ∈ acc.2, note.kind = .locationOverflow ∨ note.kind = .levelWithoutExit)
    (by simp) (fun level hl p rank acc acc' hp hstep ih => ?_) fun level hl acc ih note hn => ?_
  · cases hstep with
    | unreachable => exact ih
    | overflow =>
      intro note hn
      rcases List.mem_append.1 hn with hn | hn
      · exact ih note hn
      · cases List.mem_singleton.1 hn
        exact .inl rfl
    | added => exact ih
  · rcases List.mem_append.1 hn with hn | hn
    · exact ih note hn
    · exact .inr (exitNotes_kind hn)

end Worldsmith.Catalog
