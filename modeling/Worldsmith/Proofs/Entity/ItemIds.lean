import Worldsmith.Entity.Id
import Worldsmith.Proofs.Level.Collection

namespace Worldsmith

/-- The entities that have an id of their own. Episodes may have as many as a hundred maps, and the
types of a level are those that are neither its unlock nor its completion. -/
inductive WithinIds : Option LevelIndex → EntityKind → Prop
  | unlock {l : LevelIndex} (hmap : l.map < 100) : WithinIds (some l) .levelUnlock
  | complete {l : LevelIndex} (hmap : l.map < 100) : WithinIds (some l) .levelComplete
  | ofLevel {l : LevelIndex} {code : Int} (hmap : l.map < 100) (hpos : 1 ≤ code)
    (hle : code ≤ 99998) : WithinIds (some l) (.type code)
  | common {code : Int} (hlt : code < 10100000) : WithinIds none (.type code)

variable {l l' : LevelIndex} {level level' : Option LevelIndex} {kind kind' : EntityKind}

namespace LevelIndex

theorem before_of_ne (h : l ≠ l') : l.Before l' ∨ l'.Before l := by
  have hparts : ¬ (l.episode = l'.episode ∧ l.map = l'.map) := by
    rintro ⟨hepisode, hmap⟩
    apply h
    cases l
    cases l'
    cases hepisode
    cases hmap
    rfl
  simp only [Before]
  omega

/-- The ids of a level end before those of any later level begin. The hundredth map has those that
are left below the first map of the next episode. -/
theorem Before.itemBase_le (h : l.Before l') (hmap : l.map < 100) :
    l.itemBase + 100000 ≤ l'.itemBase := by
  simp only [itemBase]
  rcases h with hepisode | ⟨hepisode, hlt⟩
  · omega
  · rw [hepisode]
    omega

theorem first_le_itemBase (l : LevelIndex) : 10100000 ≤ l.itemBase := by
  simp only [itemBase]
  omega

end LevelIndex

namespace WithinIds

theorem map_lt (h : WithinIds (some l) kind) : l.map < 100 := by
  cases h with
  | unlock hmap => exact hmap
  | complete hmap => exact hmap
  | ofLevel hmap => exact hmap

theorem offset_bounds (h : WithinIds (some l) kind) : 0 ≤ kind.offset ∧ kind.offset < 100000 := by
  cases h with
  | unlock => decide
  | complete => decide
  | ofLevel _ hpos hle =>
    simp only [EntityKind.offset]
    omega

/-- Both ends of a level's ids are kept free for the kinds that are no type. -/
theorem offset_inj (h : WithinIds level kind) (h' : WithinIds level kind')
    (heq : kind.offset = kind'.offset) : kind = kind' := by
  cases h with
  | unlock =>
    cases h' with
    | unlock => rfl
    | complete => cases heq
    | ofLevel _ hpos =>
      simp only [EntityKind.offset] at heq
      omega
  | complete =>
    cases h' with
    | unlock => cases heq
    | complete => rfl
    | ofLevel _ _ hle =>
      simp only [EntityKind.offset] at heq
      omega
  | ofLevel _ hpos hle =>
    cases h' with
    | unlock =>
      simp only [EntityKind.offset] at heq
      omega
    | complete =>
      simp only [EntityKind.offset] at heq
      omega
    | ofLevel => exact congrArg EntityKind.type heq
  | common =>
    cases h' with
    | common => exact congrArg EntityKind.type heq

theorem itemId_lt_of_before (h : WithinIds (some l) kind) (h' : WithinIds (some l') kind')
    (hbefore : l.Before l') : itemId (some l) kind < itemId (some l') kind' := by
  have hbase := hbefore.itemBase_le h.map_lt
  have hkind := h.offset_bounds
  have hkind' := h'.offset_bounds
  simp only [itemId]
  omega

theorem itemId_common_lt (h : WithinIds none kind) (h' : WithinIds (some l') kind') :
    itemId none kind < itemId (some l') kind' := by
  cases h with
  | common hlt =>
    have hbase := l'.first_le_itemBase
    have hkind' := h'.offset_bounds
    simp only [itemId, EntityKind.offset] at hkind' ⊢
    omega

theorem level_eq (h : WithinIds level kind) (h' : WithinIds level' kind')
    (heq : itemId level kind = itemId level' kind') : level = level' := by
  cases level with
  | none =>
    cases level' with
    | none => rfl
    | some l' => exact absurd heq (Int.ne_of_lt (h.itemId_common_lt h'))
  | some l =>
    cases level' with
    | none => exact absurd heq (Int.ne_of_gt (h'.itemId_common_lt h))
    | some l' =>
      by_cases hl : l = l'
      · exact congrArg some hl
      · rcases LevelIndex.before_of_ne hl with hbefore | hbefore
        · exact absurd heq (Int.ne_of_lt (h.itemId_lt_of_before h' hbefore))
        · exact absurd heq (Int.ne_of_gt (h'.itemId_lt_of_before h hbefore))

theorem kind_eq (h : WithinIds level kind) (h' : WithinIds level kind')
    (heq : itemId level kind = itemId level kind') : kind = kind' := by
  apply h.offset_inj h'
  cases level with
  | none => exact heq
  | some l => exact Int.add_left_cancel heq

end WithinIds

/-- An id tells which level an entity belongs to and what it is, and it grows from level to level:
within an episode by map, and from one episode to the next. -/
theorem itemId_identifies (h : WithinIds level kind) (h' : WithinIds level' kind') :
    (itemId level kind = itemId level' kind' ↔ level = level' ∧ kind = kind') ∧
      ∀ l l', level = some l → level' = some l' → l.Before l' →
        itemId level kind < itemId level' kind' := by
  constructor
  · constructor
    · intro heq
      have hlevel := h.level_eq h' heq
      subst hlevel
      exact ⟨rfl, h.kind_eq h' heq⟩
    · rintro ⟨rfl, rfl⟩
      rfl
  · rintro l l' rfl rfl hbefore
    exact h.itemId_lt_of_before h' hbefore

/-- The completion of the hundredth map and the unlock of the next episode's first one have ids next
to each other. -/
theorem itemId_identifies_neighbours :
    WithinIds (some ⟨0, 99⟩) .levelComplete ∧ WithinIds (some ⟨1, 0⟩) .levelUnlock ∧
      itemId (some ⟨0, 99⟩) .levelComplete ≠ itemId (some ⟨1, 0⟩) .levelUnlock ∧
      itemId (some ⟨0, 99⟩) .levelComplete < itemId (some ⟨1, 0⟩) .levelUnlock := by
  have h : WithinIds (some ⟨0, 99⟩) .levelComplete := .complete (by decide)
  have h' : WithinIds (some ⟨1, 0⟩) .levelUnlock := .unlock (by decide)
  obtain ⟨hiff, hlt⟩ := itemId_identifies h h'
  refine ⟨h, h', ?_, hlt _ _ rfl rfl (.inl (by decide))⟩
  rw [ne_eq, hiff]
  decide

/-- A map more, and they are the same. -/
example : itemId (some ⟨0, 100⟩) .levelUnlock = itemId (some ⟨1, 0⟩) .levelUnlock := by decide

end Worldsmith
