import Mathlib.Data.List.Induction
import Worldsmith.Proofs.Catalog.KeyCopies
import Worldsmith.Proofs.SortedMap

namespace Worldsmith

variable {game : Game} {data : GameLevels} {levels : List Level} {level : Level}
  {key : KeyTemplate} {keys : List KeyTemplate} {shown : LevelKeys} {slot : Nat} {skull : Bool}

structure LevelKeys.Whole (shown : LevelKeys) : Prop where
  present : shown.present.length = 3
  useSkull : shown.useSkull.length = 3

/-- Marks a slot, where a slot without a flag for its key is passed over, and it is a fault if only
the flag for the skull is missing. -/
def LevelKeys.mark? (shown : LevelKeys) (slot : Nat) (skull : Bool) : Option LevelKeys :=
  if slot < shown.present.length then
    if slot < shown.useSkull.length then some (shown.place slot skull) else none
  else some shown

namespace LevelKeys.Whole

theorem empty : Whole {} := ⟨rfl, rfl⟩

theorem place (h : shown.Whole) : (shown.place slot skull).Whole :=
  ⟨List.length_set.trans h.present, List.length_set.trans h.useSkull⟩

theorem place_of_le (h : shown.Whole) (hslot : 3 ≤ slot) : shown.place slot skull = shown := by
  rw [LevelKeys.place, List.set_eq_of_length_le (Nat.le_trans (Nat.le_of_eq h.present) hslot),
    List.set_eq_of_length_le (Nat.le_trans (Nat.le_of_eq h.useSkull) hslot)]

theorem mark?_eq (h : shown.Whole) : shown.mark? slot skull = some (shown.place slot skull) := by
  rw [mark?, h.present, h.useSkull]
  by_cases hslot : slot < 3
  · rw [if_pos hslot, if_pos hslot]
  · rw [if_neg hslot, h.place_of_le (Nat.not_lt.1 hslot)]

end LevelKeys.Whole

def LevelKeys.placeAll (shown : LevelKeys) (keys : List KeyTemplate) : LevelKeys :=
  keys.foldl (fun shown key => shown.place key.slot key.useSkull) shown

def LevelKeys.markAll? (shown : LevelKeys) (keys : List KeyTemplate) : Option LevelKeys :=
  keys.foldlM (fun shown key => shown.mark? key.slot key.useSkull) shown

theorem LevelKeys.Whole.markAll?_eq (h : shown.Whole) :
    shown.markAll? keys = some (shown.placeAll keys) := by
  induction keys generalizing shown with
  | nil => rfl
  | cons key keys ih =>
    rw [markAll?, List.foldlM_cons, h.mark?_eq]
    exact ih h.place

theorem LevelKeys.Whole.placeAll_filter (h : shown.Whole) :
    shown.placeAll (keys.filter (·.slot ≤ 2)) = shown.placeAll keys := by
  induction keys generalizing shown with
  | nil => rfl
  | cons key keys ih =>
    by_cases hslot : key.slot ≤ 2
    · rw [List.filter_cons, if_pos (decide_eq_true hslot)]
      exact ih h.place
    · rw [List.filter_cons, if_neg (by simpa using hslot), ih h, placeAll, placeAll,
        List.foldl_cons, h.place_of_le (Nat.not_le.1 hslot)]

structure LevelKeys.Shows (shown : LevelKeys) (keys : List KeyTemplate) : Prop where
  present : shown.present = (List.range 3).map fun slot => keys.any (·.slot == slot)
  useSkull : shown.useSkull = (List.range 3).map fun slot =>
    ((keys.filter (·.slot == slot)).getLast?.map (·.useSkull)).getD false

theorem set_map_range (f : Nat → Bool) (n slot : Nat) (b : Bool) :
    ((List.range n).map f).set slot b =
      (List.range n).map fun i => if slot = i then b else f i := by
  apply List.ext_getElem
  · simp
  · intro i hi _
    rw [List.getElem_set]
    simp

theorem LevelKeys.Shows.place (h : shown.Shows keys) (key : KeyTemplate) :
    (shown.place key.slot key.useSkull).Shows (keys ++ [key]) where
  present := by
    rw [LevelKeys.place, h.present, set_map_range]
    apply List.map_congr_left
    intro slot _
    rw [List.any_append, List.any_cons, List.any_nil, Bool.or_false]
    by_cases hslot : key.slot = slot
    · rw [if_pos hslot, beq_iff_eq.2 hslot, Bool.or_true]
    · rw [if_neg hslot, beq_eq_false_iff_ne.2 hslot, Bool.or_false]
  useSkull := by
    rw [LevelKeys.place, h.useSkull, set_map_range]
    apply List.map_congr_left
    intro slot _
    rw [List.filter_append, List.filter_cons, List.filter_nil]
    by_cases hslot : key.slot = slot
    · rw [if_pos hslot, if_pos (beq_iff_eq.2 hslot), List.getLast?_concat]
      rfl
    · rw [if_neg hslot, if_neg (by simpa using hslot), List.append_nil]

theorem LevelKeys.shows_placeAll (keys : List KeyTemplate) :
    (LevelKeys.placeAll {} keys).Shows keys := by
  induction keys using List.reverseRecOn with
  | nil => exact ⟨rfl, rfl⟩
  | append_singleton keys key ih =>
    rw [placeAll, List.foldl_append]
    exact ih.place key

/-- A thing that counts and stands for a key of a slot. -/
def Game.marks (game : Game) (slot : Nat) (t : Thing) : Bool :=
  game.ranks t && (game.keyOf? t.type).any (·.slot == slot)

/-- The key of the last thing of a level that marks a slot. -/
def Level.lastKey? (game : Game) (level : Level) (slot : Nat) : Option KeyTemplate :=
  (level.data.map.things.filter (game.marks slot)).getLast?.bind fun t => game.keyOf? t.type

theorem Level.any_placedKeys (game : Game) (level : Level) (slot : Nat) :
    (level.placedKeys game).any (·.slot == slot) =
      level.data.map.things.any (game.marks slot) := by
  rw [placedKeys, List.any_filterMap, List.any_filter]
  rfl

theorem Level.filter_placedKeys (game : Game) (level : Level) (slot : Nat) :
    (level.placedKeys game).filter (·.slot == slot) =
      (level.data.map.things.filter (game.marks slot)).filterMap fun t => game.keyOf? t.type := by
  rw [placedKeys, List.filter_filterMap, List.filterMap_filter, List.filterMap_filter]
  congr 1
  funext t
  rw [Game.marks]
  cases game.keyOf? t.type with
  | none => simp
  | some key => cases game.ranks t <;> rfl

theorem getLast?_filterMap_of_isSome {α β : Type} {f : α → Option β} {l : List α}
    (h : ∀ a ∈ l, (f a).isSome = true) : (l.filterMap f).getLast? = l.getLast?.bind f := by
  rcases List.eq_nil_or_concat' l with rfl | ⟨before, a, rfl⟩
  · rfl
  · obtain ⟨b, hb⟩ := Option.isSome_iff_exists.1 (h a (by simp))
    rw [List.filterMap_append, List.filterMap_cons, hb, List.filterMap_nil, List.getLast?_concat,
      List.getLast?_concat, Option.bind_some, hb]

theorem Level.getLast?_placedKeys (game : Game) (level : Level) (slot : Nat) :
    ((level.placedKeys game).filter (·.slot == slot)).getLast? = level.lastKey? game slot := by
  rw [filter_placedKeys, lastKey?]
  apply getLast?_filterMap_of_isSome
  intro t ht
  exact Option.isSome_of_any (Bool.and_eq_true_iff.1 (List.mem_filter.1 ht).2).2

namespace Catalog

variable {c : Catalog} {index : LevelIndex}

theorem insertKey_keys (level : Level) (c : Catalog) (key : KeyTemplate) :
    (insertKey level c key).keys =
      c.keys.insert level.index ((c.keysAt level.index).place key.slot key.useSkull) := by
  rw [insertKey]
  dsimp only
  split <;> rfl

theorem keysAt_insertKey_self (level : Level) (c : Catalog) (key : KeyTemplate) :
    (insertKey level c key).keysAt level.index =
      (c.keysAt level.index).place key.slot key.useSkull := by
  rw [keysAt, insertKey_keys, SortedMap.get?_insert_self]
  rfl

theorem keysAt_insertKey_of_ne (h : index ≠ level.index) (c : Catalog) (key : KeyTemplate) :
    (insertKey level c key).keysAt index = c.keysAt index := by
  rw [keysAt, insertKey_keys, SortedMap.get?_insert_of_ne _ h]
  rfl

theorem keysAt_foldl_insertKey (level : Level) (c : Catalog) (keys : List KeyTemplate) :
    (keys.foldl (insertKey level) c).keysAt level.index =
      (c.keysAt level.index).placeAll keys := by
  induction keys generalizing c with
  | nil => rfl
  | cons key keys ih =>
    rw [List.foldl_cons, ih, keysAt_insertKey_self]
    rfl

theorem keysAt_foldl_insertKey_of_ne (h : index ≠ level.index) (c : Catalog)
    (keys : List KeyTemplate) :
    (keys.foldl (insertKey level) c).keysAt index = c.keysAt index := by
  induction keys generalizing c with
  | nil => rfl
  | cons key keys ih => rw [List.foldl_cons, ih, keysAt_insertKey_of_ne h]

theorem keysAt_foldl_insertKeys (h : ∀ level ∈ levels, index ≠ level.index) (c : Catalog) :
    (levels.foldl (insertKeys game) c).keysAt index = c.keysAt index := by
  induction levels generalizing c with
  | nil => rfl
  | cons level levels ih =>
    rw [List.forall_mem_cons] at h
    rw [List.foldl_cons, ih h.2, insertKeys_eq, keysAt_foldl_insertKey_of_ne h.1]

theorem insertItems_keys (c : Catalog) (ts : List ItemTemplate) (classification : Classification)
    (level : Option Level) : (c.insertItems ts classification level).keys = c.keys := by
  induction ts generalizing c with
  | nil => rfl
  | cons t ts ih => exact ih _

theorem insertLevelItems_keys (game : Game) (c : Catalog) (level : Level) :
    (insertLevelItems game c level).keys = c.keys := by
  simp only [insertLevelItems, insertItems_keys]
  rfl

theorem commonItems_keys (game : Game) : (commonItems game).keys = .empty := by
  simp only [commonItems, insertItems_keys]

theorem compile_keys (game : Game) (levels : List Level) :
    (compile game levels).1.keys = (levels.foldl (insertKeys game) (commonItems game)).keys := by
  have hlevels (c : Catalog) : (levels.foldl (insertLevelItems game) c).keys = c.keys := by
    induction levels generalizing c with
    | nil => rfl
    | cons level levels ih => exact (ih _).trans (insertLevelItems_keys game c level)
  exact hlevels _

theorem compile_keysAt (hn : (levels.map (·.index)).Nodup) (hl : level ∈ levels) :
    (compile game levels).1.keysAt level.index =
      LevelKeys.placeAll {} (level.placedKeys game) := by
  obtain ⟨before, after, rfl⟩ := List.append_of_mem hl
  rw [List.map_append, List.map_cons, List.nodup_middle, List.nodup_cons, ← List.map_append] at hn
  have hothers : ∀ other ∈ before ++ after, level.index ≠ other.index := by
    intro other hother heq
    exact hn.1 (heq ▸ List.mem_map_of_mem hother)
  rw [List.forall_mem_append] at hothers
  rw [keysAt, compile_keys, ← keysAt, List.foldl_append, List.foldl_cons,
    keysAt_foldl_insertKeys hothers.2, insertKeys_eq, keysAt_foldl_insertKey,
    keysAt_foldl_insertKeys hothers.1, keysAt, commonItems_keys]
  rfl

structure KeySlots (game : Game) (level : Level) (shown : LevelKeys) : Prop where
  present : shown.present =
    (List.range 3).map fun slot => level.data.map.things.any (game.marks slot)
  useSkull : shown.useSkull =
    (List.range 3).map fun slot => ((level.lastKey? game slot).map (·.useSkull)).getD false
  /-- No key of the level finds only one of the flags of its slot. -/
  marked : LevelKeys.markAll? {} (level.placedKeys game) = some shown
  /-- Keys of other slots change nothing. -/
  inRange : LevelKeys.markAll? {} ((level.placedKeys game).filter (·.slot ≤ 2)) = some shown

theorem compile_keySlots (h : game.levels data = .ok levels) (hl : level ∈ levels) :
    KeySlots game level ((compile game levels).1.keysAt level.index) := by
  rw [compile_keysAt (Game.levels_nodup h) hl]
  obtain ⟨hpresent, hskull⟩ := LevelKeys.shows_placeAll (level.placedKeys game)
  simp only [Level.any_placedKeys] at hpresent
  simp only [Level.getLast?_placedKeys] at hskull
  refine ⟨hpresent, hskull, LevelKeys.Whole.empty.markAll?_eq, ?_⟩
  rw [LevelKeys.Whole.empty.markAll?_eq, LevelKeys.Whole.empty.placeAll_filter]

/-- A map where two keys share the first slot and a third one has none of the three. The last thing
with a key of the first slot is there for several players only. -/
def vaultGame : Game :=
  { lockGame with
    episodes := [{ maps := [⟨"Vault", "E1M1"⟩] }]
    keys := [
      { item := { type := 5, name := "Blue key" }, slot := 0, useSkull := false },
      { item := { type := 40, name := "Blue skull key" }, slot := 0, useSkull := true },
      { item := { type := 13, name := "Red key" }, slot := 7, useSkull := true }] }

def vaultMap : LevelData where
  map := { things := [⟨8, 8, 0, 5, 7⟩, ⟨9, 9, 0, 40, 7⟩, ⟨9, 8, 0, 13, 7⟩, ⟨8, 9, 0, 5, 16⟩] }

def vaultLevel : Level := MapInfo.level ⟨"Vault", "E1M1"⟩ ⟨0, 0⟩ vaultMap

theorem compile_keySlots_vault :
    vaultGame.levels ⟨[[vaultMap]]⟩ = .ok [vaultLevel] ∧ vaultLevel ∈ [vaultLevel] ∧
      KeySlots vaultGame vaultLevel ⟨[true, false, false], [true, false, false]⟩ := by
  have hlevels : vaultGame.levels ⟨[[vaultMap]]⟩ = .ok [vaultLevel] := rfl
  have hmem : vaultLevel ∈ [vaultLevel] := List.mem_singleton_self _
  have hslots := compile_keySlots hlevels hmem
  have hshown : (compile vaultGame [vaultLevel]).1.keysAt vaultLevel.index =
      ⟨[true, false, false], [true, false, false]⟩ := by
    rw [compile_keysAt (Game.levels_nodup hlevels) hmem]
    decide
  rw [hshown] at hslots
  exact ⟨hlevels, hmem, hslots⟩

end Catalog

end Worldsmith
