import Worldsmith.Proofs.Catalog.Items
import Worldsmith.Proofs.Catalog.Placement

namespace Worldsmith

variable {game : Game} {data : GameLevels} {levels : List Level} {level : Level} {type : Int}
  {key : KeyTemplate} {name : String}

theorem Level.map_thing_placed (game : Game) (level : Level) :
    (level.placed game).map (·.thing) = level.data.map.things.filter game.ranks := by
  have hfrom (things : List Thing) (first : Nat) :
      ((things.zipIdx first).filterMap fun e => game.place? e.1 e.2).map (·.thing) =
        things.filter game.ranks := by
    induction things generalizing first with
    | nil => rfl
    | cons t things ih =>
      rw [List.zipIdx_cons, List.filterMap_cons]
      cases ht : game.ranks t with
      | false =>
        rw [List.filter_cons_of_neg (by simp [ht])]
        simp only [Game.place?_eq_none ht, ih]
      | true =>
        obtain ⟨label, hp⟩ := Game.exists_place? first ht
        rw [List.filter_cons_of_pos ht]
        simp only [hp, List.map_cons, ih]
  exact hfrom _ 0

/-- The keys that things of a level stand for, in the order of the things. -/
def Level.placedKeys (game : Game) (level : Level) : List KeyTemplate :=
  (level.data.map.things.filter game.ranks).filterMap fun t => game.keyOf? t.type

/-- Things of a type are placed in a level for a single player, and the type is that of a key. -/
structure Level.HasKey (game : Game) (level : Level) (type : Int) (key : KeyTemplate) : Prop where
  placed : ∃ t ∈ level.data.map.things, game.ranks t = true ∧ t.type = type
  key : game.keyOf? type = some key

theorem Game.type_of_keyOf? (h : game.keyOf? type = some key) : key.item.type = type := by
  have hbeq := List.find?_some (p := fun k : KeyTemplate => k.item.type == type) h
  exact beq_iff_eq.1 hbeq

theorem Level.mem_placedKeys_iff :
    key ∈ level.placedKeys game ↔ level.HasKey game key.item.type key := by
  rw [placedKeys, List.mem_filterMap]
  constructor
  · rintro ⟨t, ht, hk⟩
    obtain ⟨hmem, hranks⟩ := List.mem_filter.1 ht
    have htype := Game.type_of_keyOf? hk
    exact ⟨⟨t, hmem, hranks, htype.symm⟩, htype ▸ hk⟩
  · rintro ⟨⟨t, hmem, hranks, htype⟩, hk⟩
    exact ⟨t, List.mem_filter.2 ⟨hmem, hranks⟩, htype ▸ hk⟩

def Level.firstKey? (game : Game) (level : Level) (name : String) : Option KeyTemplate :=
  (level.placedKeys game).find? (·.item.name == name)

theorem Level.HasKey.mem_placedKeys (h : level.HasKey game type key) :
    key ∈ level.placedKeys game :=
  Level.mem_placedKeys_iff.2 ((Game.type_of_keyOf? h.key).symm ▸ h)

theorem Level.HasKey.exists_firstKey? (h : level.HasKey game type key) :
    ∃ first, level.firstKey? game key.item.name = some first := by
  refine Option.isSome_iff_exists.1 (List.find?_isSome.2 ⟨key, h.mem_placedKeys, ?_⟩)
  exact beq_self_eq_true _

namespace Catalog

variable {c : Catalog} {e : Item}

def keysOf (game : Game) (levels : List Level) : List (Level × KeyTemplate) :=
  levels.flatMap fun level => (level.placedKeys game).map fun key => (level, key)

def freshKeys : List String → List (Level × KeyTemplate) → List Item
  | _, [] => []
  | taken, (level, key) :: rest =>
    if keyName level key ∈ taken then freshKeys taken rest
    else keyItem level key :: freshKeys (taken ++ [keyName level key]) rest

theorem insertKeys_eq (game : Game) (c : Catalog) (level : Level) :
    insertKeys game c level = (level.placedKeys game).foldl (insertKey level) c := by
  rw [insertKeys, Level.placedKeys, ← Level.map_thing_placed, List.filterMap_map]
  rfl

theorem foldl_insertKeys (game : Game) (c : Catalog) (levels : List Level) :
    levels.foldl (insertKeys game) c =
      (keysOf game levels).foldl (fun c k => insertKey k.1 c k.2) c := by
  rw [keysOf, List.foldl_flatMap]
  simp only [List.foldl_map, ← insertKeys_eq]

theorem foldl_insertKey_items (keys : List (Level × KeyTemplate)) (c : Catalog) :
    (keys.foldl (fun c k => insertKey k.1 c k.2) c).items =
      c.items ++ freshKeys c.itemNames keys := by
  induction keys generalizing c with
  | nil => exact (List.append_nil _).symm
  | cons k keys ih =>
    have hitems := insertKey_items k.1 c k.2
    have htaken : c.items.any (·.name == keyName k.1 k.2) = true ↔
        keyName k.1 k.2 ∈ c.itemNames := by
      rw [mem_itemNames, List.any_eq_true]
      simp only [beq_iff_eq]
    rw [List.foldl_cons, ih, itemNames, hitems, freshKeys]
    by_cases h : keyName k.1 k.2 ∈ c.itemNames
    · rw [if_pos (htaken.2 h), if_pos h]
      rfl
    · rw [if_neg (mt htaken.1 h), if_neg h, List.map_append, List.append_assoc]
      rfl

/-- Of the keys of one name, the first is entered, unless the name is taken. -/
theorem find?_freshKeys (taken : List String) (keys : List (Level × KeyTemplate)) (name : String) :
    (freshKeys taken keys).find? (·.name == name) =
      if name ∈ taken then none
      else (keys.find? fun k => keyName k.1 k.2 == name).map fun k => keyItem k.1 k.2 := by
  induction keys generalizing taken with
  | nil => exact (ite_self _).symm
  | cons k keys ih =>
    obtain ⟨level, key⟩ := k
    have hitem : (keyItem level key).name = keyName level key := rfl
    rw [freshKeys]
    by_cases hname : keyName level key = name
    · subst hname
      by_cases htaken : keyName level key ∈ taken
      · rw [if_pos htaken, if_pos htaken, ih, if_pos htaken]
      · simp only [if_neg htaken, List.find?_cons, hitem, beq_self_eq_true, Option.map_some]
    · have hbeq : (keyName level key == name) = false := beq_eq_false_iff_ne.2 hname
      simp only [List.find?_cons, hbeq]
      by_cases htaken : keyName level key ∈ taken
      · rw [if_pos htaken, ih]
      · rw [if_neg htaken]
        simp only [List.find?_cons, hitem, hbeq, ih, List.mem_append, List.mem_singleton,
          Ne.symm hname, or_false]

theorem mem_freshKeys {taken : List String} {keys : List (Level × KeyTemplate)}
    (h : e ∈ freshKeys taken keys) :
    e.name ∉ taken ∧ ∃ k ∈ keys, e = keyItem k.1 k.2 := by
  induction keys generalizing taken with
  | nil => exact absurd h List.not_mem_nil
  | cons k keys ih =>
    obtain ⟨level, key⟩ := k
    rw [freshKeys] at h
    by_cases htaken : keyName level key ∈ taken
    · rw [if_pos htaken] at h
      obtain ⟨hfree, k, hk, he⟩ := ih h
      exact ⟨hfree, k, List.mem_cons_of_mem _ hk, he⟩
    · rw [if_neg htaken] at h
      rcases List.mem_cons.1 h with rfl | h
      · exact ⟨htaken, _, List.mem_cons_self, rfl⟩
      · obtain ⟨hfree, k, hk, he⟩ := ih h
        exact ⟨fun hmem => hfree (List.mem_append_left _ hmem), k, List.mem_cons_of_mem _ hk, he⟩

theorem freshKeys_names_nodup (taken : List String) (keys : List (Level × KeyTemplate)) :
    ((freshKeys taken keys).map (·.name)).Nodup := by
  induction keys generalizing taken with
  | nil => exact List.nodup_nil
  | cons k keys ih =>
    obtain ⟨level, key⟩ := k
    rw [freshKeys]
    split
    · exact ih taken
    · refine List.nodup_cons.2 ⟨fun hmem => ?_, ih _⟩
      obtain ⟨e, he, hname⟩ := List.mem_map.1 hmem
      exact (mem_freshKeys he).1 (List.mem_append_right _ (List.mem_singleton.2 hname))

def keyItems (c : Catalog) : List Item := c.items.filter (·.isKey)

theorem insertItem_keyItems (c : Catalog) (t : ItemTemplate) (kind : EntityKind)
    (classification : Classification) (level : Option Level) :
    (c.insertItem t kind classification level).keyItems = c.keyItems := by
  rw [insertItem, keyItems, List.filter_append]
  exact List.append_nil _

theorem insertItems_keyItems (c : Catalog) (ts : List ItemTemplate)
    (classification : Classification) (level : Option Level) :
    (c.insertItems ts classification level).keyItems = c.keyItems := by
  induction ts generalizing c with
  | nil => rfl
  | cons t ts ih => exact (ih _).trans (insertItem_keyItems c t _ _ _)

theorem insertLevelItems_keyItems (game : Game) (c : Catalog) (level : Level) :
    (insertLevelItems game c level).keyItems = c.keyItems := by
  simp only [insertLevelItems, insertItems_keyItems, insertItem_keyItems]

def commonNames (game : Game) : List String :=
  (game.progression ++ game.useful ++ game.filler).map (·.name)

def commonItems (game : Game) : Catalog :=
  insertItems {} game.progression { progression := true } none
    |>.insertItems game.useful { useful := true } none
    |>.insertItems game.filler {} none

theorem commonItems_names (game : Game) : (commonItems game).itemNames = commonNames game := by
  simp only [commonItems, insertItems_names, commonNames, List.map_append]
  rfl

theorem commonItems_keyItems (game : Game) : (commonItems game).keyItems = [] := by
  simp only [commonItems, insertItems_keyItems]
  rfl

theorem filter_isKey_freshKeys (taken : List String) (keys : List (Level × KeyTemplate)) :
    (freshKeys taken keys).filter (·.isKey) = freshKeys taken keys := by
  refine List.filter_eq_self.2 fun e he => ?_
  obtain ⟨-, k, -, rfl⟩ := mem_freshKeys he
  rfl

/-- The keys of a catalog are those of the levels whose names are free when they come up. -/
theorem compile_keyItems (game : Game) (levels : List Level) :
    (compile game levels).1.keyItems = freshKeys (commonNames game) (keysOf game levels) := by
  have hlevels (c : Catalog) : (levels.foldl (insertLevelItems game) c).keyItems = c.keyItems := by
    induction levels generalizing c with
    | nil => rfl
    | cons level levels ih => exact (ih _).trans (insertLevelItems_keyItems game c level)
  calc (compile game levels).1.keyItems
      = (levels.foldl (insertKeys game) (commonItems game)).keyItems := hlevels _
    _ = (commonItems game).keyItems ++
          freshKeys (commonItems game).itemNames (keysOf game levels) := by
      rw [foldl_insertKeys, keyItems, foldl_insertKey_items, List.filter_append,
        filter_isKey_freshKeys]
      rfl
    _ = freshKeys (commonNames game) (keysOf game levels) := by
      rw [commonItems_keyItems, commonItems_names, List.nil_append]

theorem compile_keyItems_names_nodup (game : Game) (levels : List Level) :
    ((compile game levels).1.keyItems.map (·.name)).Nodup := by
  rw [compile_keyItems]
  exact freshKeys_names_nodup _ _

theorem mem_keysOf {k : Level × KeyTemplate} :
    k ∈ keysOf game levels ↔ k.1 ∈ levels ∧ k.1.HasKey game k.2.item.type k.2 := by
  rw [keysOf, List.mem_flatMap]
  constructor
  · rintro ⟨level, hl, hk⟩
    obtain ⟨key, hkey, rfl⟩ := List.mem_map.1 hk
    exact ⟨hl, Level.mem_placedKeys_iff.1 hkey⟩
  · rintro ⟨hl, hk⟩
    exact ⟨k.1, hl, List.mem_map_of_mem (Level.mem_placedKeys_iff.2 hk)⟩

def keysIn (c : Catalog) (index : LevelIndex) (type : Int) : List Item :=
  c.keyItems.filter fun e => e.level = some index ∧ e.kind = .type type

def keysNamed (c : Catalog) (index : LevelIndex) (name : String) : List Item :=
  c.keyItems.filter fun e => e.level = some index ∧ e.name = name

/-- No item has a name by the time that the levels of `before` have their keys. -/
structure Unclaimed (game : Game) (before : List Level) (name : String) : Prop where
  common : name ∉ commonNames game
  keys : ∀ level ∈ before, ∀ type key, level.HasKey game type key → keyName level key ≠ name

/-- The keys of a catalog are copies for levels. Where a name is free, the first key of the name has
a copy, which the level's other keys of the name share. Of names that are taken, only that there is
an item is said. -/
structure KeyCopies (game : Game) (levels : List Level) (c : Catalog) : Prop where
  named : ∀ level ∈ levels, ∀ type key, level.HasKey game type key → keyName level key ∈ c.itemNames
  shared : ∀ before level after, levels = before ++ level :: after →
    ∀ type key, level.HasKey game type key → Unclaimed game before (keyName level key) →
      ∃ first, level.firstKey? game key.item.name = some first ∧
        c.keysNamed level.index (keyName level key) = [keyItem level first]
  own : ∀ before level after, levels = before ++ level :: after →
    ∀ type key, level.HasKey game type key → Unclaimed game before (keyName level key) →
      level.firstKey? game key.item.name = some key →
        c.keysIn level.index type = [keyItem level key]
  single : ∀ index type, (c.keysIn index type).length ≤ 1
  only : ∀ e ∈ c.keyItems, ∃ level ∈ levels, ∃ type key,
    level.HasKey game type key ∧ e = keyItem level key

theorem Unclaimed.find?_keysOf {before : List Level} (h : Unclaimed game before name) :
    (keysOf game before).find? (fun k => keyName k.1 k.2 == name) = none := by
  refine List.find?_eq_none.2 fun k hk => ?_
  obtain ⟨hl, hkey⟩ := mem_keysOf.1 hk
  exact mt beq_iff_eq.1 (h.keys _ hl _ _ hkey)

theorem find?_keysOf_level (game : Game) (level : Level) (key : KeyTemplate) :
    (keysOf game [level]).find? (fun k => keyName k.1 k.2 == keyName level key) =
      (level.firstKey? game key.item.name).map fun first => (level, first) := by
  have hname (k : KeyTemplate) :
      (keyName level k == keyName level key) = (k.item.name == key.item.name) := by
    rw [Bool.eq_iff_iff, beq_iff_eq, beq_iff_eq]
    exact String.append_right_inj _
  rw [keysOf, List.flatMap_singleton, List.find?_map, Level.firstKey?]
  simp only [Function.comp_def, hname]

theorem keyItem_mem_compile {before after : List Level} {first : KeyTemplate}
    (hl : levels = before ++ level :: after) (hfree : Unclaimed game before (keyName level key))
    (hfirst : level.firstKey? game key.item.name = some first) :
    keyItem level first ∈ (compile game levels).1.keyItems := by
  have hsplit : keysOf game levels =
      keysOf game before ++ (keysOf game [level] ++ keysOf game after) := by
    rw [hl, List.append_cons]
    simp only [keysOf, List.flatMap_append, List.append_assoc]
  have hfind := find?_freshKeys (commonNames game) (keysOf game levels) (keyName level key)
  rw [if_neg hfree.common, hsplit, List.find?_append, hfree.find?_keysOf, Option.none_or,
    List.find?_append, find?_keysOf_level, hfirst] at hfind
  rw [compile_keyItems, hsplit]
  exact List.mem_of_find?_eq_some hfind

theorem mem_compile_keyItems (h : e ∈ (compile game levels).1.keyItems) :
    ∃ level ∈ levels, ∃ type key, level.HasKey game type key ∧ e = keyItem level key := by
  rw [compile_keyItems] at h
  obtain ⟨-, k, hk, he⟩ := mem_freshKeys h
  obtain ⟨hl, hkey⟩ := mem_keysOf.1 hk
  exact ⟨_, hl, _, _, hkey, he⟩

theorem keyItems_name_inj (hn : (levels.map (·.index)).Nodup) {e e' : Item}
    (h : e ∈ (compile game levels).1.keyItems) (h' : e' ∈ (compile game levels).1.keyItems)
    (hlevel : e.level = e'.level) (hkind : e.kind = e'.kind) : e.name = e'.name := by
  obtain ⟨level, hl, type, key, hkey, rfl⟩ := mem_compile_keyItems h
  obtain ⟨level', hl', type', key', hkey', rfl⟩ := mem_compile_keyItems h'
  obtain rfl : level = level' := List.inj_on_of_nodup_map hn hl hl' (Option.some.inj hlevel)
  have htype : key.item.type = key'.item.type := EntityKind.type.inj hkind
  rw [Game.type_of_keyOf? hkey.key, Game.type_of_keyOf? hkey'.key] at htype
  subst htype
  rw [Option.some.inj (hkey.key.symm.trans hkey'.key)]

theorem filter_eq_singleton {α β : Type} {f : α → β} {l : List α} {a : α} {p : α → Bool}
    (hn : (l.map f).Nodup) (ha : a ∈ l) (hp : p a = true)
    (hall : ∀ b ∈ l, p b = true → f b = f a) : l.filter p = [a] := by
  obtain ⟨before, after, rfl⟩ := List.append_of_mem ha
  rw [List.map_append, List.map_cons, List.nodup_middle, List.nodup_cons, ← List.map_append] at hn
  have hnone : (before ++ after).filter p = [] := by
    refine List.filter_eq_nil_iff.2 fun b hb hpb => hn.1 (List.mem_map.2 ⟨b, hb, ?_⟩)
    refine hall b ?_ hpb
    exact (List.mem_append.1 hb).elim (List.mem_append_left _)
      fun h => List.mem_append_right _ (List.mem_cons_of_mem _ h)
  rw [List.filter_append, List.append_eq_nil_iff] at hnone
  rw [List.filter_append, List.filter_cons_of_pos hp, hnone.1, hnone.2, List.nil_append]

theorem keysIn_eq_singleton (hn : (levels.map (·.index)).Nodup)
    (h : e ∈ (compile game levels).1.keyItems) {index : LevelIndex} (hlevel : e.level = some index)
    (hkind : e.kind = .type type) : (compile game levels).1.keysIn index type = [e] := by
  refine filter_eq_singleton (compile_keyItems_names_nodup game levels) h
    (decide_eq_true ⟨hlevel, hkind⟩) fun e' h' hp => ?_
  obtain ⟨hlevel', hkind'⟩ := of_decide_eq_true hp
  exact keyItems_name_inj hn h' h (hlevel'.trans hlevel.symm) (hkind'.trans hkind.symm)

theorem compile_keyCopies (h : game.levels data = .ok levels) :
    KeyCopies game levels (compile game levels).1 where
  named := by
    intro level hl type key hkey
    obtain ⟨t, ht, hranks, rfl⟩ := hkey.placed
    have hthing : t ∈ (level.placed game).map (·.thing) := by
      rw [Level.map_thing_placed]
      exact List.mem_filter.2 ⟨ht, hranks⟩
    obtain ⟨p, hp, rfl⟩ := List.mem_map.1 hthing
    exact keyName_mem_compile hl hp hkey.key
  shared := by
    intro before level after hl type key hkey hfree
    obtain ⟨first, hfirst⟩ := hkey.exists_firstKey?
    have hmem := keyItem_mem_compile hl hfree hfirst
    have hname : keyName level first = keyName level key := by
      have hbeq := List.find?_some (p := fun k : KeyTemplate => k.item.name == _) hfirst
      exact congrArg (level.name ++ " - " ++ ·) (beq_iff_eq.1 hbeq)
    refine ⟨first, hfirst, ?_⟩
    refine filter_eq_singleton (compile_keyItems_names_nodup game levels) hmem
      (decide_eq_true ⟨rfl, hname⟩) fun e _ hp => ?_
    exact (of_decide_eq_true hp).2.trans hname.symm
  own := by
    intro before level after hl type key hkey hfree hfirst
    have hmem := keyItem_mem_compile hl hfree hfirst
    have hkind : (keyItem level key).kind = .type type :=
      congrArg EntityKind.type (Game.type_of_keyOf? hkey.key)
    exact keysIn_eq_singleton (Game.levels_nodup h) hmem rfl hkind
  single := by
    intro index type
    match hkeys : (compile game levels).1.keysIn index type with
    | [] => exact Nat.zero_le 1
    | e :: rest =>
      have he : e ∈ (compile game levels).1.keysIn index type := hkeys ▸ List.mem_cons_self
      obtain ⟨hmem, hp⟩ := List.mem_filter.1 he
      obtain ⟨hlevel, hkind⟩ := of_decide_eq_true hp
      rw [← hkeys, keysIn_eq_singleton (Game.levels_nodup h) hmem hlevel hkind]
      exact Nat.le_refl 1
  only _ := mem_compile_keyItems

/-- Two keys of one name, which things of the first level stand for, and one of another name. -/
def lockGame : Game :=
  { twinGame with
    episodes := [{ maps := [⟨"Hangar", "E1M1"⟩, ⟨"Depot", "E1M2"⟩] }]
    locationTypes := .ofList [(5, "Blue card"), (13, "Red card"), (40, "Blue skull")]
    keys := [
      { item := { type := 5, name := "Blue key" }, slot := 0, useSkull := false },
      { item := { type := 13, name := "Red key" }, slot := 2, useSkull := false },
      { item := { type := 40, name := "Blue key" }, slot := 0, useSkull := true }] }

def lockMaps : List LevelData :=
  [{ map := { things := [⟨8, 8, 0, 5, 7⟩, ⟨9, 9, 0, 40, 7⟩, ⟨9, 8, 0, 5, 7⟩] } },
    { map := { things := [⟨8, 8, 0, 13, 7⟩, ⟨9, 9, 0, 5, 16⟩] } }]

def lockLevels : List Level :=
  [MapInfo.level ⟨"Hangar", "E1M1"⟩ ⟨0, 0⟩ lockMaps[0],
    MapInfo.level ⟨"Depot", "E1M2"⟩ ⟨0, 1⟩ lockMaps[1]]

theorem compile_keyCopies_locks :
    lockGame.levels ⟨[lockMaps]⟩ = .ok lockLevels ∧
      KeyCopies lockGame lockLevels (compile lockGame lockLevels).1 ∧
      (compile lockGame lockLevels).1.keysIn ⟨0, 0⟩ 5 =
        [keyItem lockLevels[0] lockGame.keys[0]] := by
  have hlevels : lockGame.levels ⟨[lockMaps]⟩ = .ok lockLevels := rfl
  have hcopies := compile_keyCopies hlevels
  have hkey : lockLevels[0].HasKey lockGame 5 lockGame.keys[0] :=
    ⟨⟨⟨8, 8, 0, 5, 7⟩, by decide, by decide, rfl⟩, by decide⟩
  have hfree : Unclaimed lockGame [] (keyName lockLevels[0] lockGame.keys[0]) :=
    ⟨by decide, fun _ hl => absurd hl List.not_mem_nil⟩
  exact ⟨hlevels, hcopies, hcopies.own [] _ _ rfl _ _ hkey hfree (by decide)⟩

/-- Every key that is placed in a level has a copy of its own there, and no other type has one. -/
structure EachKeyCopied (game : Game) (levels : List Level) (c : Catalog) : Prop where
  own : ∀ level ∈ levels, ∀ type key, level.HasKey game type key →
    ∃ e, c.keysIn level.index type = [e] ∧ e.name = keyName level key
  only : ∀ e ∈ c.keyItems, ∃ level ∈ levels, ∃ type key, level.HasKey game type key ∧
    e.level = some level.index ∧ e.kind = .type type

/-- Of two keys of one name in a level, the second has no copy. -/
theorem locks_not_eachKeyCopied :
    lockGame.levels ⟨[lockMaps]⟩ = .ok lockLevels ∧
      ¬ EachKeyCopied lockGame lockLevels (compile lockGame lockLevels).1 := by
  refine ⟨rfl, fun h => ?_⟩
  have hkey : lockLevels[0].HasKey lockGame 40 lockGame.keys[2] :=
    ⟨⟨⟨9, 9, 0, 40, 7⟩, by decide, by decide, rfl⟩, by decide⟩
  obtain ⟨e, he, -⟩ := h.own _ List.mem_cons_self _ _ hkey
  have hnone : (compile lockGame lockLevels).1.keysIn ⟨0, 0⟩ 40 = [] := by
    rw [keysIn, compile_keyItems]
    decide
  exact absurd (hnone.symm.trans he) (List.cons_ne_nil _ _).symm

end Catalog

end Worldsmith
