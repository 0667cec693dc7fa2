import Mathlib.Data.List.Basic
import Worldsmith.Options.Standard
import Worldsmith.Proofs.Options.Declarations
import Worldsmith.Proofs.Text.Identifier
import Worldsmith.World.Source

namespace Worldsmith

open WorldOption (builtin)
open Text (IsWord)

def optionsMarker : List Char := "self.options.".toList

def isNameChar (c : Char) : Bool := Text.isAlphanumeric c || c = '_' || 128 ≤ c.toNat

/-- The names that are read off the options of a world anywhere in a text. -/
def optionFields : List Char → List (List Char)
  | [] => []
  | c :: cs =>
    if optionsMarker.isPrefixOf (c :: cs) then
      ((c :: cs).drop optionsMarker.length).takeWhile isNameChar :: optionFields cs
    else optionFields cs

def mentioned (line : String) : List String := (optionFields line.toList).map String.ofList

/-- No mention of a field starts inside of the text, whatever comes behind it. -/
def startsNoMention : List Char → Bool
  | [] => true
  | c :: cs =>
    !((c :: cs).isPrefixOf optionsMarker || optionsMarker.isPrefixOf (c :: cs)) &&
      startsNoMention cs

theorem optionFields_append {cs : List Char} (rest : List Char) (h : startsNoMention cs = true) :
    optionFields (cs ++ rest) = optionFields rest := by
  induction cs with
  | nil => rfl
  | cons c cs ih =>
    rw [startsNoMention, Bool.and_eq_true] at h
    have hneither : ¬ (c :: cs) <+: optionsMarker ∧ ¬ optionsMarker <+: (c :: cs) := by
      rw [← List.isPrefixOf_iff_prefix, ← List.isPrefixOf_iff_prefix, Bool.not_eq_true,
        Bool.not_eq_true]
      simpa using h.1
    have hno : ¬ optionsMarker.isPrefixOf (c :: (cs ++ rest)) = true := by
      intro hprefix
      rw [List.isPrefixOf_iff_prefix, ← List.cons_append] at hprefix
      have happend := List.prefix_append (c :: cs) rest
      rcases List.prefix_or_prefix_of_prefix hprefix happend with h' | h'
      · exact hneither.2 h'
      · exact hneither.1 h'
    rw [List.cons_append, optionFields, if_neg hno]
    exact ih h.2

/-- What stands behind a name: nothing, or a use of its value. -/
def EndsName (rest : List Char) : Prop := rest = [] ∨ ∃ more, rest = '.' :: 'v' :: more

/-- The marker has points in it, and is not met where a name ends in a value. -/
theorem not_marker_prefix {name rest : List Char} (hname : ∀ c ∈ name, isNameChar c = true)
    (hrest : EndsName rest) : ¬ optionsMarker <+: name ++ rest := by
  rintro ⟨behind, hbehind⟩
  have hat (i : Nat) (hi : i < 13) : (name ++ rest)[i]? = optionsMarker[i]? := by
    rw [← hbehind, List.getElem?_append_left hi]
  have hshort : name.length ≤ 4 := by
    apply Nat.le_of_not_lt
    intro hlong
    have hpoint := hat 4 (by omega)
    rw [List.getElem?_append_left hlong] at hpoint
    exact absurd (hname '.' (List.mem_of_getElem? hpoint)) (by decide)
  rcases hrest with rfl | ⟨more, rfl⟩
  · have hpoint := hat 4 (by omega)
    rw [List.append_nil, List.getElem?_eq_none hshort] at hpoint
    exact absurd hpoint (by decide)
  · have hpoint := hat name.length (by omega)
    have hvalue := hat (name.length + 1) (by omega)
    rw [List.getElem?_append_right (Nat.le_refl _), Nat.sub_self] at hpoint
    rw [List.getElem?_append_right (Nat.le_add_right _ 1), Nat.add_sub_cancel_left] at hvalue
    have hother : ∀ n ≤ 4, optionsMarker[n]? = some '.' → optionsMarker[n + 1]? ≠ some 'v' := by
      decide
    exact hother _ hshort hpoint.symm hvalue.symm

theorem optionFields_name {name rest : List Char} (hname : ∀ c ∈ name, isNameChar c = true)
    (hrest : EndsName rest) : optionFields (name ++ rest) = optionFields rest := by
  induction name with
  | nil => rfl
  | cons c name ih =>
    have hno := not_marker_prefix hname hrest
    rw [← List.isPrefixOf_iff_prefix, List.cons_append] at hno
    rw [List.cons_append, optionFields, if_neg hno]
    apply ih
    intro d hd
    exact hname d (List.mem_cons_of_mem c hd)

theorem takeWhile_name {name rest : List Char} (hname : ∀ c ∈ name, isNameChar c = true)
    (hrest : EndsName rest) : (name ++ rest).takeWhile isNameChar = name := by
  rw [List.takeWhile_append_of_pos hname]
  rcases hrest with rfl | ⟨more, rfl⟩
  · exact List.append_nil name
  · rw [List.takeWhile_cons_of_neg (by decide), List.append_nil]

theorem optionFields_marker {name rest : List Char} (hname : ∀ c ∈ name, isNameChar c = true)
    (hrest : EndsName rest) :
    optionFields (optionsMarker ++ (name ++ rest)) = name :: optionFields rest := by
  have hsplit : optionsMarker = 's' :: "elf.options.".toList := by decide
  have hmarks : optionsMarker.isPrefixOf (optionsMarker ++ (name ++ rest)) = true :=
    List.isPrefixOf_iff_prefix.2 (List.prefix_append _ _)
  have hdrop : (optionsMarker ++ (name ++ rest)).drop optionsMarker.length = name ++ rest :=
    List.drop_left
  rw [hsplit, List.cons_append] at hmarks hdrop ⊢
  rw [optionFields, hsplit, if_pos hmarks, hdrop, takeWhile_name hname hrest,
    optionFields_append _ (by decide), optionFields_name hname hrest]

def IsName (s : String) : Prop := ∀ c ∈ s.toList, isNameChar c = true

theorem IsName.of_isWord {s : String} (h : Text.IsWord s) : IsName s := by
  intro c hc
  change (Text.isWordChar c || _) = true
  rw [h c hc, Bool.true_or]

theorem isName_snakeCase (s : String) : IsName (Text.snakeCase s) :=
  .of_isWord (Text.isWord_snakeCase s)

/-- The line mentions no fields but these. -/
def MentionsOnly (fields : List String) (line : String) : Prop :=
  ∀ name ∈ mentioned line, name ∈ fields

theorem MentionsOnly.of_silent {fields : List String} {line : String} {cs : List Char}
    (hline : line = String.ofList cs) (hno : optionFields cs = []) : MentionsOnly fields line := by
  intro name hname
  rw [mentioned, hline, String.toList_ofList, hno] at hname
  cases hname

theorem MentionsOnly.of_field (before field after : String) {fields : List String}
    {line : String} {bs cs : List Char}
    (hline : line = before ++ "self.options." ++ field ++ after) (hfield : IsWord field)
    (hmem : field ∈ fields) (hbs : before = String.ofList bs) (hcs : after = String.ofList cs)
    (hbefore : startsNoMention bs = true) (hafter : EndsName cs) (hno : optionFields cs = []) :
    MentionsOnly fields line := by
  have hchars : line.toList = bs ++ (optionsMarker ++ (field.toList ++ cs)) := by
    rw [hline, hbs, hcs]
    simp only [String.toList_append, String.toList_ofList, List.append_assoc]
    rfl
  intro name hname
  rw [mentioned, hchars, optionFields_append _ hbefore,
    optionFields_marker (IsName.of_isWord hfield) hafter, hno, List.map_singleton,
    String.ofList_toList] at hname
  rw [List.mem_singleton.1 hname]
  exact hmem

theorem StartWithMaps.mentionsOnly (o : StartWithMaps) (hfield : IsWord o.field) (hook : String) :
    ∀ line ∈ o.hookLines hook, MentionsOnly (o.options.map (·.field)) line := by
  have hmem : o.field ∈ o.options.map (·.field) := by
    rw [options]
    cases o.sharedClass? <;> exact List.mem_singleton.2 rfl
  rw [hookLines]
  split
  · simp only [List.forall_mem_cons]
    refine ⟨?_, .of_silent rfl (by decide), .of_silent rfl (by decide),
      .of_silent rfl (by decide), List.forall_mem_nil _⟩
    exact .of_field "map_opt = " o.field "" (by simp) hfield hmem rfl rfl (by decide) (.inl rfl) rfl
  · exact List.forall_mem_nil _

theorem InvisibilityTrap.mentionsOnly (o : InvisibilityTrap) (hfield : IsWord o.field)
    (hook : String) : ∀ line ∈ o.hookLines hook, MentionsOnly (o.options.map (·.field)) line := by
  have hmem : o.field ∈ o.options.map (·.field) := by
    rw [options]
    split <;> exact List.mem_singleton.2 rfl
  rw [hookLines]
  split
  · simp only [List.forall_mem_cons]
    refine ⟨?_, .of_silent rfl (by decide), .of_silent rfl (by decide), List.forall_mem_nil _⟩
    exact .of_field "invis_trap = " o.field "" (by simp) hfield hmem rfl rfl (by decide)
      (.inl rfl) rfl
  · exact List.forall_mem_nil _

theorem AmmoCapacity.mentionsOnly (o : AmmoCapacity) (hsuffix : ∀ a ∈ o.ammo, IsWord a.suffix)
    (hook : String) : ∀ line ∈ o.hookLines hook, MentionsOnly (o.options.map (·.field)) line := by
  have hmax (a : AmmoType) (ha : a ∈ o.ammo) :
      "max_ammo_" ++ a.suffix ∈ o.options.map (·.field) := by
    rw [options, List.map_append, List.map_map]
    exact List.mem_append_left _ (List.mem_map_of_mem ha)
  have hadded (a : AmmoType) (ha : a ∈ o.ammo) :
      "added_ammo_" ++ a.suffix ∈ o.options.map (·.field) := by
    rw [options, List.map_append, List.map_map, List.map_map]
    exact List.mem_append_right _ (List.mem_map_of_mem ha)
  rw [hookLines]
  split
  · simp only [List.forall_mem_append, List.forall_mem_cons, List.forall_mem_map]
    refine ⟨⟨⟨⟨⟨.of_silent rfl (by decide), List.forall_mem_nil _⟩, ?_⟩,
      .of_silent rfl (by decide), .of_silent rfl (by decide), List.forall_mem_nil _⟩, ?_⟩,
      .of_silent rfl (by decide), List.forall_mem_nil _⟩
    · intro a ha
      have hname : IsWord ("max_ammo_" ++ a.suffix) :=
        .append (.of_chars rfl (by decide)) (hsuffix a ha)
      exact .of_field "    " ("max_ammo_" ++ a.suffix) ".value," (by simp [← String.append_assoc])
        hname (hmax a ha) rfl rfl (by decide) (.inr ⟨_, rfl⟩) (by decide)
    · intro a ha
      have hname : IsWord ("added_ammo_" ++ a.suffix) :=
        .append (.of_chars rfl (by decide)) (hsuffix a ha)
      exact .of_field "    " ("added_ammo_" ++ a.suffix) ".value," (by simp [← String.append_assoc])
        hname (hadded a ha) rfl rfl (by decide) (.inr ⟨_, rfl⟩) (by decide)
  · exact List.forall_mem_nil _

theorem CapacityUpgrades.mentionsOnly (o : CapacityUpgrades) (hsplit : IsWord o.splitField)
    (hcount : IsWord o.countField) (hook : String) :
    ∀ line ∈ o.hookLines hook, MentionsOnly (o.options.map (·.field)) line := by
  have hfields : o.options.map (·.field) = [o.splitField, o.countField] := by
    rw [options]
    cases o.sharedClasses? <;> rfl
  have hsplitMem : o.splitField ∈ o.options.map (·.field) := hfields ▸ List.mem_cons_self
  have hcountMem : o.countField ∈ o.options.map (·.field) :=
    hfields ▸ List.mem_cons_of_mem _ List.mem_cons_self
  rw [hookLines]
  split
  · simp only [List.forall_mem_cons]
    refine ⟨?_, .of_silent rfl (by decide), .of_silent rfl (by decide), .of_silent rfl rfl,
      .of_silent rfl (by decide), .of_silent rfl (by decide),
      .of_silent rfl (by decide), .of_silent rfl rfl, .of_silent rfl (by decide),
      .of_silent rfl (by decide), ?_, .of_silent rfl (by decide), ?_, List.forall_mem_nil _⟩
    · exact .of_field "split_opt = " o.splitField "" (by simp) hsplit hsplitMem rfl rfl (by decide)
        (.inl rfl) rfl
    · exact .of_field "    itempool += [i.name for i in split_items for _ in range(" o.countField
        ".value)]" (by simp) hcount hcountMem rfl rfl (by decide) (.inr ⟨_, rfl⟩) (by decide)
    · exact .of_field "    itempool += [i.name for i in combined_items for _ in range(" o.countField
        ".value)]" (by simp) hcount hcountMem rfl rfl (by decide) (.inr ⟨_, rfl⟩) (by decide)
  · exact List.forall_mem_nil _

theorem StartWithMaps.isWord_init (game : Game) (declared : Json) :
    IsWord (init game declared).field := by
  change IsWord ("start_with_" ++ Text.snakeCase _)
  exact .append (.of_chars rfl (by decide)) (Text.isWord_snakeCase _)

theorem InvisibilityTrap.isWord_init (game : Game) (declared : Json) :
    IsWord (init game declared).field := by
  change IsWord (Text.snakeCase _ ++ "_as_trap")
  exact .append (Text.isWord_snakeCase _) (.of_chars rfl (by decide))

theorem AmmoCapacity.isWord_suffix (game : Game) : ∀ a ∈ (init game).ammo, IsWord a.suffix := by
  intro a ha
  obtain ⟨entry, _, rfl⟩ := List.mem_map.1 ha
  exact Text.isWord_snakeCase _

theorem CapacityUpgrades.isWord_init (game : Game) (declared : Json) :
    IsWord (init game declared).splitField ∧ IsWord (init game declared).countField := by
  change IsWord ("split_" ++ Text.snakeCase _) ∧ IsWord (Text.snakeCase _ ++ "_count")
  exact ⟨.append (.of_chars rfl (by decide)) (Text.isWord_snakeCase _),
    .append (Text.isWord_snakeCase _) (.of_chars rfl (by decide))⟩

namespace WorldOption

def fields (o : WorldOption) : List String := o.options.map (·.field)

theorem mentionsOnly {game : Game} {declared : Json} {e : String × Init} (he : e ∈ builtin)
    (hook : String) :
    ∀ line ∈ (e.2 game declared).hookLines hook, MentionsOnly (e.2 game declared).fields line := by
  simp only [builtin, List.mem_cons, List.not_mem_nil, or_false] at he
  rcases he with rfl | rfl | rfl | rfl | rfl
  · exact List.forall_mem_nil _
  · exact StartWithMaps.mentionsOnly _ (StartWithMaps.isWord_init game declared) hook
  · exact InvisibilityTrap.mentionsOnly _ (InvisibilityTrap.isWord_init game declared) hook
  · exact AmmoCapacity.mentionsOnly _ (AmmoCapacity.isWord_suffix game) hook
  · have hnames := CapacityUpgrades.isWord_init game declared
    exact CapacityUpgrades.mentionsOnly _ hnames.1 hnames.2 hook

end WorldOption

/-- The dataclass in the source of a world's options has a line that binds a field. -/
def BindsField (game : Game) (source field : String) : Prop :=
  ∃ head bindings tail type,
    source = head ++ Text.indentLines 0 ["@dataclass",
      "class " ++ game.className ++ "Options(id1Options.id1CommonOptions):"] ++
        Text.indentLines 4 bindings ++ tail ∧
    field ++ ": " ++ type ∈ bindings

theorem bindingText_eq (o : PlayerOption) : ∃ type, o.bindingText = o.field ++ ": " ++ type := by
  rw [PlayerOption.bindingText, String.append_assoc]
  exact ⟨_, rfl⟩

theorem optionsSource_bindsField (game : Game) {options : List PlayerOption} {o : PlayerOption}
    (ho : o ∈ options) : BindsField game (optionsSource game options) o.field := by
  have hsome : ¬ options.isEmpty = true := by
    intro hempty
    rw [List.isEmpty_iff.1 hempty] at ho
    cases ho
  have hsource : ∃ head tail, optionsSource game options = head ++ Text.indentLines 0 ["@dataclass",
      "class " ++ game.className ++ "Options(id1Options.id1CommonOptions):"] ++
        Text.indentLines 4 (options.map (·.bindingText)) ++ tail := by
    rw [optionsSource, if_neg hsome]
    exact ⟨_, _, rfl⟩
  obtain ⟨head, tail, hsource⟩ := hsource
  obtain ⟨type, htype⟩ := bindingText_eq o
  exact ⟨head, _, tail, type, hsource, htype ▸ List.mem_map_of_mem ho⟩

/-- The code that options put into hooks reads fields that the options of the same game declare,
and the dataclass of the world's options binds them. -/
theorem hookFields_declared (game : Game) (levels : List Level) (hook : String) :
    let options := (WorldOptions.init builtin game).1
    ∀ o ∈ options, ∀ line ∈ o.2.hookLines hook, ∀ field ∈ mentioned line,
      field ∈ options.playerOptions.map (·.field) ∧
      BindsField game
        (optionsSource game (standardOptions game levels ++ options.playerOptions)) field := by
  intro options o ho line hline field hfield
  obtain ⟨d, _, halone⟩ := WorldOptions.mem_initFrom ho
  obtain ⟨e, he, rfl⟩ := Option.map_eq_some_iff.1 (Option.mem_toList.1 halone)
  have hown := WorldOption.mentionsOnly (List.mem_of_find?_eq_some he) hook line hline field hfield
  obtain ⟨p, hp, rfl⟩ := List.mem_map.1 hown
  have hmem : p ∈ options.playerOptions := List.mem_flatMap.2 ⟨_, ho, hp⟩
  exact ⟨List.mem_map_of_mem hmem, optionsSource_bindsField game (List.mem_append_right _ hmem)⟩

/-- A game in which the item of invisibility may be a trap. -/
def trapGame : Game where
  shortName := "doom"
  iwad := "DOOM.WAD"
  episodes := []
  useful := [{ type := 2024, name := "Partial invisibility" }]
  worldInfo := { worldOptions := [.obj [("name", "Invis as Trap")]] }

def trapOption : String × WorldOption :=
  ("Invis as Trap",
    .invisibilityTrap ⟨2024, "Partial invisibility", "partial_invisibility_as_trap"⟩)

theorem hookFields_declared_trap :
    let options := (WorldOptions.init builtin trapGame).1
    let line := "invis_trap = self.options.partial_invisibility_as_trap"
    let field := "partial_invisibility_as_trap"
    trapOption ∈ options ∧ line ∈ trapOption.2.hookLines "create_item" ∧ field ∈ mentioned line ∧
      field ∈ options.playerOptions.map (·.field) ∧
      BindsField trapGame
        (optionsSource trapGame (standardOptions trapGame [] ++ options.playerOptions)) field := by
  intro options line field
  have ho : trapOption ∈ options := by decide +kernel
  have hline : line ∈ trapOption.2.hookLines "create_item" := by decide +kernel
  have hfield : field ∈ mentioned line := by decide +kernel
  have hdeclared := hookFields_declared trapGame [] "create_item" _ ho line hline field hfield
  exact ⟨ho, hline, hfield, hdeclared⟩

end Worldsmith
