import Worldsmith.Proofs.Options.Fields

namespace Worldsmith

open StandardOptions
open WorldOption (builtin)
open Text (IsIdentifier snakeCase startsWithDigit readsDigitFirst)

variable {game : Game} {data : GameLevels} {levels : List Level} {w : World} {notes : Diagnostics}
  {o p : PlayerOption} {d : WorldOption} {options : WorldOptions} {item s t : String}

namespace WorldOption

/-- The options whose fields begin with the name of an item, each with the name. -/
def leading : WorldOption → List (String × PlayerOption)
  | invisibilityTrap t => t.options.map fun o => (t.itemName, o)
  | capacityUpgrades u => u.options.tail.map fun o => (u.singularName, o)
  | _ => []

def trailing : WorldOption → List PlayerOption
  | startWithMaps m => m.options
  | ammoCapacity c => c.options
  | capacityUpgrades u => u.options.take 1
  | _ => []

def suffixes : WorldOption → List String
  | ammoCapacity c => c.ammo.map (·.suffix)
  | _ => []

inductive Tag
  | difficulty
  | startWithMaps
  | invisibilityTrap
  | ammoCapacity
  | capacityUpgrades

def tag : WorldOption → Tag
  | difficulty _ => .difficulty
  | startWithMaps _ => .startWithMaps
  | invisibilityTrap _ => .invisibilityTrap
  | ammoCapacity _ => .ammoCapacity
  | capacityUpgrades _ => .capacityUpgrades

namespace Tag

def registered : Tag → String
  | difficulty => "Difficulty"
  | startWithMaps => "Start with Maps"
  | invisibilityTrap => "Invis as Trap"
  | ammoCapacity => "Custom Ammo Capacity"
  | capacityUpgrades => "Capacity Upgrades"

def heads : Tag → List String
  | difficulty => ["difficulty"]
  | startWithMaps => ["start_with_"]
  | invisibilityTrap => []
  | ammoCapacity => ["max_ammo_", "added_ammo_"]
  | capacityUpgrades => ["split_"]

/-- What a field ends in that begins with the name of an item. -/
def ending : Tag → String
  | invisibilityTrap => "as_trap"
  | _ => "count"

variable {t t' : Tag}

theorem heads_disjoint (h : t ≠ t') : ∀ p ∈ t.heads, p ∉ t'.heads := by
  cases t <;> cases t' <;> first | exact absurd rfl h | decide

theorem back_ending (t : Tag) : Text.back t.ending ∈ [some 'p', some 't'] := by
  cases t <;> decide

end Tag

inductive Made (game : Game) : String × WorldOption → Prop
  | difficulty (declared : Json) : Made game ("Difficulty", .difficulty (.init game declared))
  | startWithMaps (declared : Json) :
      Made game ("Start with Maps", .startWithMaps (.init game declared))
  | invisibilityTrap (declared : Json) :
      Made game ("Invis as Trap", .invisibilityTrap (.init game declared))
  | ammoCapacity : Made game ("Custom Ammo Capacity", .ammoCapacity (.init game))
  | capacityUpgrades (declared : Json) :
      Made game ("Capacity Upgrades", .capacityUpgrades (.init game declared))

variable {e f : String × WorldOption}

theorem made_of_mem (he : e ∈ (WorldOptions.init builtin game).1) : Made game e := by
  obtain ⟨declared, -, halone⟩ := WorldOptions.mem_initFrom he
  obtain ⟨b, hfind, rfl⟩ := Option.map_eq_some_iff.1 (Option.mem_toList.1 halone)
  have hname := List.find?_some hfind
  have hb := List.mem_of_find?_eq_some hfind
  rw [← eq_of_beq hname]
  simp only [builtin, List.mem_cons, List.not_mem_nil, or_false] at hb
  rcases hb with rfl | rfl | rfl | rfl | rfl
  · exact .difficulty declared
  · exact .startWithMaps declared
  · exact .invisibilityTrap declared
  · exact .ammoCapacity
  · exact .capacityUpgrades declared

theorem Made.registered (he : Made game e) : e.1 = e.2.tag.registered := by
  cases he <;> rfl

theorem Made.tag_ne (he : Made game e) (hf : Made game f) (hne : e.1 ≠ f.1) :
    e.2.tag ≠ f.2.tag := by
  intro heq
  apply hne
  rw [he.registered, hf.registered, heq]

theorem difficulty_plain {c : Difficulty} (ho : o ∈ c.options) : Plain ["difficulty"] o := by
  obtain ⟨o', hoptions, hfield, hnamed⟩ := difficulty_options c
  rw [hoptions] at ho
  obtain rfl := List.mem_singleton.1 ho
  exact .of_field "difficulty" "" hnamed hfield (by decide) rfl (by decide)

theorem trailing_subset (ho : o ∈ d.trailing) : o ∈ d.options := by
  cases d with
  | difficulty c => cases ho
  | startWithMaps m => exact ho
  | invisibilityTrap t => cases ho
  | ammoCapacity c => exact ho
  | capacityUpgrades u => exact List.mem_of_mem_take ho

theorem leading_subset (ho : (item, o) ∈ d.leading) : o ∈ d.options := by
  cases d with
  | difficulty c => cases ho
  | startWithMaps m => cases ho
  | invisibilityTrap t =>
    obtain ⟨o, hmem, heq⟩ := List.mem_map.1 ho
    cases heq
    exact hmem
  | ammoCapacity c => cases ho
  | capacityUpgrades u =>
    obtain ⟨o, hmem, heq⟩ := List.mem_map.1 ho
    cases heq
    exact List.mem_of_mem_tail hmem

/-- Every field begins or ends in a name, but that of the difficulty. -/
theorem mem_options_cases (ho : o ∈ d.options) :
    Plain ["difficulty"] o ∧ d.tag = .difficulty ∨ o ∈ d.trailing ∨
      ∃ item, (item, o) ∈ d.leading := by
  cases d with
  | difficulty c => exact .inl ⟨difficulty_plain ho, rfl⟩
  | startWithMaps m => exact .inr (.inl ho)
  | invisibilityTrap t => exact .inr (.inr ⟨_, List.mem_map_of_mem ho⟩)
  | ammoCapacity c => exact .inr (.inl ho)
  | capacityUpgrades u =>
    obtain ⟨split, count, hoptions, -⟩ := upgrades_options u
    simp only [options, leading, trailing, hoptions] at ho ⊢
    rcases List.mem_pair.1 ho with rfl | rfl
    · exact .inr (.inl List.mem_cons_self)
    · exact .inr (.inr ⟨_, List.mem_cons_self⟩)

theorem Made.trailing_headed (he : Made game e) (ho : o ∈ e.2.trailing) :
    Headed e.2.tag.heads o := by
  cases he with
  | difficulty declared => cases ho
  | startWithMaps declared =>
    obtain ⟨o', hoptions, hfield, -⟩ := maps_options (.init game declared)
    simp only [trailing, hoptions] at ho
    obtain rfl := List.mem_singleton.1 ho
    exact ⟨_, List.mem_singleton.2 rfl, by decide, _, Text.isWord_snakeCase _, hfield⟩
  | invisibilityTrap declared => cases ho
  | ammoCapacity =>
    have hsuffix := AmmoCapacity.isWord_suffix game
    rcases List.mem_append.1 ho with ho | ho
    · obtain ⟨a, ha, rfl⟩ := List.mem_map.1 ho
      exact ⟨_, List.mem_cons_self, by decide, a.suffix, hsuffix a ha, rfl⟩
    · obtain ⟨a, ha, rfl⟩ := List.mem_map.1 ho
      exact ⟨_, List.mem_cons_of_mem _ List.mem_cons_self, by decide, a.suffix, hsuffix a ha, rfl⟩
  | capacityUpgrades declared =>
    obtain ⟨split, count, hoptions, ⟨hsplit, -⟩, -⟩ := upgrades_options (.init game declared)
    simp only [trailing, hoptions] at ho
    obtain rfl := List.mem_singleton.1 ho
    exact ⟨_, List.mem_singleton.2 rfl, by decide, _, Text.isWord_snakeCase _, hsplit⟩

theorem Made.leading_field (he : Made game e) (ho : (item, o) ∈ e.2.leading) :
    o.field = snakeCase item ++ ("_" ++ e.2.tag.ending) := by
  cases he with
  | difficulty declared => cases ho
  | startWithMaps declared => cases ho
  | invisibilityTrap declared =>
    obtain ⟨o', hoptions, hfield, -⟩ := trap_options (.init game declared)
    simp only [leading, hoptions] at ho
    cases List.mem_singleton.1 ho
    exact hfield
  | ammoCapacity => cases ho
  | capacityUpgrades declared =>
    obtain ⟨split, count, hoptions, -, hcount, -⟩ := upgrades_options (.init game declared)
    simp only [leading, hoptions] at ho
    cases List.mem_singleton.1 ho
    exact hcount

end WorldOption

/-- The options of a world whose fields begin with the name of an item. -/
def WorldOptions.leading (options : WorldOptions) : List (String × PlayerOption) :=
  options.flatMap (·.2.leading)

/-- The names that a game gives keep the names of its options apart: those of ammunition differ, and
none that begins with the name of an item is one that ends in a name. -/
structure WorldOptions.NamesApart (n : Naming) (options : WorldOptions) : Prop where
  ammo : ∀ e ∈ options, (e.2.suffixes.map n.form).Nodup
  ends : ∀ e ∈ options, ∀ f ∈ options, e ≠ f →
    ∀ x ∈ e.2.leading, ∀ o ∈ f.2.trailing, n.Apart x.2 o

namespace Naming

variable {n : Naming}

theorem form_append_inj (n : Naming) (before : String) :
    n.form (before ++ "_" ++ s) = n.form (before ++ "_" ++ t) ↔ n.form s = n.form t := by
  cases n with
  | field => exact String.append_right_inj _
  | ownClass =>
    change Text.className _ = Text.className _ ↔ _
    rw [Text.className_append, Text.className_append]
    exact String.append_right_inj _

theorem apart_iff_of_own (ho : o.ownClass = some (Text.className o.field))
    (hp : p.ownClass = some (Text.className p.field)) :
    n.Apart o p ↔ n.form o.field ≠ n.form p.field := by
  have hname {q : PlayerOption} (hq : q.ownClass = some (Text.className q.field)) :
      n.name? q = some (n.form q.field) := by
    cases n with
    | field => rfl
    | ownClass => exact hq
  rw [Apart, hname ho, hname hp]
  constructor
  · intro h
    exact h _ rfl _ rfl
  · rintro h s hs t ht
    cases hs
    cases ht
    exact h

end Naming

namespace AmmoType

variable {n : Naming} {a b : AmmoType}

theorem maxOption_apart_iff :
    n.Apart a.maxOption b.maxOption ↔ n.form a.suffix ≠ n.form b.suffix := by
  rw [Naming.apart_iff_of_own rfl rfl]
  exact (n.form_append_inj "max_ammo").not

theorem addedOption_apart_iff :
    n.Apart a.addedOption b.addedOption ↔ n.form a.suffix ≠ n.form b.suffix := by
  rw [Naming.apart_iff_of_own rfl rfl]
  exact (n.form_append_inj "added_ammo").not

theorem maxOption_apart_addedOption : n.Apart a.maxOption b.addedOption := by
  apply a.maxOption_named.apart b.addedOption_named
  apply Text.className_ne_of_front
  change Text.front ("max_ammo_" ++ a.suffix) ≠ Text.front ("added_ammo_" ++ b.suffix)
  rw [Text.front_append (by decide), Text.front_append (by decide)]
  decide

end AmmoType

theorem AmmoCapacity.apart_iff (n : Naming) (c : AmmoCapacity) :
    c.options.Pairwise n.Apart ↔ ((c.ammo.map (·.suffix)).map n.form).Nodup := by
  rw [options_eq, List.pairwise_append, List.pairwise_map, List.pairwise_map, List.map_map,
    List.Nodup, List.pairwise_map]
  simp only [AmmoType.maxOption_apart_iff, AmmoType.addedOption_apart_iff]
  constructor
  · rintro ⟨hmax, -, -⟩
    exact hmax
  · intro h
    refine ⟨h, h, ?_⟩
    simp only [List.forall_mem_map]
    intro a _ b _
    exact AmmoType.maxOption_apart_addedOption

namespace WorldOption

variable {n : Naming} {e f : String × WorldOption}

theorem className_split_ne_count (s : String) :
    Text.className ("split_" ++ s) ≠ Text.className (s ++ ("_" ++ "count")) := by
  intro he
  have hsplit : Text.className ("split_" ++ s) = "Split" ++ Text.className s :=
    Text.className_append "split" s
  rw [hsplit, ← String.append_assoc, Text.className_append] at he
  have hcount := congrArg (·.toList.count 'S') he
  have hletters : "Split".toList.count 'S' = 1 ∧ (Text.className "count").toList.count 'S' = 0 := by
    decide
  simp only [String.toList_append, List.count_append, hletters] at hcount
  omega

theorem Made.apart_iff (he : Made game e) :
    e.2.options.Pairwise n.Apart ↔ (e.2.suffixes.map n.form).Nodup := by
  cases he with
  | difficulty declared =>
    obtain ⟨o, hoptions, -⟩ := difficulty_options (.init game declared)
    simp [options, suffixes, hoptions]
  | startWithMaps declared =>
    obtain ⟨o, hoptions, -⟩ := maps_options (.init game declared)
    simp [options, suffixes, hoptions]
  | invisibilityTrap declared =>
    obtain ⟨o, hoptions, -⟩ := trap_options (.init game declared)
    simp [options, suffixes, hoptions]
  | ammoCapacity => exact AmmoCapacity.apart_iff n _
  | capacityUpgrades declared =>
    obtain ⟨split, count, hoptions, ⟨hsplit, hnamed⟩, hcount, hnamed'⟩ :=
      upgrades_options (.init game declared)
    have hapart : n.Apart split count := by
      apply hnamed.apart hnamed'
      rw [hsplit, hcount]
      exact className_split_ne_count _
    simp [options, suffixes, hoptions, hapart]

theorem Made.headed_or_leading (he : Made game e) (ho : o ∈ e.2.options) :
    Headed e.2.tag.heads o ∨ ∃ item, (item, o) ∈ e.2.leading := by
  rcases mem_options_cases ho with ⟨hplain, htag⟩ | ho | ho
  · rw [htag]
    exact .inl hplain.headed
  · exact .inl (he.trailing_headed ho)
  · exact .inr ho

theorem Made.leading_back (he : Made game e) (ho : (item, o) ∈ e.2.leading) :
    Text.back o.field = Text.back e.2.tag.ending := by
  have hsome : (Text.back e.2.tag.ending).isSome := by
    rcases List.mem_pair.1 e.2.tag.back_ending with h | h <;> rw [h] <;> rfl
  rw [he.leading_field ho, Text.back_append hsome]

theorem tag_of_leading (ho : (item, o) ∈ d.leading) :
    d.tag = .invisibilityTrap ∨ d.tag = .capacityUpgrades := by
  cases d with
  | difficulty c => cases ho
  | startWithMaps m => cases ho
  | invisibilityTrap t => exact .inl rfl
  | ammoCapacity c => cases ho
  | capacityUpgrades u => exact .inr rfl

/-- A field that begins with the name of an item is met by no other that does not end in a name. -/
theorem Made.apart_of_leading (he : Made game e) (hf : Made game f) (hne : e.2.tag ≠ f.2.tag)
    (hends : ∀ x ∈ e.2.leading, ∀ q ∈ f.2.trailing, n.Apart x.2 q)
    (ho : (item, o) ∈ e.2.leading) (hp : p ∈ f.2.options) : n.Apart o p := by
  have hback := he.leading_back ho
  have happly (h : Text.back o.field ≠ Text.back p.field) : n.Apart o p :=
    (named (leading_subset ho)).apart (named hp) (Text.className_ne_of_back h)
  rcases mem_options_cases hp with ⟨hplain, -⟩ | hp | ⟨item', hp⟩
  · apply happly
    intro heq
    apply hplain.back
    rw [← heq, hback]
    exact e.2.tag.back_ending
  · exact hends _ ho p hp
  · apply happly
    rw [hback, hf.leading_back hp]
    rcases tag_of_leading ho with h | h <;> rcases tag_of_leading hp with h' | h' <;>
      rw [h, h'] at hne ⊢ <;> first | exact absurd rfl hne | decide

theorem Made.apart (he : Made game e) (hf : Made game f) (hne : e.1 ≠ f.1)
    (hends : ∀ x ∈ e.2.leading, ∀ q ∈ f.2.trailing, n.Apart x.2 q)
    (hends' : ∀ x ∈ f.2.leading, ∀ q ∈ e.2.trailing, n.Apart x.2 q) :
    ∀ o ∈ e.2.options, ∀ p ∈ f.2.options, n.Apart o p := by
  intro o ho p hp
  have htag := he.tag_ne hf hne
  rcases he.headed_or_leading ho with hoHead | ⟨item, hoLead⟩
  · rcases hf.headed_or_leading hp with hpHead | ⟨item, hpLead⟩
    · apply (named ho).apart (named hp)
      exact hoHead.className_ne hpHead (Tag.heads_disjoint htag)
    · exact symm (hf.apart_of_leading he htag.symm hends' hpLead ho)
  · exact he.apart_of_leading hf htag hends hoLead hp

end WorldOption

variable {n : Naming}

theorem WorldOptions.apart_iff (hmade : ∀ e ∈ options, WorldOption.Made game e)
    (hnames : (options.map (·.1)).Nodup) :
    options.playerOptions.Pairwise n.Apart ↔ options.NamesApart n := by
  rw [playerOptions, List.pairwise_flatMap]
  constructor
  · rintro ⟨hown, hothers⟩
    refine ⟨fun e he => (hmade e he).apart_iff.1 (hown e he), ?_⟩
    intro e he f hf hne x hx o ho
    have hsymm : Std.Symm fun e f : String × WorldOption =>
        ∀ o ∈ e.2.options, ∀ p ∈ f.2.options, n.Apart o p :=
      ⟨fun _ _ h o ho p hp => symm (h p hp o ho)⟩
    exact hothers.forall he hf hne x.2 (WorldOption.leading_subset hx) o
      (WorldOption.trailing_subset ho)
  · intro h
    refine ⟨fun e he => (hmade e he).apart_iff.2 (h.ammo e he), ?_⟩
    apply (List.pairwise_map.1 hnames).imp_of_mem
    intro e f he hf hne
    have hne' : e ≠ f := fun heq => hne (congrArg (·.1) heq)
    exact (hmade e he).apart (hmade f hf) hne (h.ends e he f hf hne') (h.ends f hf e he hne'.symm)

/-- No option that every world has shares a name with one that a game declares. -/
theorem WorldOption.Made.standard_apart {e : String × WorldOption} (he : Made game e)
    (ho : Plain standardHeads o) (hp : p ∈ e.2.options) : n.Apart o p := by
  apply ho.named.apart (named hp)
  rcases he.headed_or_leading hp with hp | ⟨item, hp⟩
  · have hdisjoint : ∀ t : Tag, ∀ q ∈ standardHeads, q ∉ t.heads := by
      intro t
      cases t <;> decide
    exact ho.headed.className_ne hp (hdisjoint _)
  · apply Text.className_ne_of_back
    intro heq
    apply ho.back
    rw [heq, he.leading_back hp]
    exact e.2.tag.back_ending

theorem playerOptions_apart_iff (game : Game) (levels : List Level) :
    (World.ofLevels game levels).playerOptions.Pairwise n.Apart ↔
      (World.ofLevels game levels).options.NamesApart n := by
  have hmade : ∀ e ∈ (World.ofLevels game levels).options, WorldOption.Made game e :=
    fun _ he => WorldOption.made_of_mem he
  rw [World.playerOptions, List.pairwise_append,
    WorldOptions.apart_iff hmade (WorldOptions.ofDeclared_nodup builtin game _)]
  constructor
  · rintro ⟨-, h, -⟩
    exact h
  · intro h
    refine ⟨standardOptions_apart n game levels, h, ?_⟩
    intro o ho p hp
    obtain ⟨e, he, hp⟩ := List.mem_flatMap.1 hp
    exact (hmade e he).standard_apart (standardOptions_plain ho) hp

theorem PlayerOption.Named.eq_className {c : String} (ho : o.Named) (h : o.ownClass = some c) :
    c = Text.className o.field := ho.eq_form (n := .ownClass) h

theorem Headed.isIdentifier_names {ps : List String} (h : Headed ps o) (hnamed : o.Named) :
    IsIdentifier o.field ∧ ∀ c, o.ownClass = some c → IsIdentifier c := by
  obtain ⟨hfield, hclass⟩ := h.isIdentifier
  exact ⟨hfield, fun c hc => hnamed.eq_className hc ▸ hclass⟩

theorem WorldOption.Made.isIdentifier_iff {e : String × WorldOption} (he : Made game e)
    (ho : (item, o) ∈ e.2.leading) :
    (IsIdentifier o.field ↔ startsWithDigit item = false) ∧
      (IsIdentifier (Text.className o.field) ↔ readsDigitFirst item = false) := by
  rw [he.leading_field ho]
  generalize e.2.tag = t
  apply Text.isIdentifier_ending_iff <;> cases t <;> decide

/-- The names of the options of a world are distinct as far as the names of ammunition and of items
keep them apart. They are identifiers, but for those that begin with the name of an item, which are
unless a digit comes first. -/
structure World.OptionNames (w : World) : Prop where
  fields : (w.playerOptions.map (·.field)).Nodup ↔ w.options.NamesApart .field
  classes : (w.playerOptions.filterMap (·.ownClass)).Nodup ↔ w.options.NamesApart .ownClass
  identifiers : ∀ o ∈ w.playerOptions, (∀ item, (item, o) ∉ w.options.leading) →
    IsIdentifier o.field ∧ ∀ c, o.ownClass = some c → IsIdentifier c
  leading : ∀ x ∈ w.options.leading,
    (IsIdentifier x.2.field ↔ startsWithDigit x.1 = false) ∧
    ∀ c, x.2.ownClass = some c → (IsIdentifier c ↔ readsDigitFirst x.1 = false)

theorem World.compile_optionNames (h : World.compile game data = .ok (w, notes)) :
    w.OptionNames := by
  obtain ⟨levels, -, -, rfl, -⟩ := World.compile_eq_ok_iff.1 h
  have hmade : ∀ e ∈ (World.ofLevels game levels).options, WorldOption.Made game e :=
    fun _ he => WorldOption.made_of_mem he
  refine ⟨?_, ?_, ?_, ?_⟩
  · rw [← playerOptions_apart_iff, ← Naming.nodup_filterMap_iff, Naming.filterMap_field]
  · rw [← playerOptions_apart_iff, ← Naming.nodup_filterMap_iff]
    rfl
  · intro o ho hleading
    rcases List.mem_append.1 ho with ho | ho
    · have hplain := standardOptions_plain ho
      exact hplain.headed.isIdentifier_names hplain.named
    · obtain ⟨e, he, ho⟩ := List.mem_flatMap.1 ho
      rcases (hmade e he).headed_or_leading ho with hheaded | ⟨item, hitem⟩
      · exact hheaded.isIdentifier_names (WorldOption.named ho)
      · exact absurd (List.mem_flatMap.2 ⟨e, he, hitem⟩) (hleading item)
  · rintro ⟨item, o⟩ hx
    obtain ⟨e, he, hx⟩ := List.mem_flatMap.1 hx
    obtain ⟨hfield, hclass⟩ := (hmade e he).isIdentifier_iff hx
    have hnamed := WorldOption.named (WorldOption.leading_subset hx)
    exact ⟨hfield, fun c hc => hnamed.eq_className hc ▸ hclass⟩

theorem World.compile_optionNames_arsenal :
    World.compile arsenalGame ⟨[[]]⟩ = .ok (arsenalWorld, arsenalNotes) ∧
      arsenalWorld.OptionNames :=
  ⟨arsenalGame_compile, World.compile_optionNames arsenalGame_compile⟩

/-- Ammunition of one name but for its capitals or its signs, and an item with a digit in front. -/
def clashGame : Game :=
  { yardGame with
    useful := [{ type := 2024, name := "3D glasses" }]
    worldInfo := {
      worldOptions := [.obj [("name", "Custom Ammo Capacity")], .obj [("name", "Invis as Trap")]] }
    gameInfo := some (.obj [("ammo", .arr [
      .obj [("name", "Cells")], .obj [("name", "cells")], .obj [("name", "Shells")],
      .obj [("name", "shells!")]])]) }

def clashWorld : World := World.ofLevels clashGame [yardLevel]

def clashNotes : Diagnostics := World.notesOn clashGame [yardLevel]

theorem clashGame_compile : World.compile clashGame yardData = .ok (clashWorld, clashNotes) := by
  have hl : clashGame.levels yardData = .ok [yardLevel] := rfl
  have hv : violations clashGame (Catalog.prepare clashGame [yardLevel]).1 = [] := by cbv
  exact World.compile_eq_ok_iff.2 ⟨_, hl, hv, rfl, rfl⟩

theorem clash_names :
    (∃ report, (generate clashGame yardData .accepting [] 1 ⟨2024, 1, 1, 0, 0, 0⟩).run =
      .ok report) ∧
      World.compile clashGame yardData = .ok (clashWorld, clashNotes) ∧
      ¬ (clashWorld.playerOptions.map (·.field)).Nodup ∧
      ¬ (clashWorld.playerOptions.filterMap (·.ownClass)).Nodup ∧
      ∃ o ∈ clashWorld.playerOptions, ¬ IsIdentifier o.field ∧
        ∃ c, o.ownClass = some c ∧ ¬ IsIdentifier c := by
  have htrap : ∃ o ∈ clashWorld.playerOptions, o.field = "3d_glasses_as_trap" ∧
      o.ownClass = some "3DGlassesAsTrap" := by decide +kernel
  obtain ⟨o, ho, hfield, hclass⟩ := htrap
  refine ⟨?_, clashGame_compile, by decide +kernel, by decide +kernel, o, ho, ?_, _, hclass, ?_⟩
  · rw [generate, clashGame_compile]
    exact ⟨_, rfl⟩
  · intro h
    rw [hfield] at h
    exact absurd h.start (by decide)
  · intro h
    exact absurd h.start (by decide)

end Worldsmith
