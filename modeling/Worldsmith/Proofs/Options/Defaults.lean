import Std.Data.String.ToInt
import Worldsmith.Proofs.Options.HookFields
import Worldsmith.Proofs.Region.Requirements

namespace Worldsmith

open PlayerOption (setLines)
open WorldOption (builtin Init)

variable {game : Game} {data : GameLevels} {levels : List Level} {w : World} {notes : Diagnostics}
  {o : PlayerOption} {d : WorldOption} {least most default : Int} {values : List String}

def rangeLines (least most default : Int) : List String :=
  ["    range_start = " ++ toString least, "    range_end = " ++ toString most,
    "    default = " ++ toString default]

def defaultLine (default : Int) : String := "    default = " ++ toString default

/-- A line that names a value of a choice. -/
def valueLine (name : String) (value : Int) : String :=
  "    option_" ++ name ++ " = " ++ toString value

/-- The lines in the class of an option give it a default that it may have. -/
def DefaultFits (lines : List String) : PlayerOption.Kind → Prop
  | .range => ∃ least most default, lines = rangeLines least most default ∧
      least ≤ default ∧ default ≤ most
  | .choice => ∃ values default, lines = values ++ [defaultLine default] ∧
      ∃ name, IsName name ∧ valueLine name default ∈ values
  | .optionSet => ∃ members defaults,
      lines = setLines "valid_keys" members ++ setLines "default" defaults ∧ defaults ⊆ members
  | _ => True

theorem toString_int_inj {m n : Int} (h : toString m = toString n) : m = n := Int.repr_injective h

theorem defaultLine_inj {m n : Int} (h : defaultLine m = defaultLine n) : m = n :=
  toString_int_inj ((String.append_right_inj _).1 h)

theorem defaultFits_range_iff : DefaultFits (rangeLines least most default) .range ↔
    least ≤ default ∧ default ≤ most := by
  constructor
  · rintro ⟨least', most', default', hlines, hfits⟩
    obtain ⟨hleast, hmost, hdefault, -⟩ : _ ∧ _ ∧ _ ∧ ([] : List String) = [] := by
      simpa only [rangeLines, List.cons.injEq, and_true, String.append_right_inj] using hlines
    rw [toString_int_inj hleast, toString_int_inj hmost, toString_int_inj hdefault]
    exact hfits
  · intro h
    exact ⟨least, most, default, rfl, h⟩

theorem defaultFits_choice_iff : DefaultFits (values ++ [defaultLine default]) .choice ↔
    ∃ name, IsName name ∧ valueLine name default ∈ values := by
  constructor
  · rintro ⟨values', default', hlines, hvalue⟩
    obtain ⟨rfl, hline⟩ := List.append_inj' hlines rfl
    rw [defaultLine_inj (List.singleton_inj.1 hline)]
    exact hvalue
  · intro h
    exact ⟨values, default, rfl, h⟩

theorem IsName.append_space_inj {x y r r' : String} (hx : IsName x) (hy : IsName y)
    (h : x ++ (" " ++ r) = y ++ (" " ++ r')) : r = r' := by
  have hdrop {s t : String} (hs : IsName s) :
      (s ++ (" " ++ t)).toList.dropWhile isNameChar = (" " ++ t).toList := by
    rw [String.toList_append, List.dropWhile_append_of_pos hs, String.toList_append]
    exact List.dropWhile_cons_of_neg (by decide)
  have hrest : (" " ++ r).toList = (" " ++ r').toList := by
    rw [← hdrop hx, ← hdrop hy, h]
  exact (String.append_right_inj _).1 (String.toList_inj.1 hrest)

theorem valueLine_inj {x y : String} {m n : Int} (hx : IsName x) (hy : IsName y)
    (h : valueLine x m = valueLine y n) : m = n := by
  simp only [valueLine, String.append_assoc, String.append_right_inj] at h
  exact toString_int_inj ((String.append_right_inj "= ").1 (hx.append_space_inj hy h))

namespace Difficulty

variable {warning : String} {skills : List (Option Skill)} {s : Skill} {i : Nat}

theorem mem_offered_iff : (s, i) ∈ offered skills ↔ skills[i]? = some (some s) := by
  rw [offered, List.mem_filterMap]
  constructor
  · rintro ⟨⟨skill, j⟩, hskill, hs⟩
    obtain ⟨s', rfl, heq⟩ := Option.map_eq_some_iff.1 hs
    cases heq
    exact List.mk_mem_zipIdx_iff_getElem?.1 hskill
  · intro h
    exact ⟨(some s, i), List.mk_mem_zipIdx_iff_getElem?.2 h, rfl⟩

theorem valueLine_eq (name : String) (value : Nat) :
    "    " ++ assignment "option" name value = valueLine (Text.snakeCase name) value := by
  simp only [assignment, valueLine, String.append_assoc]
  rfl

/-- The lines of the class: what the last skill warns of, the skills and their other names. -/
def lines (warning : String) (skills : List (Option Skill)) : List String :=
  (if warning.isEmpty then [] else ["skill_5_warning = " ++ Text.quoted warning]) ++
    (offered skills).map (fun (s, i) => assignment "option" s.optionName i) ++
    (offered skills).flatMap fun (s, i) => s.aliases.map fun name => assignment "alias" name i

def written (warning : String) (skills : List (Option Skill)) : List String :=
  ((lines warning skills).filter (·.contains '=')).map ("    " ++ ·)

theorem kindLines_eq (ho : o ∈ (custom warning skills).options) :
    o.kind = .choice ∧ o.kindLines = written warning skills ++ [defaultLine 2] := by
  obtain rfl := List.mem_singleton.1 ho
  exact ⟨rfl, rfl⟩

theorem written_of_offered (h : (s, i) ∈ offered skills) :
    valueLine (Text.snakeCase s.optionName) i ∈ written warning skills := by
  have hmem : assignment "option" s.optionName i ∈ lines warning skills := by
    apply List.mem_append_left
    apply List.mem_append_right
    exact List.mem_map_of_mem (f := fun (s, i) => assignment "option" s.optionName i) h
  have hassigns : (assignment "option" s.optionName i).contains '=' = true := by
    rw [String.contains_char_eq, decide_eq_true_eq]
    simp [assignment]
  exact List.mem_map.2 ⟨_, List.mem_filter.2 ⟨hmem, hassigns⟩, valueLine_eq _ i⟩

theorem offered_of_written {name : String} (hname : IsName name)
    (h : valueLine name i ∈ written warning skills) : ∃ s, (s, i) ∈ offered skills := by
  obtain ⟨v, hv, heq⟩ := List.mem_map.1 h
  have hstart : v.toList.head? = some 'o' := by
    have hv : v = "option_" ++ (name ++ " = " ++ toString (i : Int)) := by
      rw [← String.append_right_inj "    ", heq]
      simp only [valueLine, String.append_assoc]
      rfl
    rw [hv, String.toList_append]
    rfl
  rcases List.mem_append.1 (List.mem_of_mem_filter hv) with hv | hv
  · rcases List.mem_append.1 hv with hv | hv
    · split at hv
      · cases hv
      · obtain rfl := List.mem_singleton.1 hv
        rw [String.toList_append] at hstart
        cases hstart
    · obtain ⟨⟨s, j⟩, hs, rfl⟩ := List.mem_map.1 hv
      rw [valueLine_eq] at heq
      cases Int.ofNat_inj.1 (valueLine_inj (isName_snakeCase _) hname heq)
      exact ⟨s, hs⟩
  · obtain ⟨⟨s, j⟩, -, hv⟩ := List.mem_flatMap.1 hv
    obtain ⟨other, -, rfl⟩ := List.mem_map.1 hv
    simp only [assignment, String.append_assoc, String.toList_append] at hstart
    cases hstart

theorem fits_iff (ho : o ∈ (custom warning skills).options) :
    DefaultFits o.kindLines o.kind ↔ ∃ s, skills[2]? = some (some s) := by
  obtain ⟨hkind, hlines⟩ := kindLines_eq ho
  rw [hkind, hlines, defaultFits_choice_iff]
  constructor
  · rintro ⟨name, hname, hline⟩
    obtain ⟨s, hs⟩ := offered_of_written hname hline
    exact ⟨s, mem_offered_iff.1 hs⟩
  · rintro ⟨s, hs⟩
    exact ⟨_, isName_snakeCase s.optionName, written_of_offered (mem_offered_iff.2 hs)⟩

end Difficulty

namespace AmmoType

variable {a : AmmoType}

def maxOption (a : AmmoType) : PlayerOption :=
  AmmoCapacity.capacityOption ("max_ammo_" ++ a.suffix) ("Max Ammo - " ++ a.name)
    ("Set the starting capacity for " ++ a.name ++ ".") a.capacity a.capacity

def addedOption (a : AmmoType) : PlayerOption :=
  AmmoCapacity.capacityOption ("added_ammo_" ++ a.suffix) ("Added Ammo - " ++ a.name)
    ("Set how much capacity for " ++ a.name ++
      " will be added when a capacity upgrade is obtained.")
    (a.capacity.tdiv 10) a.capacity

theorem maxOption_fits_iff :
    DefaultFits a.maxOption.kindLines a.maxOption.kind ↔ a.capacity ≤ 999 := by
  have hlines : a.maxOption.kindLines = rangeLines a.capacity 999 a.capacity := rfl
  have hkind : a.maxOption.kind = .range := rfl
  rw [hlines, hkind, defaultFits_range_iff, and_iff_right (Int.le_refl _)]

theorem addedOption_fits_iff : DefaultFits a.addedOption.kindLines a.addedOption.kind ↔
    0 ≤ a.capacity ∧ a.capacity ≤ 999 := by
  have hlines : a.addedOption.kindLines = rangeLines (a.capacity.tdiv 10) 999 a.capacity := rfl
  have hkind : a.addedOption.kind = .range := rfl
  have hleast : a.capacity.tdiv 10 ≤ a.capacity ↔ 0 ≤ a.capacity := by
    rw [Int.tdiv_eq_ediv, Int.sign_eq_one_of_pos (by decide)]
    split <;> omega
  rw [hlines, hkind, defaultFits_range_iff, hleast]

end AmmoType

theorem AmmoCapacity.options_eq (c : AmmoCapacity) :
    c.options = c.ammo.map (·.maxOption) ++ c.ammo.map (·.addedOption) := rfl

namespace StandardOptions

theorem goalCount_fits_iff (levels : List Level) :
    DefaultFits (goalCount levels).kindLines (goalCount levels).kind ↔ levels ≠ [] := by
  have hlines : (goalCount levels).kindLines = rangeLines 1 levels.length levels.length := rfl
  have hkind : (goalCount levels).kind = .range := rfl
  rw [hlines, hkind, defaultFits_range_iff, ← List.length_pos_iff]
  omega

theorem bossLevel?_mem {episode : Episode} {index : Nat} {level : Level}
    (h : bossLevel? levels episode index = some level) : level ∈ levels := by
  obtain ⟨boss, -, h⟩ := Option.bind_eq_some_iff.1 h
  split at h
  · cases h
  · exact List.mem_of_find?_eq_some h

theorem goalLevels_fits (game : Game) (levels : List Level) :
    DefaultFits (goalLevels game levels).kindLines (goalLevels game levels).kind := by
  refine ⟨_, _, rfl, ?_⟩
  intro name hname
  obtain ⟨⟨episode, i⟩, -, h⟩ := List.mem_filterMap.1 hname
  obtain ⟨level, hlevel, rfl⟩ := Option.map_eq_some_iff.1 h
  exact List.mem_map_of_mem (bossLevel?_mem hlevel)

end StandardOptions

/-- All options that the player of a world is offered, in the order of their source. -/
def World.playerOptions (w : World) : List PlayerOption :=
  standardOptions w.game w.levels ++ w.options.playerOptions

example (w : World) : w.optionsText = optionsSource w.game w.playerOptions := rfl

inductive World.Unfit (w : World) : PlayerOption → Prop
  /-- A goal counts from one level, and there are none. -/
  | goal (h : w.levels = []) : Unfit w (StandardOptions.goalCount w.levels)
  | maxAmmo {name : String} {c : AmmoCapacity} {a : AmmoType}
      (hc : (name, .ammoCapacity c) ∈ w.options) (ha : a ∈ c.ammo) (h : 999 < a.capacity) :
      Unfit w a.maxOption
  | addedAmmo {name : String} {c : AmmoCapacity} {a : AmmoType}
      (hc : (name, .ammoCapacity c) ∈ w.options) (ha : a ∈ c.ammo)
      (h : a.capacity < 0 ∨ 999 < a.capacity) : Unfit w a.addedOption
  /-- The third skill is the default, and it is not offered. -/
  | difficulty {name warning : String} {skills : List (Option Skill)} {o : PlayerOption}
      (hd : (name, .difficulty (.custom warning skills)) ∈ w.options)
      (ho : o ∈ (Difficulty.custom warning skills).options)
      (h : ∀ s, skills[2]? ≠ some (some s)) : Unfit w o

theorem World.Unfit.not_defaultFits (h : w.Unfit o) : ¬ DefaultFits o.kindLines o.kind := by
  cases h with
  | goal h =>
    rw [StandardOptions.goalCount_fits_iff]
    exact fun hsome => hsome h
  | maxAmmo _ _ h =>
    rw [AmmoType.maxOption_fits_iff]
    omega
  | addedAmmo _ _ h =>
    rw [AmmoType.addedOption_fits_iff]
    omega
  | difficulty _ ho h =>
    rw [Difficulty.fits_iff ho, not_exists]
    exact h

/-- Only the count of levels can fail to fit. -/
theorem standardOptions_fit {levels : List Level} (ho : o ∈ standardOptions game levels)
    (hfit : ¬ DefaultFits o.kindLines o.kind) :
    levels = [] ∧ o = StandardOptions.goalCount levels := by
  simp only [standardOptions, List.mem_append, List.mem_cons, List.not_mem_nil, or_false] at ho
  rcases ho with (((rfl | rfl) | ho) | ho) | ho
  · rw [StandardOptions.goalCount_fits_iff, not_not] at hfit
    exact ⟨hfit, rfl⟩
  · exact absurd (StandardOptions.goalLevels_fits game levels) hfit
  · rw [StandardOptions.episodes] at ho
    split at ho
    · obtain ⟨e, -, rfl⟩ := List.mem_map.1 ho
      exact (hfit trivial).elim
    · cases ho
  · split at ho
    · obtain rfl := List.mem_singleton.1 ho
      exact (hfit trivial).elim
    · cases ho
  · split at ho
    · obtain rfl := List.mem_singleton.1 ho
      exact (hfit trivial).elim
    · cases ho

theorem WorldOption.unfit {name : String} (hd : (name, d) ∈ w.options) (ho : o ∈ d.options)
    (hfit : ¬ DefaultFits o.kindLines o.kind) : w.Unfit o := by
  cases d with
  | difficulty d =>
    cases d with
    | preset className =>
      obtain rfl := List.mem_singleton.1 ho
      exact (hfit trivial).elim
    | custom warning skills =>
      rw [Difficulty.fits_iff ho, not_exists] at hfit
      exact .difficulty hd ho hfit
  | startWithMaps m =>
    simp only [options, StartWithMaps.options] at ho
    split at ho <;> obtain rfl := List.mem_singleton.1 ho <;> exact (hfit trivial).elim
  | invisibilityTrap t =>
    simp only [options, InvisibilityTrap.options] at ho
    split at ho <;> obtain rfl := List.mem_singleton.1 ho <;> exact (hfit trivial).elim
  | ammoCapacity c =>
    rcases List.mem_append.1 ho with ho | ho
    · obtain ⟨a, ha, rfl⟩ := List.mem_map.1 ho
      change ¬ DefaultFits a.maxOption.kindLines a.maxOption.kind at hfit
      rw [AmmoType.maxOption_fits_iff] at hfit
      exact .maxAmmo hd ha (by omega)
    · obtain ⟨a, ha, rfl⟩ := List.mem_map.1 ho
      change ¬ DefaultFits a.addedOption.kindLines a.addedOption.kind at hfit
      rw [AmmoType.addedOption_fits_iff] at hfit
      exact .addedAmmo hd ha (by omega)
  | capacityUpgrades u =>
    simp only [options, CapacityUpgrades.options] at ho
    split at ho <;> rcases List.mem_pair.1 ho with rfl | rfl <;> exact (hfit trivial).elim

/-- An option of a world has a default that it may have, with four exceptions. -/
theorem World.defaultFits_iff (ho : o ∈ w.playerOptions) :
    DefaultFits o.kindLines o.kind ↔ ¬ w.Unfit o := by
  constructor
  · intro hfit hunfit
    exact hunfit.not_defaultFits hfit
  · intro hunfit
    by_contra hfit
    apply hunfit
    rcases List.mem_append.1 ho with ho | ho
    · obtain ⟨hnone, rfl⟩ := standardOptions_fit ho hfit
      exact .goal hnone
    · obtain ⟨⟨name, d⟩, hd, ho⟩ := List.mem_flatMap.1 ho
      exact WorldOption.unfit hd ho hfit

/-- No levels, capacities above the most and below nothing, and the first skill only. -/
def arsenalGame : Game where
  shortName := "doom"
  iwad := "DOOM.WAD"
  episodes := [{}]
  filler := [{ type := 2008, name := "Shells", groups := ["Junk"] }]
  worldInfo := {
    worldOptions := [
      .obj [("name", "Custom Ammo Capacity")],
      .obj [("name", "Difficulty"), ("list", .arr [.obj [("full_name", "Too young")]])]] }
  gameInfo := some (.obj [("ammo", .arr [
    .obj [("name", "Bullets"), ("max", .int 200)], .obj [("name", "Shells"), ("max", .int 1000)],
    .obj [("name", "Cells"), ("max", .int (-10))]])])

def arsenalWorld : World := World.ofLevels arsenalGame []

def arsenalNotes : Diagnostics := World.notesOn arsenalGame []

def bullets : AmmoType := ⟨"Bullets", "bullets", 200⟩

def shells : AmmoType := ⟨"Shells", "shells", 1000⟩

def cells : AmmoType := ⟨"Cells", "cells", -10⟩

def novice : Skill where
  fullName := "Too young"
  optionName := "baby"
  description := "Damage taken is halved. Ammo received from pickups is doubled."
  aliases := []

def noviceOnly : List (Option Skill) := [some novice, none, none, none, none]

theorem World.defaultFits_iff_bullets : bullets.maxOption ∈ arsenalWorld.playerOptions ∧
    (DefaultFits bullets.maxOption.kindLines bullets.maxOption.kind ↔
      ¬ arsenalWorld.Unfit bullets.maxOption) := by
  have ho : bullets.maxOption ∈ arsenalWorld.playerOptions := by decide +kernel
  exact ⟨ho, World.defaultFits_iff ho⟩

theorem arsenalGame_compile :
    World.compile arsenalGame ⟨[[]]⟩ = .ok (arsenalWorld, arsenalNotes) := by
  have hl : arsenalGame.levels ⟨[[]]⟩ = .ok [] := rfl
  have hv : violations arsenalGame (Catalog.prepare arsenalGame []).1 = [] := by cbv
  exact World.compile_eq_ok_iff.2 ⟨_, hl, hv, rfl, rfl⟩

theorem arsenal_unfit :
    (∃ report, (generate arsenalGame ⟨[[]]⟩ .accepting [] 1 ⟨2024, 1, 1, 0, 0, 0⟩).run =
      .ok report) ∧
      World.compile arsenalGame ⟨[[]]⟩ = .ok (arsenalWorld, arsenalNotes) ∧
      ∀ name ∈ ["GoalNumLevels", "MaxAmmoShells", "AddedAmmoCells", "Difficulty"],
        ∃ o ∈ arsenalWorld.playerOptions, o.ownClass = some name ∧
          ¬ DefaultFits o.kindLines o.kind := by
  have hskills : ("Difficulty", .difficulty (.custom "" noviceOnly)) ∈ arsenalWorld.options := by
    decide +kernel
  have hammo : ("Custom Ammo Capacity", .ammoCapacity ⟨[bullets, shells, cells]⟩) ∈
      arsenalWorld.options := by decide +kernel
  have hmember {e : String × WorldOption} {o : PlayerOption} (he : e ∈ arsenalWorld.options)
      (ho : o ∈ e.2.options) : o ∈ arsenalWorld.playerOptions :=
    List.mem_append_right _ (List.mem_flatMap.2 ⟨e, he, ho⟩)
  have hunfit {o : PlayerOption} {name : String} (ho : o ∈ arsenalWorld.playerOptions)
      (hname : o.ownClass = some name) (h : arsenalWorld.Unfit o) :
      ∃ o ∈ arsenalWorld.playerOptions, o.ownClass = some name ∧
        ¬ DefaultFits o.kindLines o.kind := ⟨o, ho, hname, h.not_defaultFits⟩
  refine ⟨?_, arsenalGame_compile, ?_⟩
  · rw [generate, arsenalGame_compile]
    exact ⟨_, rfl⟩
  · simp only [List.forall_mem_cons]
    refine ⟨?_, ?_, ?_, ?_, List.forall_mem_nil _⟩
    · exact hunfit List.mem_cons_self (by decide +kernel) (.goal rfl)
    · exact hunfit (hmember hammo (by decide +kernel)) (by decide +kernel)
        (.maxAmmo (a := shells) hammo (by decide) (by decide))
    · exact hunfit (hmember hammo (by decide +kernel)) (by decide +kernel)
        (.addedAmmo (a := cells) hammo (by decide) (by decide))
    · exact hunfit (hmember hskills List.mem_cons_self) (by decide +kernel)
        (.difficulty hskills List.mem_cons_self (by simp [noviceOnly]))

end Worldsmith
