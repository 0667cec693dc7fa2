import Mathlib.Data.List.Induction
import Worldsmith.World.Source

namespace Worldsmith

open Text (indentLines quoted)

variable {options : List PlayerOption} {o : PlayerOption} {group name : String}

/-- A class of one of the modules that the source imports. -/
def IsImported (name : String) : Prop :=
  ∃ rest, name = "BaseOptions." ++ rest ∨ name = "id1Options." ++ rest

/-- A text that begins with the head of a class. -/
def DeclaresClass (text name : String) : Prop := ∃ rest, text = "class " ++ name ++ "(" ++ rest

theorem PlayerOption.baseClass_imported (o : PlayerOption) : IsImported o.baseClass := by
  rw [PlayerOption.baseClass]
  cases o.kind with
  | removed => exact ⟨"Removed", .inl rfl⟩
  | common name => exact ⟨name, .inr rfl⟩
  | toggle =>
    cases o.isOn with
    | true => exact ⟨"DefaultOnToggle", .inl rfl⟩
    | false => exact ⟨"Toggle", .inl rfl⟩
  | choice => exact ⟨"Choice", .inl rfl⟩
  | range => exact ⟨"Range", .inl rfl⟩
  | optionSet => exact ⟨"OptionSet", .inl rfl⟩
  | checkSanity => exact ⟨"CheckSanity", .inr rfl⟩
  | episode =>
    cases o.isMinorEpisode with
    | true =>
      cases o.isOn with
      | true => exact ⟨"MinorDefaultEpisode", .inr rfl⟩
      | false => exact ⟨"MinorEpisode", .inr rfl⟩
    | false =>
      cases o.isOn with
      | true => exact ⟨"DefaultEpisode", .inr rfl⟩
      | false => exact ⟨"Episode", .inr rfl⟩
  | invisibilityTrap => exact ⟨"PartialInvisibilityAsTrap", .inr rfl⟩
  | startWithMaps => exact ⟨"StartWithComputerAreaMaps", .inr rfl⟩
  | capacitySplit =>
    dsimp only
    split
    · exact ⟨"SplitBagOfHolding", .inr rfl⟩
    · exact ⟨"SplitBackpack", .inr rfl⟩
  | capacityCount => exact ⟨"BackpackCount", .inr rfl⟩

theorem indentLines_zero (lines : List String) :
    indentLines 0 lines = String.join (lines.map (· ++ "\n")) := by
  apply congrArg String.join
  apply List.map_congr_left
  intro line _
  split
  · next hempty =>
    rw [String.isEmpty_iff.1 hempty]
    rfl
  · exact congrArg (· ++ "\n") String.empty_append

theorem indentLines_four {lines : List String} (h : ∀ line ∈ lines, line ≠ "") :
    indentLines 4 lines = String.join (lines.map ("    " ++ · ++ "\n")) := by
  apply congrArg String.join
  apply List.map_congr_left
  intro line hline
  rw [if_neg fun hempty => h line hline (String.isEmpty_iff.1 hempty)]
  rfl

theorem PlayerOption.classText_declares (h : o.ownClass = some name) :
    DeclaresClass o.classText name := by
  rw [classText, h]
  simp only [indentLines_zero, List.map_cons, String.join_cons, String.append_assoc]
  exact ⟨_, by simp only [String.append_assoc]; rfl⟩

theorem PlayerOption.className_known (o : PlayerOption) : IsImported o.className ∨
    o.ownClass = some o.className ∧ DeclaresClass o.classText o.className := by
  cases hown : o.ownClass with
  | none =>
    have hbase : o.className = o.baseClass := by rw [className, hown, Option.getD_none]
    exact .inl (hbase ▸ o.baseClass_imported)
  | some name =>
    have hname : o.className = name := by rw [className, hown, Option.getD_some]
    rw [hname]
    exact .inr ⟨rfl, classText_declares hown⟩

/-- The groups in the order in which they first appear. -/
def groupNames (options : List PlayerOption) : List String :=
  (options.filterMap (·.group)).eraseDups

def membersOf (options : List PlayerOption) (group : String) : List PlayerOption :=
  options.filter (·.group = some group)

theorem mem_groupNames : group ∈ groupNames options ↔ ∃ o ∈ options, o.group = some group := by
  rw [groupNames, List.mem_eraseDups, List.mem_filterMap]

theorem eraseDups_concat (l : List String) (s : String) :
    (l ++ [s]).eraseDups = if s ∈ l then l.eraseDups else l.eraseDups ++ [s] := by
  rw [List.eraseDups_append]
  split
  · next hmem =>
    rw [List.removeAll, List.filter_cons_of_neg (by simpa using hmem)]
    exact List.append_nil _
  · next hnew =>
    rw [List.removeAll, List.filter_cons_of_pos (by simpa using hnew)]
    rfl

theorem groupNames_concat_none (h : o.group = none) :
    groupNames (options ++ [o]) = groupNames options := by
  rw [groupNames, List.filterMap_append, List.filterMap_cons_none h, List.filterMap_nil,
    List.append_nil, groupNames]

theorem groupNames_concat_some (h : o.group = some group) : groupNames (options ++ [o]) =
    if group ∈ groupNames options then groupNames options else groupNames options ++ [group] := by
  simp only [groupNames, List.mem_eraseDups]
  rw [List.filterMap_append, List.filterMap_cons_some h, List.filterMap_nil, eraseDups_concat]

theorem groupNames_nodup (options : List PlayerOption) : (groupNames options).Nodup := by
  induction options using List.reverseRecOn with
  | nil => exact .nil
  | append_singleton options o ih =>
    cases hgroup : o.group with
    | none =>
      rw [groupNames_concat_none hgroup]
      exact ih
    | some group =>
      rw [groupNames_concat_some hgroup]
      split
      · exact ih
      · next hnew =>
        apply (List.perm_append_singleton group _).nodup_iff.2
        exact List.nodup_cons.2 ⟨hnew, ih⟩

theorem membersOf_concat_self (h : o.group = some group) :
    membersOf (options ++ [o]) group = membersOf options group ++ [o] := by
  rw [membersOf, List.filter_append, List.filter_cons_of_pos (by simpa using h)]
  rfl

theorem membersOf_concat_of_ne (h : o.group ≠ some group) :
    membersOf (options ++ [o]) group = membersOf options group := by
  rw [membersOf, List.filter_append, List.filter_cons_of_neg (by simpa using h)]
  exact List.append_nil _

theorem membersOf_eq_nil (h : group ∉ groupNames options) : membersOf options group = [] := by
  apply List.filter_eq_nil_iff.2
  intro o ho hgroup
  exact h (mem_groupNames.2 ⟨o, ho, of_decide_eq_true hgroup⟩)

/-- A member is put behind the others of its group, which is a new one at the end if there was
none. -/
theorem addMember_map {names : List String} {member : String} {before after : String → List String}
    (hnodup : names.Nodup) (hself : after group = before group ++ [member])
    (hother : ∀ name, name ≠ group → after name = before name)
    (hempty : group ∉ names → before group = []) :
    addMember group member (names.map fun name => (name, before name)) =
      (if group ∈ names then names else names ++ [group]).map fun name => (name, after name) := by
  induction names with
  | nil =>
    have hmember : after group = [member] := by rw [hself, hempty List.not_mem_nil, List.nil_append]
    rw [if_neg List.not_mem_nil, List.nil_append, List.map_singleton, hmember]
    rfl
  | cons name names ih =>
    obtain ⟨hname, hnodup⟩ := List.nodup_cons.1 hnodup
    rw [List.map_cons, addMember]
    by_cases heq : name = group
    · subst heq
      rw [if_pos rfl, if_pos List.mem_cons_self, List.map_cons, hself]
      apply congrArg (List.cons _)
      apply List.map_congr_left
      intro other hmem
      rw [hother other (ne_of_mem_of_not_mem hmem hname)]
    · have hmem : group ∈ name :: names ↔ group ∈ names := by
        rw [List.mem_cons, or_iff_right (Ne.symm heq)]
      rw [if_neg heq, ih hnodup fun h => hempty (mt hmem.1 h)]
      simp only [hmem]
      split
      · rw [List.map_cons, hother name heq]
      · rw [List.cons_append, List.map_cons, hother name heq]

def groupsOf (options : List PlayerOption) : List (String × List String) :=
  (groupNames options).map fun group => (group, (membersOf options group).map (·.className))

theorem optionGroups_concat (options : List PlayerOption) (o : PlayerOption) :
    optionGroups (options ++ [o]) =
      match o.group with
      | some group => addMember group o.className (optionGroups options)
      | none => optionGroups options := by
  rw [optionGroups, List.foldl_append]
  rfl

theorem optionGroups_eq (options : List PlayerOption) :
    optionGroups options = groupsOf options := by
  induction options using List.reverseRecOn with
  | nil => rfl
  | append_singleton options o ih =>
    rw [optionGroups_concat, ih, groupsOf, groupsOf]
    cases hgroup : o.group with
    | none =>
      rw [groupNames_concat_none hgroup]
      apply List.map_congr_left
      intro name _
      rw [membersOf_concat_of_ne (by simp [hgroup])]
    | some group =>
      rw [groupNames_concat_some hgroup]
      apply addMember_map (groupNames_nodup options)
      · rw [membersOf_concat_self hgroup, List.map_append]
        rfl
      · intro name hne
        rw [membersOf_concat_of_ne (by simp [hgroup, Ne.symm hne])]
      · intro hnew
        rw [membersOf_eq_nil hnew]
        rfl

theorem flatMap_membersOf {names : List String} (hnodup : names.Nodup) :
    (names.flatMap (membersOf options)).Perm
      (options.filter fun o => o.group.any (· ∈ names)) := by
  induction names with
  | nil =>
    have hnone : options.filter (fun o => o.group.any (· ∈ ([] : List String))) = [] := by
      simp
    rw [hnone]
    rfl
  | cons name names ih =>
    obtain ⟨hname, hnodup⟩ := List.nodup_cons.1 hnodup
    have hfirst : (options.filter fun o => o.group.any (· ∈ name :: names)).filter
        (·.group = some name) = membersOf options name := by
      rw [List.filter_filter, membersOf]
      apply List.filter_congr
      intro o _
      cases o.group <;> grind
    have hrest : (options.filter fun o => o.group.any (· ∈ name :: names)).filter
        (fun o => !decide (o.group = some name)) =
          options.filter fun o => o.group.any (· ∈ names) := by
      rw [List.filter_filter]
      apply List.filter_congr
      intro o _
      cases o.group <;> grind
    have hsplit := List.filter_append_perm (fun o => decide (o.group = some name))
      (options.filter fun o => o.group.any (· ∈ name :: names))
    rw [hfirst, hrest] at hsplit
    rw [List.flatMap_cons]
    exact ((ih hnodup).append_left _).trans hsplit

theorem groups_partition (options : List PlayerOption) :
    ((groupNames options).flatMap (membersOf options)).Perm
      (options.filter (·.group.isSome)) := by
  have hgrouped : options.filter (fun o => o.group.any (· ∈ groupNames options)) =
      options.filter (·.group.isSome) := by
    apply List.filter_congr
    intro o ho
    cases hgroup : o.group with
    | none => rfl
    | some group => exact decide_eq_true (mem_groupNames.2 ⟨o, ho, hgroup⟩)
  rw [← hgrouped]
  exact flatMap_membersOf (groupNames_nodup options)

theorem PlayerOption.bindingText_cases (o : PlayerOption) :
    o.bindingText = o.field ++ ": " ++ o.className ∨
      o.bindingText = o.field ++ ": " ++ o.className ++ "  # type: ignore[assignment]" := by
  rw [bindingText]
  split
  · exact .inr rfl
  · exact .inl String.append_empty

theorem PlayerOption.bindingText_ne_empty (o : PlayerOption) : o.bindingText ≠ "" := by
  intro hempty
  have hcolon : ": ".length ≤ o.bindingText.length := by
    rcases o.bindingText_cases with h | h <;> simp only [h, String.length_append] <;> omega
  rw [hempty] at hcolon
  exact absurd hcolon (by decide)

/-- A class that the source uses for a field or as a member of a group. -/
def UsesClass (options : List PlayerOption) (name : String) : Prop :=
  name ∈ options.map (·.className) ∨ ∃ group ∈ optionGroups options, name ∈ group.2

theorem mem_of_usesClass (h : UsesClass options name) : ∃ o ∈ options, o.className = name := by
  rcases h with h | ⟨group, hgroup, h⟩
  · exact List.mem_map.1 h
  · rw [optionGroups_eq] at hgroup
    obtain ⟨g, -, rfl⟩ := List.mem_map.1 hgroup
    obtain ⟨o, ho, rfl⟩ := List.mem_map.1 h
    exact ⟨o, (List.mem_filter.1 ho).1, rfl⟩

/-- The text of some lines. -/
def lineText (lines : List String) : String := String.join (lines.map (· ++ "\n"))

theorem flatMap_groupLines (options : List PlayerOption) :
    (groupsOf options).flatMap groupLines = (groupNames options).flatMap fun group =>
      ["    BaseOptions.OptionGroup(" ++ quoted group ++ ", ["] ++
        (membersOf options group).map (fun o => "        " ++ o.className ++ ",") ++
        ["    ]),"] := by
  simp [groupsOf, List.flatMap_map, groupLines, Function.comp_def]

theorem bindings_eq (options : List PlayerOption) :
    indentLines 4 (options.map (·.bindingText)) =
      lineText (options.map fun o => "    " ++ o.bindingText) := by
  rw [indentLines_four, lineText, List.map_map, List.map_map]
  · rfl
  · rintro _ hline rfl
    obtain ⟨o, -, hempty⟩ := List.mem_map.1 hline
    exact o.bindingText_ne_empty hempty

/-- The imports, the classes, the dataclass with its fields and the list of groups follow each
other. Each class that is used for a field or in a group is imported, or declared among the classes;
each option has its field, and each that is in a group has its place there. -/
theorem optionsSource_closed (game : Game) (options : List PlayerOption) :
    optionsSource game options =
        lineText ["# Options for " ++ game.fullName ++ ".",
          "# This file is generated; edits will be lost the next time the world is built.", "",
          "import typing", "from dataclasses import dataclass", "", "import Options as BaseOptions",
          "from .id1common import options as id1Options", "", ""] ++
        String.join (options.map (·.classText)) ++
        lineText ["@dataclass",
          "class " ++ game.className ++ "Options(id1Options.id1CommonOptions):"] ++
        lineText (if options = [] then ["    pass"]
          else options.map fun o => "    " ++ o.bindingText) ++
        lineText (["", "", "option_groups: typing.List[BaseOptions.OptionGroup] = ["] ++
          (groupNames options).flatMap (fun group =>
            ["    BaseOptions.OptionGroup(" ++ quoted group ++ ", ["] ++
              (membersOf options group).map (fun o => "        " ++ o.className ++ ",") ++
              ["    ]),"]) ++ ["]"]) ∧
      (∀ o : PlayerOption, o.bindingText = o.field ++ ": " ++ o.className ∨
        o.bindingText = o.field ++ ": " ++ o.className ++ "  # type: ignore[assignment]") ∧
      (∀ name, UsesClass options name → IsImported name ∨
        ∃ o ∈ options, o.ownClass = some name ∧ DeclaresClass o.classText name) ∧
      optionGroups options = groupsOf options ∧ (groupNames options).Nodup ∧
      (∀ group, group ∈ groupNames options ↔ ∃ o ∈ options, o.group = some group) ∧
      ((groupNames options).flatMap (membersOf options)).Perm
        (options.filter (·.group.isSome)) := by
  refine ⟨?_, PlayerOption.bindingText_cases, ?_, optionGroups_eq options,
    groupNames_nodup options, fun _ => mem_groupNames, groups_partition options⟩
  · have hfields : (if options.isEmpty then "    pass\n"
        else indentLines 4 (options.map (·.bindingText))) =
        lineText (if options = [] then ["    pass"]
          else options.map fun o => "    " ++ o.bindingText) := by
      simp only [List.isEmpty_iff]
      split
      · rfl
      · exact bindings_eq options
    rw [optionsSource, optionGroups_eq, flatMap_groupLines, hfields]
    simp only [indentLines_zero]
    rfl
  · intro name hname
    obtain ⟨o, ho, rfl⟩ := mem_of_usesClass hname
    exact o.className_known.imp_right fun h => ⟨o, ho, h⟩

/-- Options of two groups, one of which has a class of its own, and one of no group. -/
def chapelOptions : List PlayerOption :=
  [(PlayerOption.new "invisibility_as_trap" "Invisibility as Trap" .toggle).inGroup "Traps",
    PlayerOption.common "pretuning" "Pretuning",
    (PlayerOption.common "goal" "Goal").inGroup "Goal \"Options\"",
    (PlayerOption.common "trap_chance" "TrapChance").inGroup "Traps"]

theorem optionsSource_closed_chapel :
    let game : Game := { shortName := "doom", iwad := "DOOM.WAD", episodes := [] }
    (∃ before, optionsSource game chapelOptions = before ++ lineText ["", "",
      "option_groups: typing.List[BaseOptions.OptionGroup] = [",
      "    BaseOptions.OptionGroup(\"Traps\", [",
      "        InvisibilityAsTrap,",
      "        id1Options.TrapChance,",
      "    ]),",
      "    BaseOptions.OptionGroup(\"Goal \\\"Options\\\"\", [",
      "        id1Options.Goal,",
      "    ]),",
      "]"]) ∧
    (IsImported "InvisibilityAsTrap" ∨ ∃ o ∈ chapelOptions,
      o.ownClass = some "InvisibilityAsTrap" ∧ DeclaresClass o.classText "InvisibilityAsTrap") := by
  intro game
  obtain ⟨htext, -, hknown, -⟩ := optionsSource_closed game chapelOptions
  have hnames : groupNames chapelOptions = ["Traps", "Goal \"Options\""] := rfl
  have htraps : (membersOf chapelOptions "Traps").map (fun o => "        " ++ o.className ++ ",") =
      ["        InvisibilityAsTrap,", "        id1Options.TrapChance,"] := rfl
  have hgoal : (membersOf chapelOptions "Goal \"Options\"").map
      (fun o => "        " ++ o.className ++ ",") = ["        id1Options.Goal,"] := rfl
  rw [hnames, List.flatMap_cons, List.flatMap_cons, htraps, hgoal] at htext
  refine ⟨⟨_, htext⟩, hknown _ (.inl ?_)⟩
  have hclasses : chapelOptions.map (·.className) = ["InvisibilityAsTrap", "id1Options.Pretuning",
      "id1Options.Goal", "id1Options.TrapChance"] := rfl
  rw [hclasses]
  exact List.mem_cons_self

end Worldsmith
