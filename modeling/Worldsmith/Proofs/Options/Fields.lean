import Mathlib.Data.List.Nodup
import Worldsmith.Proofs.Options.Defaults
import Worldsmith.Proofs.Text.Identifier

namespace Worldsmith

open Text (IsIdentifier IsWord)

variable {game : Game} {levels : List Level} {o p : PlayerOption} {d : WorldOption} {s t : String}

inductive Naming
  | field
  | ownClass

namespace Naming

def name? : Naming → PlayerOption → Option String
  | field, o => some o.field
  | ownClass, o => o.ownClass

def form : Naming → String → String
  | field, s => s
  | ownClass, s => Text.className s

/-- The two options have no name in common. -/
def Apart (n : Naming) (o p : PlayerOption) : Prop :=
  ∀ s, n.name? o = some s → ∀ t, n.name? p = some t → s ≠ t

variable {n : Naming}

instance : Std.Symm n.Apart where
  symm _ _ h s hs t ht := (h t ht s hs).symm

theorem nodup_filterMap_iff {l : List PlayerOption} :
    (l.filterMap n.name?).Nodup ↔ l.Pairwise n.Apart := List.pairwise_filterMap

theorem filterMap_field (l : List PlayerOption) :
    l.filterMap field.name? = l.map (·.field) := congrFun List.filterMap_eq_map l

end Naming

/-- If the option has a class of its own, it is named after the field. -/
def PlayerOption.Named (o : PlayerOption) : Prop :=
  o.ownClass = none ∨ o.ownClass = some (Text.className o.field)

namespace PlayerOption.Named

variable {n : Naming}

theorem eq_form (ho : o.Named) (h : n.name? o = some s) : s = n.form o.field := by
  cases n with
  | field => exact (Option.some_inj.1 h).symm
  | ownClass =>
    change o.ownClass = some s at h
    rcases ho with hnone | hname
    · rw [hnone] at h
      cases h
    · rw [hname] at h
      exact (Option.some_inj.1 h).symm

/-- Options are apart if the classes that are named after their fields are. -/
theorem apart (ho : o.Named) (hp : p.Named)
    (h : Text.className o.field ≠ Text.className p.field) : n.Apart o p := by
  intro s hs t ht he
  rw [ho.eq_form hs, hp.eq_form ht] at he
  apply h
  cases n with
  | field => exact congrArg Text.className he
  | ownClass => exact he

end PlayerOption.Named

theorem AmmoType.maxOption_named (a : AmmoType) : a.maxOption.Named := .inr rfl

theorem AmmoType.addedOption_named (a : AmmoType) : a.addedOption.Named := .inr rfl

namespace WorldOption

theorem difficulty_options (c : Difficulty) :
    ∃ o, c.options = [o] ∧ o.field = "difficulty" ∧ o.Named := by
  cases c with
  | preset className => exact ⟨_, rfl, rfl, .inl rfl⟩
  | custom warning skills => exact ⟨_, rfl, rfl, .inr rfl⟩

theorem maps_options (m : StartWithMaps) :
    ∃ o, m.options = [o] ∧ o.field = m.field ∧ o.Named := by
  rw [StartWithMaps.options]
  split
  · exact ⟨_, rfl, rfl, .inl rfl⟩
  · exact ⟨_, rfl, rfl, .inr rfl⟩

theorem trap_options (t : InvisibilityTrap) :
    ∃ o, t.options = [o] ∧ o.field = t.field ∧ o.Named := by
  rw [InvisibilityTrap.options]
  split
  · exact ⟨_, rfl, rfl, .inl rfl⟩
  · exact ⟨_, rfl, rfl, .inr rfl⟩

theorem upgrades_options (u : CapacityUpgrades) : ∃ split count, u.options = [split, count] ∧
    (split.field = u.splitField ∧ split.Named) ∧ count.field = u.countField ∧ count.Named := by
  rw [CapacityUpgrades.options]
  split
  · exact ⟨_, _, rfl, ⟨rfl, .inl rfl⟩, rfl, .inl rfl⟩
  · exact ⟨_, _, rfl, ⟨rfl, .inr rfl⟩, rfl, .inr rfl⟩

theorem named (ho : o ∈ d.options) : o.Named := by
  cases d with
  | difficulty c =>
    obtain ⟨o', hoptions, -, hnamed⟩ := difficulty_options c
    rw [options, hoptions] at ho
    exact List.mem_singleton.1 ho ▸ hnamed
  | startWithMaps m =>
    obtain ⟨o', hoptions, -, hnamed⟩ := maps_options m
    rw [options, hoptions] at ho
    exact List.mem_singleton.1 ho ▸ hnamed
  | invisibilityTrap t =>
    obtain ⟨o', hoptions, -, hnamed⟩ := trap_options t
    rw [options, hoptions] at ho
    exact List.mem_singleton.1 ho ▸ hnamed
  | ammoCapacity c =>
    rcases List.mem_append.1 ho with ho | ho
    · obtain ⟨a, -, rfl⟩ := List.mem_map.1 ho
      exact a.maxOption_named
    · obtain ⟨a, -, rfl⟩ := List.mem_map.1 ho
      exact a.addedOption_named
  | capacityUpgrades u =>
    obtain ⟨split, count, hoptions, ⟨-, hsplit⟩, -, hcount⟩ := upgrades_options u
    rw [options, hoptions] at ho
    rcases List.mem_pair.1 ho with rfl | rfl
    · exact hsplit
    · exact hcount

end WorldOption

def heads : List String :=
  ["goal_", "episode", "flip_levels", "check_sanity", "difficulty", "start_with_", "max_ammo_",
    "added_ammo_", "split_"]

def Headed (ps : List String) (o : PlayerOption) : Prop :=
  ∃ p ∈ ps, p ∈ heads ∧ ∃ rest, IsWord rest ∧ o.field = p ++ rest

namespace Headed

variable {ps qs : List String}

theorem mono (h : Headed ps o) (hsub : ps ⊆ qs) : Headed qs o := by
  obtain ⟨p, hp, hfield⟩ := h
  exact ⟨p, hsub hp, hfield⟩

theorem front_mem (h : Headed ps o) : ∃ p ∈ ps, p ∈ heads ∧ Text.front o.field = Text.front p := by
  obtain ⟨p, hp, hhead, rest, -, hfield⟩ := h
  have hlength : ∀ p ∈ heads, (Text.front p).length = 2 := by decide
  exact ⟨p, hp, hhead, hfield ▸ Text.front_append (hlength p hhead) rest⟩

theorem className_ne (ho : Headed ps o) (hp : Headed qs p) (hdisjoint : ∀ p ∈ ps, p ∉ qs) :
    Text.className o.field ≠ Text.className p.field := by
  obtain ⟨x, hx, hhead, hfront⟩ := ho.front_mem
  obtain ⟨y, hy, hhead', hfront'⟩ := hp.front_mem
  have hinj : (heads.map Text.front).Nodup := by decide
  apply Text.className_ne_of_front
  rw [hfront, hfront']
  intro he
  have hxy := List.inj_on_of_nodup_map hinj hhead hhead' he
  exact hdisjoint x hx (hxy ▸ hy)

theorem isWord (h : Headed ps o) : IsWord o.field := by
  obtain ⟨p, -, hhead, rest, hrest, hfield⟩ := h
  have hheads : ∀ p ∈ heads, p.toList.all Text.isWordChar = true := by decide +kernel
  rw [hfield]
  exact .append (List.all_eq_true.1 (hheads p hhead)) hrest

theorem isIdentifier (h : Headed ps o) :
    IsIdentifier o.field ∧ IsIdentifier (Text.className o.field) := by
  have hheads : ∀ p ∈ heads, (Text.front p).head?.any (!·.isDigit) = true := by decide
  obtain ⟨p, -, hhead, hfront⟩ := h.front_mem
  apply Text.isIdentifier_of_front h.isWord
  rw [hfront]
  exact hheads p hhead

end Headed

/-- The field begins with one of these, and does not end as that of a trap or a count does. -/
structure Plain (ps : List String) (o : PlayerOption) : Prop where
  named : o.Named
  headed : Headed ps o
  back : Text.back o.field ∉ [some 'p', some 't']

namespace Plain

variable {ps qs : List String}

theorem mono (h : Plain ps o) (hsub : ps ⊆ qs) : Plain qs o :=
  ⟨h.named, h.headed.mono hsub, h.back⟩

theorem apart {n : Naming} (ho : Plain ps o) (hp : Plain qs p) (hdisjoint : ∀ p ∈ ps, p ∉ qs) :
    n.Apart o p :=
  ho.named.apart hp.named (ho.headed.className_ne hp.headed hdisjoint)

theorem of_field (before rest : String) (hnamed : o.Named) (hfield : o.field = before ++ rest)
    (hbefore : before ∈ heads) (hrest : rest.toList.all Text.isWordChar = true)
    (hback : Text.back (before ++ rest) ∉ [some 'p', some 't']) : Plain [before] o :=
  ⟨hnamed, ⟨before, List.mem_singleton.2 rfl, hbefore, rest, List.all_eq_true.1 hrest, hfield⟩,
    hfield ▸ hback⟩

end Plain

namespace StandardOptions

theorem plain_goals (game : Game) (levels : List Level) :
    ∀ o ∈ [goalCount levels, goalLevels game levels], Plain ["goal_"] o := by
  simp only [List.forall_mem_cons]
  refine ⟨?_, ?_, List.forall_mem_nil _⟩
  · exact .of_field "goal_" "num_levels" (.inr rfl) rfl (by decide) (by decide) (by decide)
  · exact .of_field "goal_" "specific_levels" (.inr rfl) rfl (by decide) (by decide) (by decide)

theorem goals_apart (n : Naming) (game : Game) (levels : List Level) :
    [goalCount levels, goalLevels game levels].Pairwise n.Apart := by
  rw [List.pairwise_pair]
  apply PlayerOption.Named.apart (.inr rfl) (.inr rfl)
  change Text.className "goal_num_levels" ≠ Text.className "goal_specific_levels"
  decide

theorem className_episode (n : Nat) :
    Text.className ("episode" ++ Nat.repr n) = "Episode" ++ Nat.repr n := by
  have hdigits : Text.classChars false (Nat.repr n).toList = (Nat.repr n).toList :=
    Text.classChars_digits fun _ hc => Text.isDigit_of_mem_repr hc
  rw [Text.className, String.toList_append]
  change String.ofList ("Episode".toList ++ Text.classChars false (Nat.repr n).toList) = _
  rw [hdigits, String.ofList_append, String.ofList_toList, String.ofList_toList]

theorem plain_episode (levels : List Level) (episode : Episode) (i : Nat) :
    Plain ["episode"] (episodeOption levels episode i) := by
  have hheaded : Headed ["episode"] (episodeOption levels episode i) :=
    ⟨_, List.mem_singleton.2 rfl, by decide, _, Text.isWord_repr (i + 1), rfl⟩
  refine ⟨.inr rfl, hheaded, ?_⟩
  change Text.back ("episode" ++ Nat.repr (i + 1)) ∉ _
  rw [Text.back, className_episode, String.toList_append, List.getLast?_append]
  cases hlast : (Nat.repr (i + 1)).toList.getLast? with
  | none => decide
  | some c =>
    have hdigit := Text.isDigit_of_mem_repr (List.mem_of_getLast? hlast)
    simp only [Option.some_or, List.mem_cons, Option.some_inj, List.not_mem_nil, or_false]
    rintro (rfl | rfl) <;> exact absurd hdigit (by decide)

theorem plain_episodes (game : Game) (levels : List Level) :
    ∀ o ∈ episodes game levels, Plain ["episode"] o := by
  intro o ho
  rw [episodes] at ho
  split at ho
  · obtain ⟨⟨episode, i⟩, -, rfl⟩ := List.mem_map.1 ho
    exact plain_episode levels episode i
  · cases ho

theorem episodes_apart (n : Naming) (game : Game) (levels : List Level) :
    (episodes game levels).Pairwise n.Apart := by
  rw [episodes]
  split
  · have hindices : game.episodes.zipIdx.Pairwise fun x y => x.2 ≠ y.2 := by
      rw [← List.pairwise_map, List.zipIdx_map_snd]
      exact List.nodup_range'
    rw [List.pairwise_map]
    apply hindices.imp
    intro x y hxy
    apply PlayerOption.Named.apart (.inr rfl) (.inr rfl)
    change Text.className ("episode" ++ Nat.repr (x.2 + 1)) ≠
      Text.className ("episode" ++ Nat.repr (y.2 + 1))
    rw [className_episode, className_episode]
    intro he
    have hn := Nat.repr_injective ((String.append_right_inj _).1 he)
    omega
  · exact List.Pairwise.nil

theorem plain_flip : Plain ["flip_levels"] (.bound "flip_levels" .removed) :=
  .of_field "flip_levels" "" (.inl rfl) rfl (by decide) rfl (by decide)

theorem plain_sanity : Plain ["check_sanity"] (.bound "check_sanity" .checkSanity) :=
  .of_field "check_sanity" "" (.inl rfl) rfl (by decide) rfl (by decide)

theorem mem_optional {c : Bool} (h : o ∈ if c then [p] else []) : o = p := by
  cases c with
  | true => exact List.mem_singleton.1 h
  | false => cases h

theorem optional_apart (n : Naming) (c : Bool) :
    (if c then [o] else []).Pairwise n.Apart := by
  cases c with
  | true => exact List.pairwise_singleton _ _
  | false => exact List.Pairwise.nil

def standardHeads : List String := ["goal_", "episode", "flip_levels", "check_sanity"]

end StandardOptions

open StandardOptions

theorem plain_goal_or_episode
    (ho : o ∈ [goalCount levels, goalLevels game levels] ++ episodes game levels) :
    Plain ["goal_", "episode"] o := by
  rcases List.mem_append.1 ho with ho | ho
  · exact (plain_goals game levels o ho).mono (by decide)
  · exact (plain_episodes game levels o ho).mono (by decide)

theorem standardOptions_plain (ho : o ∈ standardOptions game levels) : Plain standardHeads o := by
  rcases List.mem_append.1 ho with ho | ho
  · rcases List.mem_append.1 ho with ho | ho
    · exact (plain_goal_or_episode ho).mono (by decide)
    · exact mem_optional ho ▸ plain_flip.mono (by decide)
  · exact mem_optional ho ▸ plain_sanity.mono (by decide)

theorem standardOptions_apart (n : Naming) (game : Game) (levels : List Level) :
    (standardOptions game levels).Pairwise n.Apart := by
  rw [standardOptions, List.pairwise_append, List.pairwise_append, List.pairwise_append]
  refine ⟨⟨⟨goals_apart n game levels, episodes_apart n game levels, ?_⟩, optional_apart n _, ?_⟩,
    optional_apart n _, ?_⟩
  · intro o ho p hp
    exact (plain_goals game levels o ho).apart (plain_episodes game levels p hp) (by decide)
  · intro o ho p hp
    obtain rfl := mem_optional hp
    exact (plain_goal_or_episode ho).apart plain_flip (by decide)
  · intro o ho p hp
    obtain rfl := mem_optional hp
    rcases List.mem_append.1 ho with ho | ho
    · exact (plain_goal_or_episode ho).apart plain_sanity (by decide)
    · obtain rfl := mem_optional ho
      exact plain_flip.apart plain_sanity (by decide)

end Worldsmith
