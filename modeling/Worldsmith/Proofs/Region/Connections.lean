import Worldsmith.Proofs.Region.Graph

namespace Worldsmith

variable {game : Game} {level : String} {code : Int} {codes : List Int} {name target : String}
  {options items : List String} {fault : ConnectionFault} {c : Connection} {doc : ConnectionDoc}

namespace Game

/-- The name of the option or the item that a code stands for. Unique items and keys are found
before the items that are the same for all levels. -/
inductive StandsFor (game : Game) (level : String) (code : Int) : String → Prop
  | option {t : ItemTemplate} (hc : code < 0)
    (ht : game.extraRequirements.find? (·.type == code) = some t) : StandsFor game level code t.name
  | unique {t : ItemTemplate} (hc : 0 ≤ code)
    (ht : game.uniqueProgression.find? (·.type == code) = some t) :
    StandsFor game level code (level ++ " - " ++ t.name)
  | key {k : KeyTemplate} (hc : 0 ≤ code)
    (hu : game.uniqueProgression.find? (·.type == code) = none)
    (hk : game.keys.find? (·.item.type == code) = some k) :
    StandsFor game level code (level ++ " - " ++ k.item.name)
  | common {t : ItemTemplate} (hc : 0 ≤ code)
    (hu : game.uniqueProgression.find? (·.type == code) = none)
    (hk : game.keys.find? (·.item.type == code) = none)
    (ht : (game.extraRequirements ++ game.progression).find? (·.type == code) = some t) :
    StandsFor game level code t.name

def FirstUnknown (game : Game) (level : String) (codes : List Int) (code : Int) : Prop :=
  ∃ before after, codes = before ++ code :: after ∧
    (∀ b ∈ before, ∃ name, game.StandsFor level b name) ∧ ∀ name, ¬ game.StandsFor level code name

theorem requiredOption_eq_ok_iff (hc : code < 0) :
    game.requiredOption level code = .ok name ↔ game.StandsFor level code name := by
  rw [requiredOption]
  constructor
  · intro h
    split at h
    · next t ht =>
      cases h
      exact .option hc ht
    · cases h
  · intro h
    cases h with
    | option _ ht => rw [ht]
    | unique hc' => exact absurd hc (Int.not_lt.2 hc')
    | key hc' => exact absurd hc (Int.not_lt.2 hc')
    | common hc' => exact absurd hc (Int.not_lt.2 hc')

theorem find?_requirable (hu : game.uniqueProgression.find? (·.type == code) = none)
    (hk : game.keys.find? (·.item.type == code) = none) :
    game.requirable.find? (·.type == code) =
      (game.extraRequirements ++ game.progression).find? (·.type == code) := by
  have hkeys : (game.keys.map (·.item)).find? (·.type == code) = none := by
    rw [List.find?_map]
    exact congrArg (Option.map (·.item)) hk
  rw [requirable, List.find?_append, hkeys, Option.or_none, List.find?_append, hu, Option.or_none]

theorem requiredItem_eq_ok_iff (hc : 0 ≤ code) :
    game.requiredItem level code = .ok name ↔ game.StandsFor level code name := by
  rw [requiredItem]
  constructor
  · intro h
    split at h
    · next t ht =>
      cases h
      exact .unique hc ht
    · next hu =>
      split at h
      · next k hk =>
        cases h
        exact .key hc hu hk
      · next hk =>
        split at h
        · next t ht =>
          cases h
          exact .common hc hu hk (find?_requirable hu hk ▸ ht)
        · cases h
  · intro h
    cases h with
    | option hc' => exact absurd hc' (Int.not_lt.2 hc)
    | unique _ ht => rw [ht]
    | key _ hu hk => rw [hu, keyOf?, hk]
    | common _ hu hk ht => rw [hu, keyOf?, hk, find?_requirable hu hk, ht]

theorem resolvable_iff : game.Resolvable level code ↔ ∃ name, game.StandsFor level code name := by
  rcases Int.lt_or_le code 0 with hc | hc
  · simp [Resolvable, hc, Int.not_le.2 hc, requiredOption_eq_ok_iff]
  · simp [Resolvable, hc, Int.not_lt.2 hc, requiredItem_eq_ok_iff]

theorem exists_firstUnknown (h : ¬ ∀ code ∈ codes, ∃ name, game.StandsFor level code name) :
    ∃ code, game.FirstUnknown level codes code := by
  induction codes with
  | nil => exact absurd (by simp) h
  | cons code codes ih =>
    by_cases hcode : ∃ name, game.StandsFor level code name
    · have hrest : ¬ ∀ code ∈ codes, ∃ name, game.StandsFor level code name :=
        fun hrest => h (List.forall_mem_cons.2 ⟨hcode, hrest⟩)
      obtain ⟨unknown, before, after, rfl, hbefore, hunknown⟩ := ih hrest
      exact ⟨unknown, code :: before, after, rfl, List.forall_mem_cons.2 ⟨hcode, hbefore⟩, hunknown⟩
    · exact ⟨code, [], codes, rfl, by simp, not_exists.1 hcode⟩

theorem FirstUnknown.of_append {left right : List Int}
    (h : game.FirstUnknown level (left ++ right) code) :
    game.FirstUnknown level left code ∨
      (∀ b ∈ left, ∃ name, game.StandsFor level b name) ∧
        game.FirstUnknown level right code := by
  obtain ⟨before, after, heq, hbefore, hcode⟩ := h
  rcases List.append_eq_append_iff.1 heq with ⟨more, rfl, hright⟩ | ⟨more, hleft, hafter⟩
  · rw [List.forall_mem_append] at hbefore
    exact .inr ⟨hbefore.1, more, after, hright, hbefore.2, hcode⟩
  · cases more with
    | nil =>
      rw [List.append_nil] at hleft
      exact .inr ⟨hleft ▸ hbefore, [], after, hafter.symm, by simp, hcode⟩
    | cons x more =>
      cases hafter
      exact .inl ⟨before, more, hleft, hbefore, hcode⟩

def codeFault (level : String) (code : Int) : ConnectionFault :=
  if code < 0 then .option level code else .requirement level code

theorem codeFault_message (level : String) (code : Int) :
    (codeFault level code).message = level ++
      (if code < 0 then ": no option requirement matches type "
        else ": no item matches requirement type ") ++ toString code := by
  rw [codeFault]
  split <;> rfl

theorem requiredOption_of_unknown (hc : code < 0) (h : ∀ name, ¬ game.StandsFor level code name) :
    game.requiredOption level code = .error (codeFault level code) := by
  cases ho : game.requiredOption level code with
  | ok name => exact absurd ((requiredOption_eq_ok_iff hc).1 ho) (h name)
  | error fault =>
    rw [requiredOption] at ho
    split at ho
    · cases ho
    · cases ho
      rw [codeFault, if_pos hc]

theorem requiredItem_of_unknown (hc : 0 ≤ code) (h : ∀ name, ¬ game.StandsFor level code name) :
    game.requiredItem level code = .error (codeFault level code) := by
  cases hi : game.requiredItem level code with
  | ok name => exact absurd ((requiredItem_eq_ok_iff hc).1 hi) (h name)
  | error fault =>
    rw [requiredItem] at hi
    split at hi
    · cases hi
    · split at hi
      · cases hi
      · split at hi
        · cases hi
        · cases hi
          rw [codeFault, if_neg (Int.not_lt.2 hc)]

/-- Resolving ends at the first code that stands for nothing. -/
theorem resolveCodes_of_firstUnknown (h : game.FirstUnknown level codes code) :
    game.resolveCodes level codes = .error (codeFault level code) := by
  obtain ⟨before, after, rfl, hbefore, hcode⟩ := h
  induction before with
  | nil =>
    rw [List.nil_append, resolveCodes]
    rcases Int.lt_or_le code 0 with hc | hc
    · rw [if_pos hc, requiredOption_of_unknown hc hcode]
      rfl
    · rw [if_neg (Int.not_lt.2 hc), requiredItem_of_unknown hc hcode]
      rfl
  | cons b before ih =>
    obtain ⟨⟨name, hname⟩, hbefore⟩ := List.forall_mem_cons.1 hbefore
    rw [List.cons_append, resolveCodes, ih hbefore]
    rcases Int.lt_or_le b 0 with hc | hc
    · rw [if_pos hc, (requiredOption_eq_ok_iff hc).2 hname]
      rfl
    · rw [if_neg (Int.not_lt.2 hc), (requiredItem_eq_ok_iff hc).2 hname]
      rfl

theorem resolves_of_known (h : ∀ code ∈ codes, ∃ name, game.StandsFor level code name) :
    ∃ options items, Resolves game level codes options items :=
  exists_resolves fun code hc => resolvable_iff.2 (h code hc)

theorem Resolves.forall₂_options (h : Resolves game level codes options items) :
    List.Forall₂ (game.StandsFor level) (codes.filter (· < 0)) options := by
  induction h with
  | nil => exact .nil
  | option hc hn _ ih =>
    rw [List.filter_cons_of_pos (by simpa using hc)]
    exact .cons ((requiredOption_eq_ok_iff hc).1 hn) ih
  | item hc _ _ ih =>
    rw [List.filter_cons_of_neg (by simpa using hc)]
    exact ih

theorem Resolves.forall₂_items (h : Resolves game level codes options items) :
    List.Forall₂ (game.StandsFor level) (codes.filter (0 ≤ ·)) items := by
  induction h with
  | nil => exact .nil
  | option hc _ _ ih =>
    rw [List.filter_cons_of_neg (by simpa using hc)]
    exact ih
  | item hc hn _ ih =>
    rw [List.filter_cons_of_pos (by simpa using hc)]
    exact .cons ((requiredItem_eq_ok_iff hc).1 hn) ih

theorem Resolves.length (h : Resolves game level codes options items) :
    options.length + items.length = codes.length := by
  induction h with
  | nil => rfl
  | option _ _ _ ih =>
    rw [List.length_cons, List.length_cons]
    omega
  | item _ _ _ ih =>
    rw [List.length_cons, List.length_cons]
    omega

structure Spells (game : Game) (level : String) (c : Connection) (doc : ConnectionDoc) : Prop where
  requires : List.Forall₂ (game.StandsFor level)
    ((c.requirementsAnd ++ c.requirementsOr).filter (· < 0)) doc.requires
  rules_nil_iff : doc.rules = [] ↔ ∀ code ∈ c.requirementsAnd ++ c.requirementsOr, code < 0
  rules : doc.rules ≠ [] → ∃ group, doc.rules = [group] ∧
    List.Forall₂ (game.StandsFor level) (c.requirementsAnd.filter (0 ≤ ·)) group.all ∧
    List.Forall₂ (game.StandsFor level) (c.requirementsOr.filter (0 ≤ ·)) group.any
  length : doc.requires.length + (doc.rules.flatMap fun g => g.all ++ g.any).length =
    c.requirementsAnd.length + c.requirementsOr.length

theorem filter_nonneg_eq_nil_iff : codes.filter (0 ≤ ·) = [] ↔ ∀ code ∈ codes, code < 0 := by
  simp [List.filter_eq_nil_iff]

theorem Resolves.items_eq_nil_iff (h : Resolves game level codes options items) :
    items = [] ↔ ∀ code ∈ codes, code < 0 := by
  rw [← filter_nonneg_eq_nil_iff, ← List.length_eq_zero_iff, ← List.length_eq_zero_iff,
    h.forall₂_items.length_eq]

theorem connectionDoc_spells (h : game.connectionDoc c level target = .ok doc) :
    game.Spells level c doc := by
  obtain ⟨⟨optionsAnd, all⟩, hand, h⟩ := exists_ok_of_bind h
  obtain ⟨⟨optionsOr, any⟩, hor, h⟩ := exists_ok_of_bind h
  cases h
  have hand := resolves_of_resolveCodes hand
  have hor := resolves_of_resolveCodes hor
  have hempty : (RuleGroup.mk all any).isEmpty = true ↔
      ∀ code ∈ c.requirementsAnd ++ c.requirementsOr, code < 0 := by
    rw [List.forall_mem_append, ← hand.items_eq_nil_iff, ← hor.items_eq_nil_iff,
      RuleGroup.isEmpty_iff]
  constructor
  case requires =>
    rw [List.filter_append]
    exact List.rel_append hand.forall₂_options hor.forall₂_options
  case rules_nil_iff =>
    rw [← hempty]
    simp
  case rules =>
    intro hrules
    refine ⟨⟨all, any⟩, ?_, hand.forall₂_items, hor.forall₂_items⟩
    exact if_neg fun he => hrules (if_pos he)
  case length =>
    have hlenAnd := hand.length
    have hlenOr := hor.length
    have hitems : ((if (RuleGroup.mk all any).isEmpty then [] else [RuleGroup.mk all any]).flatMap
        fun g => g.all ++ g.any) = all ++ any := by
      split
      · next he =>
        obtain ⟨rfl, rfl⟩ := RuleGroup.isEmpty_iff.1 he
        rfl
      · exact List.flatMap_singleton _ _
    dsimp only
    rw [hitems, List.length_append, List.length_append]
    omega

/-- The codes of a connection's first list come before those of its second one. -/
theorem connectionDoc_of_firstUnknown (target : String)
    (h : game.FirstUnknown level (c.requirementsAnd ++ c.requirementsOr) code) :
    game.connectionDoc c level target = .error (codeFault level code) := by
  rw [connectionDoc]
  rcases h.of_append with hand | ⟨hand, hor⟩
  · rw [resolveCodes_of_firstUnknown hand]
    rfl
  · obtain ⟨options, items, hresolves⟩ := resolves_of_known hand
    rw [hresolves.resolveCodes, resolveCodes_of_firstUnknown hor]
    rfl

end Game

namespace Level

variable {level : Level} {place : Place}

/-- What is said of a target that stands for no region. -/
inductive Misses (level : Level) : Target → String → Prop
  | region {i : Nat} (hi : level.data.rules.regions.length ≤ i) : level.Misses (.region i)
      (level.name ++ ": connection targets missing region #" ++ toString i)
  | unknown (code : Int) : level.Misses (.unknown code)
      (level.name ++ ": connection has unknown target code " ++ toString code)

/-- What becomes of a connection: a document if it has one, and what is noted. -/
structure Files (game : Game) (level : Level) (c : Connection)
    (out : Option ConnectionDoc × Diagnostics) : Prop where
  written_iff : (∃ doc, out.1 = some doc) ↔
    c.target ≠ .levelExit ∧ (∃ place, level.Leads c.target place) ∧
      ∀ code ∈ c.requirementsAnd ++ c.requirementsOr, ∃ name, game.StandsFor level.name code name
  written : ∀ doc, out.1 = some doc → out.2 = [] ∧ game.Spells level.name c doc ∧
    ∃ place, level.Leads c.target place ∧ doc.target = place.name
  exit : c.target = .levelExit → out = (none, [])
  missing : ∀ text, level.Misses c.target text → out = (none, [⟨.unresolvedConnection, text⟩])
  unknown : ∀ place code, level.Leads c.target place →
    game.FirstUnknown level.name (c.requirementsAnd ++ c.requirementsOr) code →
      out = (none, [⟨.unresolvedConnection, level.name ++
        (if code < 0 then ": no option requirement matches type "
          else ": no item matches requirement type ") ++ toString code⟩])

theorem filed_of_exit (h : c.target = .levelExit) : level.filed game c = (none, []) := by
  rw [filed, connectionDoc?, h]
  rfl

theorem filed_of_misses {text : String} (h : level.Misses c.target text) :
    level.filed game c = (none, [⟨.unresolvedConnection, text⟩]) := by
  obtain ⟨fault, hd, rfl⟩ :
      ∃ fault, level.destination? c.target = .error fault ∧ fault.message = text := by
    generalize c.target = target at h
    cases h with
    | @region i hi =>
      refine ⟨.region level.name i, ?_, rfl⟩
      rw [destination?, List.getElem?_eq_none hi]
    | unknown code => exact ⟨.target level.name code, rfl, rfl⟩
  rw [filed, connectionDoc?, hd]
  rfl

theorem connectionDoc?_of_leads (h : level.Leads c.target place) :
    level.connectionDoc? game c = (game.connectionDoc c level.name place.name).map some := by
  rw [connectionDoc?, destination?_eq_some_iff.2 ⟨place, h, rfl⟩]
  rfl

theorem filed_of_firstUnknown (h : level.Leads c.target place)
    (hc : game.FirstUnknown level.name (c.requirementsAnd ++ c.requirementsOr) code) :
    level.filed game c = (none, [⟨.unresolvedConnection, level.name ++
      (if code < 0 then ": no option requirement matches type "
        else ": no item matches requirement type ") ++ toString code⟩]) := by
  rw [filed, connectionDoc?_of_leads h, Game.connectionDoc_of_firstUnknown place.name hc,
    ← Game.codeFault_message]
  rfl

theorem filed_of_known (h : level.Leads c.target place)
    (hc : ∀ code ∈ c.requirementsAnd ++ c.requirementsOr,
      ∃ name, game.StandsFor level.name code name) :
    ∃ doc, level.filed game c = (some doc, []) ∧ game.Spells level.name c doc ∧
      doc.target = place.name := by
  obtain ⟨doc, hdoc⟩ := Game.exists_connectionDoc place.name fun code hm =>
    Game.resolvable_iff.2 (hc code hm)
  refine ⟨doc, ?_, Game.connectionDoc_spells hdoc, Game.connectionDoc_target hdoc⟩
  rw [filed, connectionDoc?_of_leads h, hdoc]
  rfl

theorem target_cases (level : Level) (target : Target) :
    target = .levelExit ∨ (∃ text, level.Misses target text) ∨
      ∃ place, level.Leads target place := by
  cases target with
  | levelExit => exact .inl rfl
  | hubEntrance => exact .inr (.inr ⟨_, .entrance⟩)
  | unknown code => exact .inr (.inl ⟨_, .unknown code⟩)
  | region i =>
    rcases Nat.lt_or_ge i level.data.rules.regions.length with hi | hi
    · exact .inr (.inr ⟨_, .region ⟨i, hi⟩⟩)
    · exact .inr (.inl ⟨_, .region hi⟩)

theorem Leads.ne_exit {target : Target} (h : level.Leads target place) : target ≠ .levelExit := by
  cases h <;> exact nofun

theorem filed_eq_some_iff : (∃ doc, (level.filed game c).1 = some doc) ↔
    ∃ place, level.Leads c.target place ∧ ∀ code ∈ c.requirementsAnd ++ c.requirementsOr,
      ∃ name, game.StandsFor level.name code name := by
  constructor
  · rintro ⟨doc, hdoc⟩
    rcases level.target_cases c.target with hexit | ⟨text, hm⟩ | ⟨place, hl⟩
    · rw [filed_of_exit hexit] at hdoc
      cases hdoc
    · rw [filed_of_misses hm] at hdoc
      cases hdoc
    · refine ⟨place, hl, ?_⟩
      by_contra hunknown
      obtain ⟨code, hcode⟩ := Game.exists_firstUnknown hunknown
      rw [filed_of_firstUnknown hl hcode] at hdoc
      cases hdoc
  · rintro ⟨place, hl, hk⟩
    obtain ⟨doc, hdoc, -⟩ := filed_of_known hl hk
    exact ⟨doc, congrArg Prod.fst hdoc⟩

theorem files_filed (game : Game) (level : Level) (c : Connection) :
    level.Files game c (level.filed game c) where
  written_iff := by
    rw [filed_eq_some_iff]
    constructor
    · rintro ⟨place, hl, hk⟩
      exact ⟨hl.ne_exit, ⟨place, hl⟩, hk⟩
    · rintro ⟨-, ⟨place, hl⟩, hk⟩
      exact ⟨place, hl, hk⟩
  written doc hdoc := by
    obtain ⟨place, hl, hk⟩ := filed_eq_some_iff.1 ⟨doc, hdoc⟩
    obtain ⟨made, hmade, hspells, htarget⟩ := filed_of_known hl hk
    rw [hmade] at hdoc
    cases hdoc
    exact ⟨congrArg Prod.snd hmade, hspells, place, hl, htarget⟩
  exit := filed_of_exit
  missing _ := filed_of_misses
  unknown _ _ := filed_of_firstUnknown

structure Describes (game : Game) (level : Level) (node : String × List Connection)
    (out : RegionDoc × Diagnostics) : Prop where
  name : out.1.name = node.1
  index : out.1.level = some level.index
  filed : ∃ outs, List.Forall₂ (level.Files game) node.2 outs ∧
    out.1.connections = outs.filterMap (·.1) ∧ out.2 = outs.flatMap (·.2)

theorem regionDocs_describes (game : Game) (level : Level) :
    List.Forall₂ (level.Describes game) level.nodes (level.regionDocs game) := by
  refine List.forall₂_map_right_iff.2 (List.forall₂_same.2 fun ⟨name, cs⟩ _ => ?_)
  have hfiled := connectionDocs_eq game level cs
  have hfiles : List.Forall₂ (level.Files game) cs (cs.map (level.filed game)) :=
    List.forall₂_map_right_iff.2 (List.forall₂_same.2 fun c _ => files_filed game level c)
  exact ⟨rfl, rfl, _, hfiles, congrArg Prod.fst hfiled, congrArg Prod.snd hfiled⟩

end Level

/-- Every authored connection has a document, a note or neither, where it stands among the others. -/
theorem regionDocs_file_connections (game : Game) (levels : List Level) :
    ∃ outs : List (List (RegionDoc × Diagnostics)),
      List.Forall₂ (fun level => List.Forall₂ (level.Describes game)
        ((entranceName level.name, level.data.rules.entrance) ::
          level.data.rules.regions.map fun r => (regionName level.name r.name, r.connections)))
        levels outs ∧
      (regionDocs game levels).1 = hubDoc levels :: outs.flatten.map (·.1) ∧
      (regionDocs game levels).2 = outs.flatten.flatMap (·.2) := by
  refine ⟨levels.map (·.regionDocs game), ?_, rfl, rfl⟩
  exact List.forall₂_map_right_iff.2 (List.forall₂_same.2 fun level _ =>
    level.regionDocs_describes game)

/-- One connection with a document among those without: to no region, by no known code, and to the
exit, of which nothing is noted. -/
def ruinMap : LevelData where
  rules := {
    regions := [
      { name := "Start"
        connections := [
          { target := .region 7 },
          { target := .region 0, requirementsAnd := [5], requirementsOr := [-100, 2001] },
          { target := .levelExit, requirementsAnd := [99] },
          { target := .region 0, requirementsAnd := [2001], requirementsOr := [-3, 99] }] }]
    entrance := [
      { target := .unknown (-9) },
      { target := .region 0, requirementsAnd := [99, -3] }] }

def ruinLevel : Level := MapInfo.level ⟨"Hangar", "E1M1"⟩ ⟨0, 0⟩ ruinMap

theorem regionDocs_file_connections_ruin :
    (∃ outs : List (List (RegionDoc × Diagnostics)),
      List.Forall₂ (fun level => List.Forall₂ (level.Describes yardGame)
        ((entranceName level.name, level.data.rules.entrance) ::
          level.data.rules.regions.map fun r => (regionName level.name r.name, r.connections)))
        [ruinLevel] outs ∧
      (regionDocs yardGame [ruinLevel]).1 = hubDoc [ruinLevel] :: outs.flatten.map (·.1) ∧
      (regionDocs yardGame [ruinLevel]).2 = outs.flatten.flatMap (·.2)) ∧
    (regionDocs yardGame [ruinLevel]).2 = [
      ⟨.unresolvedConnection, "Hangar: connection has unknown target code -9"⟩,
      ⟨.unresolvedConnection, "Hangar: no item matches requirement type 99"⟩,
      ⟨.unresolvedConnection, "Hangar: connection targets missing region #7"⟩,
      ⟨.unresolvedConnection, "Hangar: no option requirement matches type -3"⟩] ∧
    (regionDocs yardGame [ruinLevel]).1.map (·.connections) = [
      [⟨"Hub @ Entrance to Hangar", [], [⟨["Hangar"], []⟩]⟩], [],
      [⟨"Hangar @ Start", ["Allow jumping"], [⟨["Hangar - Blue keycard"], ["Shotgun"]⟩]⟩]] :=
  ⟨regionDocs_file_connections yardGame [ruinLevel], by decide +kernel, by decide +kernel⟩

end Worldsmith
