import Worldsmith.Proofs.Region.Closed

namespace Worldsmith

namespace Game

variable {game : Game} {level target name : String} {code : Int} {codes : List Int}
  {options items : List String} {c : Connection} {doc : ConnectionDoc}

/-- Codes with the options and the items that they stand for, each in the order of codes. -/
inductive Resolves (game : Game) (level : String) : List Int → List String → List String → Prop
  | nil : Resolves game level [] [] []
  | option {code : Int} {codes : List Int} {name : String} {options items : List String}
    (hc : code < 0) (hn : game.requiredOption level code = .ok name)
    (h : Resolves game level codes options items) :
    Resolves game level (code :: codes) (name :: options) items
  | item {code : Int} {codes : List Int} {name : String} {options items : List String}
    (hc : 0 ≤ code) (hn : game.requiredItem level code = .ok name)
    (h : Resolves game level codes options items) :
    Resolves game level (code :: codes) options (name :: items)

theorem Resolves.resolveCodes (h : Resolves game level codes options items) :
    game.resolveCodes level codes = .ok (options, items) := by
  induction h with
  | nil => rfl
  | option hc hn _ ih =>
    rw [Game.resolveCodes, if_pos hc, hn, ih]
    rfl
  | item hc hn _ ih =>
    rw [Game.resolveCodes, if_neg (Int.not_lt.2 hc), hn, ih]
    rfl

theorem resolves_of_resolveCodes (h : game.resolveCodes level codes = .ok (options, items)) :
    Resolves game level codes options items := by
  induction codes generalizing options items with
  | nil =>
    cases h
    exact .nil
  | cons code codes ih =>
    rw [resolveCodes] at h
    split at h
    · next hc =>
      obtain ⟨name, hn, h⟩ := exists_ok_of_bind h
      obtain ⟨⟨options, items⟩, hrest, h⟩ := exists_ok_of_bind h
      cases h
      exact .option hc hn (ih hrest)
    · next hc =>
      obtain ⟨name, hn, h⟩ := exists_ok_of_bind h
      obtain ⟨⟨options, items⟩, hrest, h⟩ := exists_ok_of_bind h
      cases h
      exact .item (Int.not_lt.1 hc) hn (ih hrest)

theorem Resolves.mem_options (h : Resolves game level codes options items) :
    name ∈ options ↔ ∃ code ∈ codes, code < 0 ∧ game.requiredOption level code = .ok name := by
  induction h with
  | nil => simp
  | option hc hn _ ih => simp [ih, hc, hn, eq_comm]
  | item hc hn _ ih => simp [ih, Int.not_lt.2 hc]

theorem Resolves.mem_items (h : Resolves game level codes options items) :
    name ∈ items ↔ ∃ code ∈ codes, 0 ≤ code ∧ game.requiredItem level code = .ok name := by
  induction h with
  | nil => simp
  | option hc hn _ ih => simp [ih, Int.not_le.2 hc]
  | item hc hn _ ih => simp [ih, hc, hn, eq_comm]

def Resolvable (game : Game) (level : String) (code : Int) : Prop :=
  (code < 0 → ∃ name, game.requiredOption level code = .ok name) ∧
    (0 ≤ code → ∃ name, game.requiredItem level code = .ok name)

theorem Resolves.resolvable (h : Resolves game level codes options items) :
    ∀ code ∈ codes, game.Resolvable level code := by
  induction h with
  | nil => simp
  | option hc hn _ ih =>
    exact List.forall_mem_cons.2 ⟨⟨fun _ => ⟨_, hn⟩, fun h => absurd hc (Int.not_lt.2 h)⟩, ih⟩
  | item hc hn _ ih =>
    exact List.forall_mem_cons.2 ⟨⟨fun h => absurd h (Int.not_lt.2 hc), fun _ => ⟨_, hn⟩⟩, ih⟩

theorem exists_resolves (h : ∀ code ∈ codes, game.Resolvable level code) :
    ∃ options items, Resolves game level codes options items := by
  induction codes with
  | nil => exact ⟨[], [], .nil⟩
  | cons code codes ih =>
    rw [List.forall_mem_cons] at h
    obtain ⟨options, items, hrest⟩ := ih h.2
    rcases Int.lt_or_le code 0 with hc | hc
    · obtain ⟨name, hn⟩ := h.1.1 hc
      exact ⟨_, _, .option hc hn hrest⟩
    · obtain ⟨name, hn⟩ := h.1.2 hc
      exact ⟨_, _, .item hc hn hrest⟩

structure Documents (game : Game) (level : String) (c : Connection) (doc : ConnectionDoc) : Prop where
  resolvable : ∀ code ∈ c.requirementsAnd ++ c.requirementsOr, game.Resolvable level code
  requires : ∀ name, name ∈ doc.requires ↔
    ∃ code ∈ c.requirementsAnd ++ c.requirementsOr, code < 0 ∧
      game.requiredOption level code = .ok name
  rules : ∃ group : RuleGroup, doc.rules = (if group.isEmpty then [] else [group]) ∧
    (∀ name, name ∈ group.all ↔
      ∃ code ∈ c.requirementsAnd, 0 ≤ code ∧ game.requiredItem level code = .ok name) ∧
    ∀ name, name ∈ group.any ↔
      ∃ code ∈ c.requirementsOr, 0 ≤ code ∧ game.requiredItem level code = .ok name

theorem connectionDoc_documents (h : game.connectionDoc c level target = .ok doc) :
    game.Documents level c doc := by
  obtain ⟨⟨optionsAnd, all⟩, hand, h⟩ := exists_ok_of_bind h
  obtain ⟨⟨optionsOr, any⟩, hor, h⟩ := exists_ok_of_bind h
  cases h
  have hand := resolves_of_resolveCodes hand
  have hor := resolves_of_resolveCodes hor
  refine ⟨?_, fun name => ?_, ⟨all, any⟩, rfl, fun _ => hand.mem_items, fun _ => hor.mem_items⟩
  · intro code hc
    rcases List.mem_append.1 hc with hc | hc
    · exact hand.resolvable code hc
    · exact hor.resolvable code hc
  · simp only [List.mem_append, hand.mem_options, hor.mem_options, or_and_right, exists_or]

theorem exists_connectionDoc (target : String)
    (h : ∀ code ∈ c.requirementsAnd ++ c.requirementsOr, game.Resolvable level code) :
    ∃ doc, game.connectionDoc c level target = .ok doc := by
  rw [List.forall_mem_append] at h
  obtain ⟨optionsAnd, all, hand⟩ := exists_resolves h.1
  obtain ⟨optionsOr, any, hor⟩ := exists_resolves h.2
  rw [connectionDoc, hand.resolveCodes, hor.resolveCodes]
  exact ⟨_, rfl⟩

end Game

namespace Level

variable {game : Game} {level : Level} {c : Connection} {doc : ConnectionDoc}

theorem connectionDoc?_documents (h : level.connectionDoc? game c = .ok (some doc)) :
    game.Documents level.name c doc := by
  obtain ⟨target, hd, h⟩ := exists_ok_of_bind h
  cases target with
  | none => cases h
  | some target =>
    obtain ⟨made, hdoc, h⟩ := exists_ok_of_bind h
    cases h
    exact Game.connectionDoc_documents hdoc

end Level

/-- A level of two regions. The way to the second one is gated by a key that is not on the level and
by an option, and the exit by an item. -/
def yardGame : Game where
  shortName := "doom"
  iwad := "DOOM.WAD"
  episodes := [{ maps := [⟨"Hangar", "E1M1"⟩] }]
  filler := [{ type := 2008, name := "Shells", groups := ["Junk"] }]
  progression := [{ type := 2001, name := "Shotgun" }]
  keys := [{ item := { type := 5, name := "Blue keycard" }, slot := 0 }]
  extraRequirements := [{ type := -100, name := "Allow jumping" }]

def yardMap : LevelData where
  rules := {
    regions := [
      { name := "Start"
        connections := [{ target := .region 1, requirementsAnd := [5, -100] }] },
      { name := "Yard"
        connections := [{ target := .levelExit, requirementsAnd := [2001] }] }]
    entrance := [{ target := .region 0 }] }

def yardData : GameLevels := ⟨[[yardMap]]⟩

def yardLevel : Level := MapInfo.level ⟨"Hangar", "E1M1"⟩ ⟨0, 0⟩ yardMap

theorem yardGame_levels : yardGame.levels yardData = .ok [yardLevel] := rfl

end Worldsmith
