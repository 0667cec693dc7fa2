import Mathlib
import Worldsmith.Proofs.Catalog.Items
import Worldsmith.Proofs.Region.Codes
import Worldsmith.Proofs.World.Compile

namespace Worldsmith

variable {game : Game} {data : GameLevels} {levels : List Level} {level : Level} {code : Int}
  {name : String} {region : RegionDoc} {doc : ConnectionDoc} {group : RuleGroup} {w : World}
  {notes : Diagnostics}

inductive Game.Required (game : Game) (level : String) (code : Int) : String → Prop
  | unique {t : ItemTemplate} (ht : t ∈ game.uniqueProgression) :
    game.Required level code (level ++ " - " ++ t.name)
  | key {key : KeyTemplate} (hk : game.keyOf? code = some key) :
    game.Required level code (level ++ " - " ++ key.item.name)
  | extra {t : ItemTemplate} (ht : t ∈ game.extraRequirements) (hc : t.type = code) :
    game.Required level code t.name
  | common {t : ItemTemplate} (ht : t ∈ game.progression) : game.Required level code t.name

theorem Game.requiredItem_required {level : String} (h : game.requiredItem level code = .ok name) :
    game.Required level code name := by
  rw [requiredItem] at h
  split at h
  · next t ht =>
    cases h
    exact .unique (List.mem_of_find?_eq_some ht)
  · next hu =>
    split at h
    · next key hk =>
      cases h
      exact .key hk
    · next hk =>
      split at h
      · next t ht =>
        cases h
        have hcode : (t.type == code) = true := by simpa using List.find?_some ht
        have hmem := List.mem_of_find?_eq_some ht
        simp only [requirable, List.mem_append, List.mem_map] at hmem
        rcases hmem with ((hmem | hmem) | hmem) | ⟨key, hmem, rfl⟩
        · exact .extra hmem (beq_iff_eq.1 hcode)
        · exact .common hmem
        · exact absurd hcode (List.find?_eq_none.1 hu t hmem)
        · exact absurd hcode (List.find?_eq_none.1 hk key hmem)
      · cases h

/-- A rule names the level of the connection, for its unlock, or what a code stands for. -/
theorem regionDocs_rule (hr : region ∈ (regionDocs game levels).1) (hd : doc ∈ region.connections)
    (hg : group ∈ doc.rules) (hn : name ∈ group.all ++ group.any) :
    ∃ level ∈ levels, name = level.name ∨
      ∃ code, 0 ≤ code ∧ game.requiredItem level.name code = .ok name := by
  rcases List.mem_cons.1 hr with rfl | hr
  · obtain ⟨level, hl, rfl⟩ := List.mem_map.1 hd
    cases List.mem_singleton.1 hg
    exact ⟨level, hl, .inl (List.mem_singleton.1 hn)⟩
  · obtain ⟨⟨region, noted⟩, hm, rfl⟩ := List.mem_map.1 hr
    obtain ⟨level, hl, hm⟩ := List.mem_flatMap.1 hm
    obtain ⟨node, -, hnode⟩ := List.mem_map.1 hm
    cases hnode
    obtain ⟨c, -, hc⟩ := Level.mem_connectionDocs.1 hd
    obtain ⟨made, hrules, hall, hany⟩ := (Level.connectionDoc?_documents hc).rules
    have hmade : group = made := by
      rw [hrules] at hg
      split at hg
      · cases hg
      · exact List.mem_singleton.1 hg
    subst hmade
    rcases List.mem_append.1 hn with hn | hn
    · obtain ⟨code, -, hpos, hname⟩ := (hall name).1 hn
      exact ⟨level, hl, .inr ⟨code, hpos, hname⟩⟩
    · obtain ⟨code, -, hpos, hname⟩ := (hany name).1 hn
      exact ⟨level, hl, .inr ⟨code, hpos, hname⟩⟩

/-- What a rule may name although there is no item of the name: an item that was dropped for its id,
a key that is not placed in the level, a requirement that is no item, or the copy of a unique item
without a name of its own. -/
inductive Dangling (game : Game) (levels : List Level) (notes : Diagnostics) : String → Prop
  | repeated {name : String} {id : Int} (h : Catalog.repeated "Item" name id ∈ notes) :
    Dangling game levels notes name
  | unplaced {level : Level} {key : KeyTemplate} (hl : level ∈ levels)
    (hk : game.keyOf? key.item.type = some key)
    (hp : ∀ p ∈ level.placed game, p.thing.type ≠ key.item.type) :
    Dangling game levels notes (Catalog.keyName level key)
  | requirement {t : ItemTemplate} (ht : t ∈ game.extraRequirements) (hc : 0 ≤ t.type) :
    Dangling game levels notes t.name
  | unnamed {level : Level} {t : ItemTemplate} (hl : level ∈ levels)
    (ht : t ∈ game.uniqueProgression) (hn : t.name.isEmpty = true) :
    Dangling game levels notes (level.name ++ " - " ++ t.name)

namespace Catalog

theorem required_mem_or_dangling (hl : level ∈ levels) (hc : 0 ≤ code)
    (h : game.Required level.name code name) :
    name ∈ (compile game levels).1.itemNames ∨ Dangling game levels notes name := by
  cases h with
  | @unique t ht =>
    cases hn : t.name.isEmpty with
    | true => exact .inr (.unnamed hl ht hn)
    | false =>
      have hname : t.nameIn (some level) = level.name ++ " - " ++ t.name := by
        simp [ItemTemplate.nameIn, hn]
      refine .inl (levelItemNames_mem_compile hl (List.mem_append_right _ ?_))
      rw [← hname]
      exact List.mem_map_of_mem (f := (·.nameIn (some level)))
        (List.mem_append_left _ (List.mem_append_left _ ht))
  | @key key hk =>
    have hcode : key.item.type = code := by simpa using List.find?_some hk
    rw [← hcode] at hk
    by_cases hp : ∃ p ∈ level.placed game, p.thing.type = key.item.type
    · obtain ⟨p, hp, ht⟩ := hp
      exact .inl (keyName_mem_compile hl hp (ht ▸ hk))
    · exact .inr (.unplaced hl hk fun p hp' ht => hp ⟨p, hp', ht⟩)
  | extra ht hcode => exact .inr (.requirement ht (hcode ▸ hc))
  | common ht =>
    exact .inl (common_mem_compile levels (List.mem_append_left _ (List.mem_append_left _ ht)))

theorem unlock_mem_compile (hl : level ∈ levels) :
    level.name ∈ (compile game levels).1.itemNames :=
  levelItemNames_mem_compile hl List.mem_cons_self

end Catalog

/-- A rule asks for an item of the catalog, with four exceptions. -/
theorem rules_name_items (h : World.compile game data = .ok (w, notes)) (hr : region ∈ w.regions)
    (hd : doc ∈ region.connections) (hg : group ∈ doc.rules)
    (hn : name ∈ group.all ++ group.any) :
    (∃ e ∈ w.catalog.items, e.name = name) ∨ Dangling game w.levels notes name := by
  obtain ⟨levels, -, -, rfl, rfl⟩ := World.compile_eq_ok_iff.1 h
  obtain ⟨level, hl, hname⟩ := regionDocs_rule hr hd hg hn
  have hcompiled : name ∈ (Catalog.compile game levels).1.itemNames ∨
      Dangling game levels (World.notesOn game levels) name := by
    rcases hname with rfl | ⟨code, hpos, hname⟩
    · exact .inl (Catalog.unlock_mem_compile hl)
    · exact Catalog.required_mem_or_dangling hl hpos (Game.requiredItem_required hname)
  rcases hcompiled with hcompiled | hdangling
  · rcases Catalog.mem_prepare_or_repeated hcompiled with hkept | ⟨id, hnote⟩
    · exact .inl (Catalog.mem_itemNames.1 hkept)
    · exact .inr (.repeated (List.mem_append_left _ (List.mem_append_right _ hnote)))
  · exact .inr hdangling

def yardWorld : World := World.ofLevels yardGame [yardLevel]

def yardNotes : Diagnostics := World.notesOn yardGame [yardLevel]

theorem yardGame_compile : World.compile yardGame yardData = .ok (yardWorld, yardNotes) := by
  have hv : violations yardGame (Catalog.prepare yardGame [yardLevel]).1 = [] := by cbv
  exact World.compile_eq_ok_iff.2 ⟨_, yardGame_levels, hv, rfl, rfl⟩

theorem rules_name_items_yard : World.compile yardGame yardData = .ok (yardWorld, yardNotes) ∧
    ((∃ e ∈ yardWorld.catalog.items, e.name = "Hangar - Blue keycard") ∨
      Dangling yardGame yardWorld.levels yardNotes "Hangar - Blue keycard") := by
  have hrule : ∃ region ∈ yardWorld.regions, ∃ doc ∈ region.connections,
      ∃ group ∈ doc.rules, "Hangar - Blue keycard" ∈ group.all ++ group.any := by decide
  obtain ⟨region, hr, doc, hd, group, hg, hn⟩ := hrule
  exact ⟨yardGame_compile, rules_name_items yardGame_compile hr hd hg hn⟩

/-- Three requirements without an item: a key that no thing of the level is, an item of the level
with the id of its unlock, and a requirement for connections only. -/
def gateGame : Game :=
  { yardGame with
    extraRequirements := [{ type := 700, name := "Strafe running" }]
    uniqueProgression := [{ type := 0, name := "Chart" }] }

def gateMap : LevelData where
  rules := {
    regions := [
      { name := "Start"
        connections := [{ target := .region 1, requirementsAnd := [5, 0, 700] }] },
      { name := "Yard"
        connections := [{ target := .levelExit }] }]
    entrance := [{ target := .region 0 }] }

def gateLevel : Level := MapInfo.level ⟨"Hangar", "E1M1"⟩ ⟨0, 0⟩ gateMap

def gateWorld : World := World.ofLevels gateGame [gateLevel]

def gateNotes : Diagnostics := World.notesOn gateGame [gateLevel]

theorem gateGame_compile : World.compile gateGame ⟨[[gateMap]]⟩ = .ok (gateWorld, gateNotes) := by
  have hl : gateGame.levels ⟨[[gateMap]]⟩ = .ok [gateLevel] := rfl
  have hv : violations gateGame (Catalog.prepare gateGame [gateLevel]).1 = [] := by cbv
  exact World.compile_eq_ok_iff.2 ⟨_, hl, hv, rfl, rfl⟩

def Sink.accepting : Sink Id where
  addText _ _ := return ()
  addFile _ _ := return ()
  finalize := return []
  label := ""
  versioned := false

theorem rules_name_no_item :
    (∃ report, (generate gateGame ⟨[[gateMap]]⟩ .accepting [] 1 ⟨2024, 1, 1, 0, 0, 0⟩).run =
      .ok report) ∧
      World.compile gateGame ⟨[[gateMap]]⟩ = .ok (gateWorld, gateNotes) ∧
      (∃ region ∈ gateWorld.regions, ∃ doc ∈ region.connections, ∃ group ∈ doc.rules,
        group.all = ["Hangar - Blue keycard", "Hangar - Chart", "Strafe running"]) ∧
      ∀ e ∈ gateWorld.catalog.items,
        e.name ∉ ["Hangar - Blue keycard", "Hangar - Chart", "Strafe running"] := by
  have hrule : ∃ region ∈ gateWorld.regions, ∃ doc ∈ region.connections, ∃ group ∈ doc.rules,
      group.all = ["Hangar - Blue keycard", "Hangar - Chart", "Strafe running"] := by decide
  have hnames : gateWorld.catalog.itemNames =
      ["Shotgun", "Shells", "Hangar", "Hangar - Complete"] := by cbv
  refine ⟨?_, gateGame_compile, hrule, ?_⟩
  · rw [generate, gateGame_compile]
    exact ⟨_, rfl⟩
  · intro e he hname
    have hnone : ∀ name ∈ ["Shotgun", "Shells", "Hangar", "Hangar - Complete"],
        name ∉ ["Hangar - Blue keycard", "Hangar - Chart", "Strafe running"] := by decide
    have hmem := Catalog.mem_itemNames.2 ⟨e, he, rfl⟩
    rw [hnames] at hmem
    exact hnone _ hmem hname

end Worldsmith
