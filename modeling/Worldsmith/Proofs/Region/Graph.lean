import Mathlib.Data.List.FinRange
import Mathlib.Data.Set.Defs
import Worldsmith.Proofs.Region.Codes

namespace Worldsmith

/-- The items that a player holds and the options that are on, by name. -/
structure Holdings where
  items : Set String
  options : Set String

/-- The hub, the entrance of a level, or a region of a level by its number. -/
inductive Place
  | hub
  | entrance (level : Level)
  | region (level : Level) (i : Fin level.data.rules.regions.length)

namespace Place

def name : Place → String
  | hub => hubName
  | entrance level => entranceName level.name
  | region level i => regionName level.name level.data.rules.regions[i].name

def doc (game : Game) (levels : List Level) : Place → RegionDoc
  | hub => hubDoc levels
  | entrance level =>
    ⟨entranceName level.name, (level.connectionDocs game level.data.rules.entrance).1,
      some level.index⟩
  | region level i =>
    ⟨regionName level.name level.data.rules.regions[i].name,
      (level.connectionDocs game level.data.rules.regions[i].connections).1, some level.index⟩

def connections : Place → List Connection
  | hub => []
  | entrance level => level.data.rules.entrance
  | region level i => level.data.rules.regions[i].connections

def within (level : Level) : List Place :=
  entrance level :: (List.finRange level.data.rules.regions.length).map (region level)

def all (levels : List Level) : List Place := hub :: levels.flatMap within

end Place

/-- Where a target of a connection leads. The exit and the targets that are not there lead nowhere. -/
inductive Level.Leads (level : Level) : Target → Place → Prop
  | entrance : level.Leads .hubEntrance (.entrance level)
  | region (i : Fin level.data.rules.regions.length) : level.Leads (.region i) (.region level i)

/-- Every code stands for something, the options are on, and the items are held: all of the first
list and one of the second, if it has any. -/
structure Connection.IsOpen (game : Game) (level : String) (held : Holdings) (c : Connection) :
    Prop where
  resolvable : ∀ code ∈ c.requirementsAnd ++ c.requirementsOr, game.Resolvable level code
  options : ∀ code ∈ c.requirementsAnd ++ c.requirementsOr, code < 0 →
    ∃ name ∈ held.options, game.requiredOption level code = .ok name
  all : ∀ code ∈ c.requirementsAnd, 0 ≤ code →
    ∃ name ∈ held.items, game.requiredItem level code = .ok name
  any : (∀ code ∈ c.requirementsOr, code < 0) ∨
    ∃ code ∈ c.requirementsOr, 0 ≤ code ∧
      ∃ name ∈ held.items, game.requiredItem level code = .ok name

inductive Way (game : Game) (levels : List Level) (held : Holdings) : Place → Place → Prop
  | unlock {level : Level} (hl : level ∈ levels) (hi : level.name ∈ held.items) :
    Way game levels held .hub (.entrance level)
  | entrance {level : Level} {c : Connection} {place : Place} (hl : level ∈ levels)
    (hc : c ∈ level.data.rules.entrance) (ho : c.IsOpen game level.name held)
    (ht : level.Leads c.target place) : Way game levels held (.entrance level) place
  | region {level : Level} {i : Fin level.data.rules.regions.length} {c : Connection}
    {place : Place} (hl : level ∈ levels) (hc : c ∈ level.data.rules.regions[i].connections)
    (ho : c.IsOpen game level.name held) (ht : level.Leads c.target place) :
    Way game levels held (.region level i) place

/-- The options of the document are on, and there is no group or one that is met. -/
structure ConnectionDoc.IsOpen (held : Holdings) (doc : ConnectionDoc) : Prop where
  requires : ∀ name ∈ doc.requires, name ∈ held.options
  rules : doc.rules = [] ∨ ∃ group ∈ doc.rules, (∀ name ∈ group.all, name ∈ held.items) ∧
    (group.any = [] ∨ ∃ name ∈ group.any, name ∈ held.items)

def DocumentedWay (docs : List RegionDoc) (held : Holdings) (a b : String) : Prop :=
  ∃ region ∈ docs, region.name = a ∧ ∃ doc ∈ region.connections, doc.IsOpen held ∧ doc.target = b

variable {game : Game} {levels : List Level} {level : Level} {held : Holdings} {name : String}
  {c : Connection} {doc : ConnectionDoc} {place place' : Place}

namespace Place

theorem doc_name (game : Game) (levels : List Level) (place : Place) :
    (place.doc game levels).name = place.name := by
  cases place <;> rfl

theorem hub_mem (levels : List Level) : hub ∈ all levels := List.mem_cons_self

@[simp] theorem entrance_mem_iff : entrance level ∈ all levels ↔ level ∈ levels := by
  simp [all, within]

@[simp] theorem region_mem_iff {i : Fin level.data.rules.regions.length} :
    region level i ∈ all levels ↔ level ∈ levels := by
  simp [all, within]

theorem within_docs (game : Game) (levels : List Level) (level : Level) :
    (level.regionDocs game).map (·.1) = (within level).map (Place.doc game levels) := by
  have hregions := congrArg (List.map fun r : Region => (⟨regionName level.name r.name,
    (level.connectionDocs game r.connections).1, some level.index⟩ : RegionDoc))
    (List.map_getElem_finRange level.data.rules.regions)
  rw [List.map_map] at hregions
  rw [Level.regionDocs, Level.nodes, within, List.map_cons, List.map_cons, List.map_cons,
    List.map_map, List.map_map, List.map_map]
  congr 1
  exact hregions.symm

theorem regionDocs_eq (game : Game) (levels : List Level) :
    (regionDocs game levels).1 = (all levels).map (Place.doc game levels) := by
  rw [regionDocs, all, List.map_cons, List.map_flatMap, List.map_flatMap]
  have hlevels := funext fun level => within_docs game levels level
  exact congrArg (fun f => hubDoc levels :: levels.flatMap f) hlevels

theorem name_inj (hn : ((regionDocs game levels).1.map (·.name)).Nodup) (h : place ∈ all levels)
    (h' : place' ∈ all levels) (he : place.name = place'.name) : place = place' := by
  rw [regionDocs_eq, List.map_map] at hn
  refine List.inj_on_of_nodup_map hn h h' ?_
  rw [Function.comp, Function.comp, doc_name, doc_name, he]

end Place

theorem Connection.isOpen_of_ungated {level : String} (hand : c.requirementsAnd = [])
    (hor : c.requirementsOr = []) : c.IsOpen game level held := by
  constructor <;> simp [hand, hor]

section Named
variable {ε : Type} {resolve : Int → Except ε String} {p : Int → Prop} {codes : List Int}
  {names : List String} (owned : Set String)
  (hn : ∀ name, name ∈ names ↔ ∃ code ∈ codes, p code ∧ resolve code = .ok name)
  (hr : ∀ code ∈ codes, p code → ∃ name, resolve code = .ok name)

include hn hr

theorem forall_owned_iff : (∀ name ∈ names, name ∈ owned) ↔
    ∀ code ∈ codes, p code → ∃ name ∈ owned, resolve code = .ok name := by
  constructor
  · intro h code hc hp
    obtain ⟨name, hname⟩ := hr code hc hp
    have hmem := (hn name).2 ⟨code, hc, hp, hname⟩
    exact ⟨name, h name hmem, hname⟩
  · intro h name hmem
    obtain ⟨code, hc, hp, hname⟩ := (hn name).1 hmem
    obtain ⟨name', howned, hname'⟩ := h code hc hp
    cases hname.symm.trans hname'
    exact howned

theorem exists_owned_iff : (names = [] ∨ ∃ name ∈ names, name ∈ owned) ↔
    (∀ code ∈ codes, ¬ p code) ∨
      ∃ code ∈ codes, p code ∧ ∃ name ∈ owned, resolve code = .ok name := by
  constructor
  · rintro (hnil | ⟨name, hmem, howned⟩)
    · left
      intro code hc hp
      obtain ⟨name, hname⟩ := hr code hc hp
      have hmem := (hn name).2 ⟨code, hc, hp, hname⟩
      rw [hnil] at hmem
      cases hmem
    · obtain ⟨code, hc, hp, hname⟩ := (hn name).1 hmem
      exact .inr ⟨code, hc, hp, name, howned, hname⟩
  · rintro (hnone | ⟨code, hc, hp, name, howned, hname⟩)
    · left
      apply List.eq_nil_iff_forall_not_mem.2
      intro name hmem
      obtain ⟨code, hc, hp, -⟩ := (hn name).1 hmem
      exact hnone code hc hp
    · exact .inr ⟨name, (hn name).2 ⟨code, hc, hp, hname⟩, howned⟩

end Named

theorem RuleGroup.isEmpty_iff {group : RuleGroup} :
    group.isEmpty = true ↔ group.all = [] ∧ group.any = [] := by
  rw [isEmpty, Bool.and_eq_true, List.isEmpty_iff, List.isEmpty_iff]

/-- An empty group asks for nothing, so that it can be left out. -/
theorem RuleGroup.met_iff {group : RuleGroup} {rules : List RuleGroup} (held : Holdings)
    (h : rules = if group.isEmpty then [] else [group]) :
    (rules = [] ∨ ∃ group ∈ rules, (∀ name ∈ group.all, name ∈ held.items) ∧
      (group.any = [] ∨ ∃ name ∈ group.any, name ∈ held.items)) ↔
    (∀ name ∈ group.all, name ∈ held.items) ∧
      (group.any = [] ∨ ∃ name ∈ group.any, name ∈ held.items) := by
  by_cases he : group.isEmpty = true
  · rw [if_pos he] at h
    obtain ⟨hall, hany⟩ := isEmpty_iff.1 he
    simp [h, hall, hany]
  · rw [if_neg he] at h
    simp [h]

theorem Game.Documents.isOpen_iff {level : String} (h : game.Documents level c doc) :
    doc.IsOpen held ↔ c.IsOpen game level held := by
  obtain ⟨group, hrules, hall, hany⟩ := h.rules
  have hopt := forall_owned_iff held.options h.requires fun code hc => (h.resolvable code hc).1
  have hitems := forall_owned_iff held.items hall fun code hc =>
    (h.resolvable code (List.mem_append_left _ hc)).2
  have hsome := exists_owned_iff held.items hany fun code hc =>
    (h.resolvable code (List.mem_append_right _ hc)).2
  simp only [Int.not_le] at hsome
  have hmet := RuleGroup.met_iff held hrules
  rw [hitems, hsome] at hmet
  constructor
  · rintro ⟨hrequires, hgroup⟩
    obtain ⟨hand, hor⟩ := hmet.1 hgroup
    exact ⟨h.resolvable, hopt.1 hrequires, hand, hor⟩
  · rintro ⟨-, hoptions, hand, hor⟩
    exact ⟨hopt.2 hoptions, hmet.2 ⟨hand, hor⟩⟩

namespace Level

theorem destination?_eq_some_iff {target : Target} :
    level.destination? target = .ok (some name) ↔
      ∃ place, level.Leads target place ∧ place.name = name := by
  constructor
  · intro h
    cases target with
    | levelExit => cases h
    | hubEntrance =>
      cases h
      exact ⟨_, .entrance, rfl⟩
    | region i =>
      rw [destination?] at h
      split at h
      · next region hr =>
        cases h
        obtain ⟨hi, rfl⟩ := List.getElem?_eq_some_iff.1 hr
        exact ⟨_, .region ⟨i, hi⟩, rfl⟩
      · cases h
    | unknown code => cases h
  · rintro ⟨place, hl, rfl⟩
    cases hl with
    | entrance => rfl
    | region i =>
      have hi : level.data.rules.regions[i.val]? = some level.data.rules.regions[i] :=
        List.getElem?_eq_getElem i.isLt
      rw [destination?, hi]
      rfl

theorem exists_connectionDoc? (ho : c.IsOpen game level.name held) (hl : level.Leads c.target place) :
    ∃ doc, level.connectionDoc? game c = .ok (some doc) := by
  obtain ⟨doc, hdoc⟩ := Game.exists_connectionDoc place.name ho.resolvable
  rw [connectionDoc?, destination?_eq_some_iff.2 ⟨place, hl, rfl⟩]
  exact ⟨doc, congrArg (Except.map some) hdoc⟩

theorem exists_open_doc_iff {cs : List Connection} :
    (∃ doc ∈ (level.connectionDocs game cs).1, doc.IsOpen held ∧ doc.target = name) ↔
      ∃ c ∈ cs, c.IsOpen game level.name held ∧
        ∃ place, level.Leads c.target place ∧ place.name = name := by
  constructor
  · rintro ⟨doc, hdoc, ho, rfl⟩
    obtain ⟨c, hc, hd⟩ := mem_connectionDocs.1 hdoc
    exact ⟨c, hc, (connectionDoc?_documents hd).isOpen_iff.1 ho,
      destination?_eq_some_iff.1 (connectionDoc?_target hd)⟩
  · rintro ⟨c, hc, ho, place, hl, rfl⟩
    obtain ⟨doc, hd⟩ := exists_connectionDoc? ho hl
    have htarget := (destination?_eq_some_iff.2 ⟨place, hl, rfl⟩).symm.trans
      (connectionDoc?_target hd)
    have hname : doc.target = place.name := by simpa using htarget.symm
    exact ⟨doc, mem_connectionDocs.2 ⟨c, hc, hd⟩, (connectionDoc?_documents hd).isOpen_iff.2 ho,
      hname⟩

end Level

theorem Level.Leads.mem_all {target : Target} (h : level.Leads target place) (hl : level ∈ levels) :
    place ∈ Place.all levels := by
  cases h with
  | entrance => exact Place.entrance_mem_iff.2 hl
  | region i => exact Place.region_mem_iff.2 hl

theorem Way.mem_all (h : Way game levels held place place') : place' ∈ Place.all levels := by
  cases h with
  | unlock hl => exact Place.entrance_mem_iff.2 hl
  | entrance hl _ _ ht => exact ht.mem_all hl
  | region hl _ _ ht => exact ht.mem_all hl

/-- The open connections in the document of a place are the ways from there. -/
theorem Place.exists_open_doc_iff (h : place ∈ all levels) :
    (∃ doc ∈ (place.doc game levels).connections, doc.IsOpen held ∧ doc.target = name) ↔
      ∃ place', Way game levels held place place' ∧ place'.name = name := by
  cases place with
  | hub =>
    constructor
    · rintro ⟨doc, hdoc, ho, rfl⟩
      obtain ⟨level, hl, rfl⟩ := List.mem_map.1 hdoc
      rcases ho.rules with hnil | ⟨group, hg, hall, -⟩
      · cases hnil
      · cases List.mem_singleton.1 hg
        exact ⟨_, .unlock hl (hall _ List.mem_cons_self), rfl⟩
    · rintro ⟨_, hw, rfl⟩
      cases hw with
      | unlock hl hi =>
        refine ⟨_, List.mem_map_of_mem hl, ⟨nofun, .inr ⟨_, List.mem_singleton_self _, ?_⟩⟩, rfl⟩
        exact ⟨by simpa using hi, .inl rfl⟩
  | entrance level =>
    refine Level.exists_open_doc_iff.trans ⟨?_, ?_⟩
    · rintro ⟨c, hc, ho, place', ht, rfl⟩
      exact ⟨place', .entrance (Place.entrance_mem_iff.1 h) hc ho ht, rfl⟩
    · rintro ⟨place', hw, rfl⟩
      cases hw with
      | entrance hl hc ho ht => exact ⟨_, hc, ho, place', ht, rfl⟩
  | region level i =>
    refine Level.exists_open_doc_iff.trans ⟨?_, ?_⟩
    · rintro ⟨c, hc, ho, place', ht, rfl⟩
      exact ⟨place', .region (Place.region_mem_iff.1 h) hc ho ht, rfl⟩
    · rintro ⟨place', hw, rfl⟩
      cases hw with
      | region hl hc ho ht => exact ⟨_, hc, ho, place', ht, rfl⟩

end Worldsmith
