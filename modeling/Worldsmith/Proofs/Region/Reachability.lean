import Mathlib.Logic.Relation
import Worldsmith.Proofs.Region.Graph

namespace Worldsmith

variable {game : Game} {levels : List Level} {held : Holdings} {name : String} {place : Place}

/-- Whether a place can be reached from the hub by the authored graph. -/
def Reachable (game : Game) (levels : List Level) (held : Holdings) : Place → Prop :=
  Relation.ReflTransGen (Way game levels held) .hub

/-- Whether a region can be reached from the hub by the documents. -/
def NameReachable (docs : List RegionDoc) (held : Holdings) : String → Prop :=
  Relation.ReflTransGen (DocumentedWay docs held) hubName

theorem Reachable.mem_all (h : Reachable game levels held place) : place ∈ Place.all levels := by
  cases h.cases_tail with
  | inl he => exact he ▸ Place.hub_mem levels
  | inr h =>
    obtain ⟨_, -, hw⟩ := h
    exact hw.mem_all

theorem Way.documented {place' : Place} (hp : place ∈ Place.all levels)
    (h : Way game levels held place place') :
    DocumentedWay (regionDocs game levels).1 held place.name place'.name := by
  obtain ⟨doc, hdoc, ho, ht⟩ := (Place.exists_open_doc_iff hp).2 ⟨place', h, rfl⟩
  refine ⟨place.doc game levels, ?_, place.doc_name game levels, doc, hdoc, ho, ht⟩
  rw [Place.regionDocs_eq]
  exact List.mem_map_of_mem hp

theorem Reachable.documented (h : Reachable game levels held place) :
    NameReachable (regionDocs game levels).1 held place.name := by
  induction h with
  | refl => exact .refl
  | tail hr hw ih => exact ih.tail (hw.documented (Reachable.mem_all hr))

/-- A documented way from a place is an authored one if no other place has the name. -/
theorem DocumentedWay.authored (hn : ((regionDocs game levels).1.map (·.name)).Nodup)
    (hp : place ∈ Place.all levels)
    (h : DocumentedWay (regionDocs game levels).1 held place.name name) :
    ∃ place', Way game levels held place place' ∧ place'.name = name := by
  obtain ⟨region, hr, hname, hdoc⟩ := h
  have hdocs := hr
  rw [Place.regionDocs_eq] at hdocs
  obtain ⟨place', hp', rfl⟩ := List.mem_map.1 hdocs
  rw [Place.doc_name] at hname
  have he := Place.name_inj hn hp' hp hname
  subst he
  exact (Place.exists_open_doc_iff hp').1 hdoc

theorem NameReachable.authored (hn : ((regionDocs game levels).1.map (·.name)).Nodup)
    (h : NameReachable (regionDocs game levels).1 held name) :
    ∃ place, Reachable game levels held place ∧ place.name = name := by
  induction h with
  | refl => exact ⟨.hub, .refl, rfl⟩
  | tail _ hw ih =>
    obtain ⟨place, hr, rfl⟩ := ih
    obtain ⟨place', hw, hname⟩ := hw.authored hn hr.mem_all
    exact ⟨place', hr.tail hw, hname⟩

theorem reachable_iff (hn : ((regionDocs game levels).1.map (·.name)).Nodup)
    (hp : place ∈ Place.all levels) :
    NameReachable (regionDocs game levels).1 held place.name ↔ Reachable game levels held place := by
  constructor
  · intro h
    obtain ⟨place', hr, hname⟩ := h.authored hn
    have he := Place.name_inj hn hr.mem_all hp hname
    exact he ▸ hr
  · exact Reachable.documented

/-- Writing the documents keeps what can be reached. -/
theorem regionDocs_reachable (game : Game) (levels : List Level) (held : Holdings) :
    let docs := (regionDocs game levels).1
    (∀ place, Reachable game levels held place → NameReachable docs held place.name) ∧
      ((docs.map (·.name)).Nodup →
        (∀ place ∈ Place.all levels,
          NameReachable docs held place.name → Reachable game levels held place) ∧
        ∀ name, NameReachable docs held name →
          ∃ place, Reachable game levels held place ∧ place.name = name) := by
  intro docs
  refine ⟨fun _ h => h.documented, fun hn => ⟨fun place hp => ?_, fun name h => ?_⟩⟩
  · exact (reachable_iff hn hp).1
  · exact h.authored hn

theorem yard_names : ((regionDocs yardGame [yardLevel]).1.map (·.name)).Nodup := by decide

/-- All that opens the way to the second region, but not what the exit asks for. -/
def yardHeld : Holdings where
  items := {"Hangar", "Hangar - Blue keycard"}
  options := {"Allow jumping"}

theorem regionDocs_reachable_yard :
    ((regionDocs yardGame [yardLevel]).1.map (·.name)).Nodup ∧
      (∀ place ∈ Place.all [yardLevel],
        NameReachable (regionDocs yardGame [yardLevel]).1 yardHeld place.name →
          Reachable yardGame [yardLevel] yardHeld place) ∧
      ∀ name, NameReachable (regionDocs yardGame [yardLevel]).1 yardHeld name →
        ∃ place, Reachable yardGame [yardLevel] yardHeld place ∧ place.name = name :=
  ⟨yard_names, (regionDocs_reachable yardGame [yardLevel] yardHeld).2 yard_names⟩

end Worldsmith
