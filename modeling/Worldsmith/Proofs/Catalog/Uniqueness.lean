import Worldsmith.Proofs.Catalog.Passes

namespace Worldsmith.Catalog

open Identified (unnumbered Survivors)

theorem numbered_core (game : Game) (levels : List Level) :
    ((numbered game levels).locations.map (·.core)).Sublist
      ((compile game levels).1.locations.map (·.core)) := by
  rw [numbered, remap_core]
  exact assignRegions_core levels _

/-- Every id that is given is kept by exactly one entity, the first one that was compiled. -/
theorem prepare_keeps_first (game : Game) (levels : List Level) :
    let compiled := (compile game levels).1
    let before := numbered game levels
    let after := (prepare game levels).1
    (after.items.Pairwise fun a b => a.id < b.id) ∧
      (after.locations.Pairwise fun a b => a.id < b.id) ∧
      (∀ id, id ∈ after.items.map (·.id) ↔ id ∈ before.sorted.items.map (·.id)) ∧
      (∀ id, id ∈ after.locations.map (·.id) ↔ id ∈ before.sorted.locations.map (·.id)) ∧
      (∀ e, e ∈ after.items ↔ before.items.find? (fun x => x.id = e.id) = some e) ∧
      (∀ e, e ∈ after.locations ↔ before.locations.find? (fun x => x.id = e.id) = some e) ∧
      before.items.map unnumbered = compiled.items.map unnumbered ∧
      (before.locations.map (·.core)).Sublist (compiled.locations.map (·.core)) := by
  intro compiled before after
  have hi : Survivors before.items after.items := dropRepeatedIds_items before
  have hl : Survivors before.locations after.locations := dropRepeatedIds_locations before
  refine ⟨hi.ascending, hl.ascending, fun id => ?_, fun id => ?_, hi.first, hl.first,
    remap_items game _, numbered_core game levels⟩
  · rw [((sorted_items_perm before).map (·.id)).mem_iff]
    exact hi.mem_ids id
  · rw [((sorted_locations_perm before).map (·.id)).mem_iff]
    exact hl.mem_ids id

end Worldsmith.Catalog
