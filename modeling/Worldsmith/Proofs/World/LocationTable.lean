import Std.Data.String.ToInt
import Worldsmith.Proofs.Catalog.Ledger
import Worldsmith.Proofs.Json.Object
import Worldsmith.World.Documents

namespace Worldsmith

def Spot.key (spot : Spot) : String × String × String :=
  (Nat.repr (spot.1.episode + 1), Nat.repr (spot.1.map + 1),
    match spot.2 with
    | some thing => Nat.repr thing
    | none => "-1")

theorem natRepr_ne_minusOne (n : Nat) : Nat.repr n ≠ "-1" := by
  intro h
  have hint : Int.repr (Int.ofNat n) = Int.repr (-1) := h
  cases Int.repr_injective hint

theorem Spot.key_injective : Function.Injective Spot.key := by
  rintro ⟨⟨episode, map⟩, thing⟩ ⟨⟨episode', map'⟩, thing'⟩ h
  obtain ⟨hepisode, hmap, hthing⟩ : Nat.repr (episode + 1) = Nat.repr (episode' + 1) ∧
      Nat.repr (map + 1) = Nat.repr (map' + 1) ∧
      (Spot.key (⟨episode, map⟩, thing)).2.2 = (Spot.key (⟨episode', map'⟩, thing')).2.2 :=
    ⟨congrArg (·.1) h, congrArg (·.2.1) h, congrArg (·.2.2) h⟩
  cases Nat.repr_injective hepisode
  cases Nat.repr_injective hmap
  cases thing with
  | none =>
    cases thing' with
    | none => rfl
    | some i => exact absurd hthing.symm (natRepr_ne_minusOne i)
  | some i =>
    cases thing' with
    | none => exact absurd hthing (natRepr_ne_minusOne i)
    | some i' =>
      cases Nat.repr_injective hthing
      rfl

theorem Location.keys_nodup {locations : List Location}
    (h : (locations.map (·.spot)).Nodup) : (locations.map (·.spot.key)).Nodup := by
  have hkeys := h.map Spot.key_injective
  rwa [List.map_map] at hkeys

namespace Document

variable {table : LocationTable} {loc : Location} {locations : List Location}
  {key : String × String × String} {id : Int}

namespace LocationTable

def at? (table : LocationTable) (key : String × String × String) : Option Int :=
  (table.get? key.1).bind fun maps => (maps.get? key.2.1).bind fun things => things.get? key.2.2

def leaves (table : LocationTable) : List ((String × String × String) × Int) :=
  table.entries.flatMap fun (episode, maps) => maps.entries.flatMap fun (map, things) =>
    things.entries.map fun (thing, id) => ((episode, map, thing), id)

theorem mem_leaves : (key, id) ∈ table.leaves ↔ table.at? key = some id := by
  obtain ⟨episode, map, thing⟩ := key
  simp only [leaves, at?, List.mem_flatMap, List.mem_map, Option.bind_eq_some_iff,
    SortedMap.get?_eq_some_iff]
  constructor
  · rintro ⟨⟨_, maps⟩, hmaps, ⟨_, things⟩, hthings, ⟨_, _⟩, hid, he⟩
    cases he
    exact ⟨maps, hmaps, things, hthings, hid⟩
  · rintro ⟨maps, hmaps, things, hthings, hid⟩
    exact ⟨_, hmaps, _, hthings, _, hid, rfl⟩

theorem leaves_nodup (table : LocationTable) : (table.leaves.map Prod.fst).Nodup := by
  refine List.pairwise_map.2 (List.pairwise_flatMap.2 ⟨fun e _ => ?_, ?_⟩)
  · refine List.pairwise_flatMap.2 ⟨fun e' _ => ?_, ?_⟩
    · have hn := List.pairwise_map.1 e'.2.keys_nodup
      exact List.pairwise_map.2 (hn.imp fun hne he => hne (congrArg (·.2.2) he))
    · refine (List.pairwise_map.1 e.2.keys_nodup).imp fun hne x hx y hy he => hne ?_
      obtain ⟨_, -, rfl⟩ := List.mem_map.1 hx
      obtain ⟨_, -, rfl⟩ := List.mem_map.1 hy
      exact congrArg (·.2.1) he
  · refine (List.pairwise_map.1 table.keys_nodup).imp fun hne x hx y hy he => hne ?_
    obtain ⟨_, -, hx⟩ := List.mem_flatMap.1 hx
    obtain ⟨_, -, rfl⟩ := List.mem_map.1 hx
    obtain ⟨_, -, hy⟩ := List.mem_flatMap.1 hy
    obtain ⟨_, -, rfl⟩ := List.mem_map.1 hy
    exact congrArg (·.1) he

end LocationTable

theorem enterLocation_eq (table : LocationTable) (loc : Location) :
    enterLocation table loc =
      table.insert loc.spot.key.1 (((table.get? loc.spot.key.1).getD .empty).insert loc.spot.key.2.1
        (((((table.get? loc.spot.key.1).getD .empty).get? loc.spot.key.2.1).getD .empty).insert
          loc.spot.key.2.2 loc.id)) := by
  have hthing : thingKey loc = loc.spot.key.2.2 := by
    cases hs : loc.site <;> simp [thingKey, Location.spot, Spot.key, hs]
  rw [enterLocation, hthing]
  rfl

theorem get?_getD_empty {α : Type} (m? : Option (SortedMap String α)) (k : String) :
    (m?.getD .empty).get? k = m?.bind fun m => m.get? k := by
  cases m? <;> rfl

theorem at?_enterLocation_self (table : LocationTable) (loc : Location) :
    (enterLocation table loc).at? loc.spot.key = some loc.id := by
  simp only [enterLocation_eq, LocationTable.at?, SortedMap.get?_insert_self, Option.bind_some]

/-- At the first key in which another spot differs it finds what was there. -/
theorem at?_enterLocation_of_ne (table : LocationTable) (h : key ≠ loc.spot.key) :
    (enterLocation table loc).at? key = table.at? key := by
  obtain ⟨episode, map, thing⟩ := key
  rw [enterLocation_eq, LocationTable.at?, LocationTable.at?]
  by_cases hepisode : episode = loc.spot.key.1
  · subst hepisode
    rw [SortedMap.get?_insert_self, Option.bind_some]
    by_cases hmap : map = loc.spot.key.2.1
    · subst hmap
      have hthing : thing ≠ loc.spot.key.2.2 := fun hthing => h (hthing ▸ rfl)
      rw [SortedMap.get?_insert_self, Option.bind_some, SortedMap.get?_insert_of_ne _ hthing,
        get?_getD_empty, get?_getD_empty, Option.bind_assoc]
    · rw [SortedMap.get?_insert_of_ne _ hmap, get?_getD_empty, Option.bind_assoc]
  · rw [SortedMap.get?_insert_of_ne _ hepisode]

theorem at?_foldl_enterLocation (h : (locations.map (·.spot)).Nodup) (table : LocationTable) :
    LocationTable.at? (locations.foldl enterLocation table) key = some id ↔
      (key, id) ∈ locations.map (fun loc => (loc.spot.key, loc.id)) ∨
        table.at? key = some id ∧ key ∉ locations.map (·.spot.key) := by
  induction locations generalizing table with
  | nil => simp
  | cons loc locations ih =>
    have hloc := (List.nodup_cons.1 (Location.keys_nodup h)).1
    rw [List.foldl_cons, ih (List.nodup_cons.1 h).2]
    simp only [List.map_cons, List.mem_cons, not_or, Prod.mk.injEq]
    by_cases hkey : key = loc.spot.key
    · subst hkey
      rw [at?_enterLocation_self, Option.some_inj]
      grind
    · rw [at?_enterLocation_of_ne table hkey]
      simp [hkey]

theorem at?_locationTable (h : (locations.map (·.spot)).Nodup) :
    (locationTable locations).at? key = some id ↔
      (key, id) ∈ locations.map fun loc => (loc.spot.key, loc.id) := by
  rw [locationTable, at?_foldl_enterLocation h]
  simp [LocationTable.at?]

/-- Every location has one leaf, and there are no others. -/
theorem leaves_locationTable (h : (locations.map (·.spot)).Nodup) :
    (locationTable locations).leaves.Perm (locations.map fun loc => (loc.spot.key, loc.id)) := by
  have hkeys := Location.keys_nodup h
  have hn : (locations.map fun loc => (loc.spot.key, loc.id)).Nodup := by
    refine List.Nodup.of_map Prod.fst ?_
    rwa [List.map_map]
  refine (List.perm_ext_iff_of_nodup (.of_map _ (LocationTable.leaves_nodup _)) hn).2 ?_
  exact fun leaf => LocationTable.mem_leaves.trans (at?_locationTable h)

theorem at?_locationTable_thing {c : Catalog} (h : (c.locations.map (·.spot)).Nodup)
    (level : LevelIndex) (thing : Nat) :
    (locationTable c.locations).at? (Spot.key (level, some thing)) =
      (c.locationAt? level thing).map (·.id) := by
  have hspot : ∀ loc : Location, loc.spot = (level, some thing) ↔
      (decide (loc.level = level) && decide (loc.site.map (·.thing) = some thing)) = true := by
    intro loc
    rw [Bool.and_eq_true, decide_eq_true_iff, decide_eq_true_iff, Location.spot, Prod.mk.injEq]
  cases hfind : c.locationAt? level thing with
  | none =>
    refine Option.eq_none_iff_forall_ne_some.2 fun id hid => ?_
    obtain ⟨loc, hloc, he⟩ := List.mem_map.1 ((at?_locationTable h).1 hid)
    have hkey : loc.spot = (level, some thing) := Spot.key_injective (congrArg Prod.fst he)
    exact List.find?_eq_none.1 hfind loc hloc ((hspot loc).1 hkey)
  | some loc =>
    have hloc := List.mem_of_find?_eq_some hfind
    have hkey := (hspot loc).2 (by simpa using List.find?_some hfind)
    rw [← hkey]
    exact (at?_locationTable h).2 (List.mem_map_of_mem hloc)

theorem path?_locationTableJson (table : LocationTable) (key : String × String × String) :
    (locationTableJson table).path? [key.1, key.2.1, key.2.2] = (table.at? key).map .int := by
  rw [Json.path?, LocationTable.at?, locationTableJson]
  simp only [List.foldlM_cons, List.foldlM_nil, Json.get?_ofMap, SortedMap.get?_map,
    Option.bind_eq_bind, Option.pure_def]
  cases table.get? key.1 with
  | none => rfl
  | some maps =>
    simp only [Option.map_some, Option.bind_some, Json.get?_ofMap, SortedMap.get?_map]
    cases maps.get? key.2.1 with
    | none => rfl
    | some things =>
      simp only [Option.map_some, Option.bind_some, Json.get?_ofMap, SortedMap.get?_map,
        Option.bind_fun_some]

theorem leaves_locationTableJson (table : LocationTable) :
    (locationTableJson table).leaves = table.leaves.map fun leaf => (leaf.1, .int leaf.2) := by
  simp only [Json.leaves, locationTableJson, LocationTable.leaves, Json.ofMap, Json.fields,
    SortedMap.map, List.flatMap_map, List.map_flatMap, List.map_map]
  rfl

end Document

end Worldsmith
