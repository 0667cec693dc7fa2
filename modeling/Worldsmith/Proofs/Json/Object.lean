import Worldsmith.Json.Basic
import Worldsmith.Proofs.SortedMap

namespace Worldsmith.Json

variable {l l' : List (String × Json)} {key : String} {value : Json}

theorem get?_ofMap (m : SortedMap String Json) (key : String) : (ofMap m).get? key = m.get? key := by
  have hkey : (fun e : String × Json => e.1 == key) = fun e => compare key e.1 == .eq := by
    funext e
    rw [Bool.eq_iff_iff, beq_iff_eq, beq_iff_eq, Std.compare_eq_iff_eq, eq_comm]
  rw [ofMap, get?, hkey, SortedMap.get?]

theorem get?_object_of_mem (hn : (l.map Prod.fst).Nodup) (h : (key, value) ∈ l) :
    (object l).get? key = some value :=
  (get?_ofMap _ key).trans ((SortedMap.get?_ofList_eq_some_iff hn).2 h)

theorem get?_object_append (h : key ∉ l'.map Prod.fst) :
    (object (l ++ l')).get? key = (object l).get? key := by
  have hmore : ∀ m : SortedMap String Json,
      (l'.foldl (fun m e => m.insert e.1 e.2) m).get? key = m.get? key := by
    induction l' with
    | nil => exact fun m => rfl
    | cons e l' ih =>
      intro m
      rw [List.map_cons, List.mem_cons, not_or] at h
      rw [List.foldl_cons, ih h.2, SortedMap.get?_insert_of_ne m h.1]
  rw [object, object, ← ofMap, ← ofMap, get?_ofMap, get?_ofMap, SortedMap.ofList, SortedMap.ofList,
    List.foldl_append, hmore]

theorem get?_object_append_of_mem (hn : (l.map Prod.fst).Nodup) (h : (key, value) ∈ l)
    (hmore : key ∉ l'.map Prod.fst) : (object (l ++ l')).get? key = some value := by
  rw [get?_object_append hmore, get?_object_of_mem hn h]

theorem get?_object_eq_none (h : key ∉ l.map Prod.fst) : (object l).get? key = none := by
  rw [← List.nil_append l, get?_object_append h]
  rfl

theorem keys_optional (p : Prop) [Decidable p] (key : String) (value : Json) :
    ((if p then [] else [(key, value)]).map Prod.fst).Sublist [key] := by
  split
  · exact List.nil_sublist _
  · exact .refl _

/-- A field that may be left out, behind fields of other names. -/
theorem get?_object_optional {keys : List String} (hl : (l.map Prod.fst).Sublist keys)
    (hkeys : (keys ++ [key]).Nodup) (p : Prop) [Decidable p] :
    (object (l ++ if p then [] else [(key, value)])).get? key =
      if p then none else some value := by
  split
  · refine get?_object_eq_none fun hmem => ?_
    rw [List.append_nil] at hmem
    exact (List.nodup_append.1 hkeys).2.2 key (hl.subset hmem) key (by simp) rfl
  · refine get?_object_of_mem ?_ (by simp)
    rw [List.map_append]
    exact (hl.append (.refl [key])).nodup hkeys

def fields : Json → List (String × Json)
  | obj entries => entries
  | _ => []

theorem fields_object_perm (hn : (l.map Prod.fst).Nodup) : (object l).fields.Perm l :=
  SortedMap.entries_ofList_perm hn

theorem fields_object_keys (hn : (l.map Prod.fst).Nodup)
    (h : l.map Prod.fst = l'.map Prod.fst) :
    (object l).fields.map Prod.fst = (object l').fields.map Prod.fst := by
  have hp : ((object l).fields.map Prod.fst).Perm ((object l').fields.map Prod.fst) := by
    have hl := (fields_object_perm hn).map Prod.fst
    have hl' := (fields_object_perm (h ▸ hn)).map Prod.fst
    rw [h] at hl
    exact hl.trans hl'.symm
  have hasc : ∀ m : SortedMap String Json,
      (m.entries.map Prod.fst).Pairwise fun a b => compare a b = .lt := fun m =>
    List.pairwise_map.2 m.ascending
  refine hp.eq_of_pairwise (fun a b _ _ hab hba => ?_) (hasc (.ofList l)) (hasc (.ofList l'))
  exact absurd hba (Std.OrientedCmp.not_lt_of_lt hab)

def path? (j : Json) (keys : List String) : Option Json := keys.foldlM get? j

/-- What stands three keys deep, with the keys. -/
def leaves (j : Json) : List ((String × String × String) × Json) :=
  j.fields.flatMap fun (a, x) => x.fields.flatMap fun (b, y) => y.fields.map fun (c, z) =>
    ((a, b, c), z)

end Worldsmith.Json
