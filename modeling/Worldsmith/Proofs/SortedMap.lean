import Mathlib.Data.List.Nodup
import Worldsmith.SortedMap

namespace Worldsmith.SortedMap

universe u v w

variable {κ : Type u} {α : Type v} {β : Type w} [Ord κ] {m : SortedMap κ α} {k k' : κ} {a b : α}
  {e : κ × α} {l : List (κ × α)}

@[simp] theorem get?_empty : (empty : SortedMap κ α).get? k = none := rfl

section Lawful
variable [Std.LawfulEqOrd κ]

theorem keys_nodup (m : SortedMap κ α) : m.keys.Nodup := by
  refine List.pairwise_map.2 (m.ascending.imp fun {e e'} hlt he => ?_)
  rw [he, Std.ReflOrd.compare_self] at hlt
  cases hlt

theorem eq_of_mem (h : (k, a) ∈ m.entries) (h' : (k, b) ∈ m.entries) : a = b := by
  have he : (k, a) = (k, b) := List.inj_on_of_nodup_map m.keys_nodup h h' rfl
  cases he
  rfl

theorem get?_eq_some_iff : m.get? k = some a ↔ (k, a) ∈ m.entries := by
  rw [get?, Option.map_eq_some_iff]
  constructor
  · rintro ⟨⟨k', a'⟩, hf, rfl⟩
    have hk : k = k' := by simpa using List.find?_some hf
    subst hk
    exact List.mem_of_find?_eq_some hf
  · intro h
    cases hf : m.entries.find? fun e => compare k e.1 == .eq with
    | none => simpa using List.find?_eq_none.1 hf _ h
    | some e =>
      obtain ⟨k', a'⟩ := e
      have hk : k = k' := by simpa using List.find?_some hf
      subst hk
      exact ⟨_, rfl, eq_of_mem (List.mem_of_find?_eq_some hf) h⟩

theorem contains_eq_true_iff : m.contains k = true ↔ k ∈ m.keys := by
  rw [contains, Option.isSome_iff_exists]
  constructor
  · rintro ⟨a, h⟩
    exact List.mem_map_of_mem (get?_eq_some_iff.1 h)
  · intro h
    obtain ⟨⟨k, a⟩, he, rfl⟩ := List.mem_map.1 h
    exact ⟨a, get?_eq_some_iff.2 he⟩

theorem get?_map (f : κ → α → β) (m : SortedMap κ α) (k : κ) :
    (m.map f).get? k = (m.get? k).map (f k) := by
  refine Option.ext fun b => ?_
  rw [get?_eq_some_iff, Option.map_eq_some_iff, map, List.mem_map]
  constructor
  · rintro ⟨⟨k, a⟩, he, hf⟩
    cases hf
    exact ⟨a, get?_eq_some_iff.2 he, rfl⟩
  · rintro ⟨a, ha, rfl⟩
    exact ⟨(k, a), get?_eq_some_iff.1 ha, rfl⟩

theorem get?_filter_eq_some_iff {p : κ → α → Bool} :
    (m.filter p).get? k = some a ↔ m.get? k = some a ∧ p k a = true := by
  rw [get?_eq_some_iff, get?_eq_some_iff, filter, List.mem_filter]

theorem isEmpty_iff : m.isEmpty = true ↔ ∀ k, m.get? k = none := by
  rw [isEmpty, List.isEmpty_iff]
  constructor
  · intro h k
    rw [get?, h]
    rfl
  · intro h
    refine List.eq_nil_iff_forall_not_mem.2 fun e he => ?_
    exact Option.some_ne_none _ ((get?_eq_some_iff.2 he).symm.trans (h e.1))

end Lawful

section Insertion
variable [Std.TransOrd κ] [Std.LawfulEqOrd κ]

theorem mem_insertEntry (h : l.Pairwise fun x y => compare x.1 y.1 = .lt) :
    e ∈ insertEntry k a l ↔ e = (k, a) ∨ e ∈ l ∧ e.1 ≠ k := by
  induction l with
  | nil => simp [insertEntry]
  | cons x rest ih =>
    obtain ⟨k', a'⟩ := x
    obtain ⟨hx, hrest⟩ := List.pairwise_cons.1 h
    have hne : ∀ y ∈ rest, y.1 ≠ k' := by
      intro y hy he
      have hlt := hx y hy
      rw [he, Std.ReflOrd.compare_self] at hlt
      cases hlt
    rw [insertEntry]
    split
    · next hk =>
      have hlt : ∀ y ∈ rest, y.1 ≠ k := by
        intro y hy he
        have hlt := Std.TransCmp.lt_trans hk (hx y hy)
        rw [he, Std.ReflOrd.compare_self] at hlt
        cases hlt
      have hk' : k' ≠ k := by
        rintro rfl
        rw [Std.ReflOrd.compare_self] at hk
        cases hk
      grind
    · next hk =>
      cases Std.LawfulEqCmp.eq_of_compare hk
      grind
    · next hk =>
      have hk' : k' ≠ k := by
        rintro rfl
        rw [Std.ReflOrd.compare_self] at hk
        cases hk
      rw [List.mem_cons, ih hrest]
      grind

theorem mem_insert : e ∈ (m.insert k a).entries ↔ e = (k, a) ∨ e ∈ m.entries ∧ e.1 ≠ k :=
  mem_insertEntry m.ascending

theorem get?_insert_self (m : SortedMap κ α) (k : κ) (a : α) : (m.insert k a).get? k = some a :=
  get?_eq_some_iff.2 (mem_insert.2 (.inl rfl))

theorem get?_insert_of_ne (m : SortedMap κ α) (h : k' ≠ k) (a : α) :
    (m.insert k a).get? k' = m.get? k' := by
  refine Option.ext fun b => ?_
  rw [get?_eq_some_iff, get?_eq_some_iff, mem_insert]
  constructor
  · rintro (he | ⟨hm, -⟩)
    · cases he
      exact absurd rfl h
    · exact hm
  · exact fun hm => .inr ⟨hm, h⟩

theorem mem_foldl_insert (h : (l.map Prod.fst).Nodup) (m : SortedMap κ α) :
    e ∈ (l.foldl (fun m e => m.insert e.1 e.2) m).entries ↔
      e ∈ l ∨ e ∈ m.entries ∧ e.1 ∉ l.map Prod.fst := by
  induction l generalizing m with
  | nil => simp
  | cons x l ih =>
    rw [List.map_cons, List.nodup_cons] at h
    rw [List.foldl_cons, ih h.2, mem_insert, List.map_cons, List.mem_cons, List.mem_cons]
    constructor
    · rintro (he | ⟨rfl | ⟨he, hx⟩, hl⟩)
      · exact .inl (.inr he)
      · exact .inl (.inl rfl)
      · exact .inr ⟨he, not_or.2 ⟨hx, hl⟩⟩
    · rintro ((rfl | he) | ⟨he, hl⟩)
      · exact .inr ⟨.inl rfl, h.1⟩
      · exact .inl he
      · rw [not_or] at hl
        exact .inr ⟨.inr ⟨he, hl.1⟩, hl.2⟩

theorem mem_ofList (h : (l.map Prod.fst).Nodup) : e ∈ (ofList l).entries ↔ e ∈ l := by
  rw [ofList, mem_foldl_insert h]
  simp [empty]

theorem get?_ofList_eq_some_iff (h : (l.map Prod.fst).Nodup) :
    (ofList l).get? k = some a ↔ (k, a) ∈ l := by
  rw [get?_eq_some_iff, mem_ofList h]

theorem entries_ofList_perm (h : (l.map Prod.fst).Nodup) : (ofList l).entries.Perm l := by
  have hn : (ofList l).entries.Nodup := List.Nodup.of_map _ (keys_nodup (ofList l))
  exact (List.perm_ext_iff_of_nodup hn (List.Nodup.of_map _ h)).2 fun _ => mem_ofList h

theorem mem_of_mem_ofList (h : e ∈ (ofList l).entries) : e ∈ l := by
  have hmore : ∀ (l : List (κ × α)) (m : SortedMap κ α),
      e ∈ (l.foldl (fun m e => m.insert e.1 e.2) m).entries → e ∈ m.entries ∨ e ∈ l := by
    intro l
    induction l with
    | nil => exact fun m h => .inl h
    | cons x l ih =>
      intro m h
      rw [List.foldl_cons] at h
      rcases ih _ h with h | h
      · rcases mem_insert.1 h with rfl | h
        · exact .inr List.mem_cons_self
        · exact .inl h.1
      · exact .inr (List.mem_cons_of_mem _ h)
  rcases hmore l empty h with h | h
  · cases h
  · exact h

theorem ofList_of_perm (h : l.Perm m.entries) : ofList l = m := by
  have hkeys : (l.map Prod.fst).Nodup := (h.map Prod.fst).nodup_iff.2 m.keys_nodup
  have hperm : (ofList l).entries.Perm m.entries := (entries_ofList_perm hkeys).trans h
  apply SortedMap.ext
  apply hperm.eq_of_pairwise _ (ofList l).ascending m.ascending
  intro a b _ _ hab hba
  exact absurd hba (Std.OrientedCmp.not_lt_of_lt hab)

end Insertion

end Worldsmith.SortedMap

namespace Worldsmith.SortedSet

universe u

variable {κ : Type u} [Ord κ] [Std.TransOrd κ] [Std.LawfulEqOrd κ] {k : κ}

theorem ofList_eq (l : List κ) : ofList l = SortedMap.ofList (l.map fun k => (k, ())) := by
  rw [ofList, SortedMap.ofList, List.foldl_map]
  rfl

theorem mem_of_mem_toList_ofList {l : List κ} (h : k ∈ (ofList l).toList) : k ∈ l := by
  rw [ofList_eq] at h
  obtain ⟨⟨k, u⟩, he, rfl⟩ := List.mem_map.1 h
  obtain ⟨k', hk', heq⟩ := List.mem_map.1 (SortedMap.mem_of_mem_ofList he)
  cases heq
  exact hk'

theorem ofList_toList (s : SortedSet κ) : ofList s.toList = s := by
  rw [ofList_eq]
  apply SortedMap.ofList_of_perm
  rw [toList, SortedMap.keys, List.map_map]
  exact .of_eq (List.map_id _)

end Worldsmith.SortedSet
