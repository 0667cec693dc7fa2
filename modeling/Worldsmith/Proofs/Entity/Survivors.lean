import Worldsmith.Catalog.Passes

namespace Worldsmith.Identified

variable {α : Type} [Identified α] {seen : List Int} {l : List α} {e : α}

theorem splitRepeats_perm (seen : List Int) (l : List α) :
    ((splitRepeats seen l).1 ++ (splitRepeats seen l).2).Perm l := by
  induction l generalizing seen with
  | nil => exact .refl _
  | cons x l ih =>
    rw [splitRepeats]
    split
    · exact List.perm_middle.trans ((ih seen).cons x)
    · exact (ih (id x :: seen)).cons x

theorem splitRepeats_sublist (seen : List Int) (l : List α) :
    (splitRepeats seen l).1.Sublist l := by
  induction l generalizing seen with
  | nil => exact .refl _
  | cons x l ih =>
    rw [splitRepeats]
    split
    · exact (ih seen).cons x
    · exact (ih (id x :: seen)).cons_cons x

/-- What stays is the first of its id, which was not seen before. -/
theorem mem_splitRepeats : e ∈ (splitRepeats seen l).1 ↔
    id e ∉ seen ∧ l.find? (fun x => id x = id e) = some e := by
  induction l generalizing seen with
  | nil => simp [splitRepeats]
  | cons x l ih =>
    rw [splitRepeats, List.find?_cons]
    by_cases hs : id x ∈ seen
    · rw [if_pos (List.contains_iff_mem.2 hs), ih]
      grind
    · rw [if_neg (hs ∘ List.contains_iff_mem.1), List.mem_cons, ih]
      grind

theorem splitRepeats_nodup (seen : List Int) (l : List α) :
    ((splitRepeats seen l).1.map id).Nodup := by
  induction l generalizing seen with
  | nil => exact .nil
  | cons x l ih =>
    rw [splitRepeats]
    split
    · exact ih seen
    · refine List.nodup_cons.2 ⟨fun hx => ?_, ih _⟩
      obtain ⟨e, he, hid⟩ := List.mem_map.1 hx
      exact (mem_splitRepeats.1 he).1 (hid ▸ List.mem_cons_self)

/-- A stable sort by id leaves the entities of one id in their order. -/
theorem filter_mergeSort (l : List α) (i : Int) :
    (l.mergeSort fun a b => id a ≤ id b).filter (fun x => id x = i) =
      l.filter fun x => id x = i := by
  have hle : (l.filter fun x => id x = i).Pairwise fun a b => decide (id a ≤ id b) = true := by
    refine List.pairwise_of_forall_mem_list fun a ha b hb => ?_
    have ha := of_decide_eq_true (List.mem_filter.1 ha).2
    have hb := of_decide_eq_true (List.mem_filter.1 hb).2
    exact decide_eq_true (Int.le_of_eq (ha.trans hb.symm))
  have hs := List.sublist_mergeSort (by simp; omega) (by simp; omega) hle List.filter_sublist
  have hf := hs.filter fun x => decide (id x = i)
  simp only [List.filter_filter, Bool.and_self] at hf
  have hp := (List.mergeSort_perm l fun a b => id a ≤ id b).filter fun x => decide (id x = i)
  exact (hf.eq_of_length hp.length_eq.symm).symm

theorem find?_mergeSort (l : List α) (i : Int) :
    (l.mergeSort fun a b => id a ≤ id b).find? (fun x => id x = i) =
      l.find? fun x => id x = i := by
  rw [← List.head?_filter, ← List.head?_filter, filter_mergeSort]

theorem mergeSort_ascending (l : List α) :
    (l.mergeSort fun a b => id a ≤ id b).Pairwise fun a b => id a ≤ id b :=
  (List.pairwise_mergeSort (by simp; omega) (by simp; omega) l).imp fun h => of_decide_eq_true h

theorem mem_iff_of_filter_id {l l' : List α} {x : α}
    (h : ∀ i, (l.filter fun x => id x = i) = l'.filter fun x => id x = i) : x ∈ l ↔ x ∈ l' := by
  have hmem : ∀ m : List α, x ∈ m ↔ x ∈ m.filter fun y => id y = id x := by
    intro m
    rw [List.mem_filter]
    exact ⟨fun hx => ⟨hx, decide_eq_true rfl⟩, fun hx => hx.1⟩
  rw [hmem l, hmem l', h]

theorem id_le_of_mem_cons {a b : α} {m : List α} (h : (a :: m).Pairwise fun a b => id a ≤ id b)
    (hb : b ∈ a :: m) : id a ≤ id b := by
  rcases List.mem_cons.1 hb with rfl | hb
  · exact Int.le_refl _
  · exact (List.pairwise_cons.1 h).1 b hb

theorem eq_of_filter_id {l l' : List α} (hl : l.Pairwise fun a b => id a ≤ id b)
    (hl' : l'.Pairwise fun a b => id a ≤ id b)
    (h : ∀ i, (l.filter fun x => id x = i) = l'.filter fun x => id x = i) : l = l' := by
  induction l generalizing l' with
  | nil =>
    refine (List.eq_nil_iff_forall_not_mem.2 fun x hx => ?_).symm
    exact absurd ((mem_iff_of_filter_id h).2 hx) List.not_mem_nil
  | cons x l ih =>
    cases l' with
    | nil => exact absurd ((mem_iff_of_filter_id h).1 List.mem_cons_self) List.not_mem_nil
    | cons y l' =>
      have hxy := id_le_of_mem_cons hl ((mem_iff_of_filter_id h).2 List.mem_cons_self)
      have hyx := id_le_of_mem_cons hl' ((mem_iff_of_filter_id h).1 List.mem_cons_self)
      have hid : id y = id x := Int.le_antisymm hyx hxy
      have hhead := h (id x)
      rw [List.filter_cons_of_pos (by simp), List.filter_cons_of_pos (by simp [hid])] at hhead
      obtain ⟨rfl, -⟩ := List.cons.inj hhead
      congr 1
      refine ih hl.of_cons hl'.of_cons fun i => ?_
      have hi := h i
      rw [List.filter_cons, List.filter_cons] at hi
      split at hi
      · exact (List.cons.inj hi).2
      · exact hi

theorem filter_filterMap_id {β : Type} [Identified β] {f : α → Option β}
    (hf : ∀ a b, f a = some b → id b = id a) (l : List α) (i : Int) :
    ((l.filterMap f).filter fun b => id b = i) = (l.filter fun a => id a = i).filterMap f := by
  rw [List.filter_filterMap, List.filterMap_filter]
  congr 1
  funext a
  cases hfa : f a with
  | none => simp
  | some b => simp [Option.filter, hf a b hfa]

/-- Sorting by id comes before or behind a change that keeps ids and may drop elements. -/
theorem filterMap_mergeSort {β : Type} [Identified β] {f : α → Option β}
    (hf : ∀ a b, f a = some b → id b = id a) (l : List α) :
    (l.mergeSort fun a b => id a ≤ id b).filterMap f =
      (l.filterMap f).mergeSort fun a b => id a ≤ id b := by
  refine eq_of_filter_id (List.pairwise_filterMap.2 ?_) (mergeSort_ascending _) fun i => ?_
  · refine (mergeSort_ascending l).imp fun {a a'} hle b hb b' hb' => ?_
    rw [hf a b hb, hf a' b' hb']
    exact hle
  · rw [filter_filterMap_id hf, filter_mergeSort, filter_mergeSort, filter_filterMap_id hf]

/-- The first candidate of every id, in the order of ids. -/
structure Survivors (candidates survivors : List α) : Prop where
  ascending : survivors.Pairwise fun a b => id a < id b
  first : ∀ e, e ∈ survivors ↔ candidates.find? (fun x => id x = id e) = some e

namespace Survivors
variable {candidates survivors : List α}

theorem of_sorted (candidates : List α) : Survivors candidates
    (splitRepeats [] (candidates.mergeSort fun a b => id a ≤ id b)).1 where
  ascending := by
    have hle := (mergeSort_ascending candidates).sublist (splitRepeats_sublist [] _)
    have hne := List.pairwise_map.1 (splitRepeats_nodup []
      (candidates.mergeSort fun a b => id a ≤ id b))
    exact hle.imp₂ (fun a b hab hn => Int.lt_iff_le_and_ne.2 ⟨hab, hn⟩) hne
  first e := by simp [mem_splitRepeats, find?_mergeSort]

theorem mem_ids (h : Survivors candidates survivors) (i : Int) :
    i ∈ survivors.map id ↔ i ∈ candidates.map id := by
  constructor
  · intro hi
    obtain ⟨e, he, rfl⟩ := List.mem_map.1 hi
    exact List.mem_map_of_mem (List.mem_of_find?_eq_some ((h.first e).1 he))
  · intro hi
    obtain ⟨x, hx, rfl⟩ := List.mem_map.1 hi
    cases hf : candidates.find? fun y => id y = id x with
    | none => exact absurd (decide_eq_true rfl) (List.find?_eq_none.1 hf x hx)
    | some e =>
      have he : id e = id x := by simpa using List.find?_some hf
      exact List.mem_map.2 ⟨e, (h.first e).2 (he ▸ hf), he⟩

end Survivors

theorem nodup_of_ascending {l : List α} (h : l.Pairwise fun a b => id a < id b) : l.Nodup := by
  refine h.imp fun {a b} hlt he => ?_
  rw [he] at hlt
  exact Int.lt_irrefl _ hlt

theorem eq_of_ascending {l l' : List α} (h : l.Pairwise fun a b => id a < id b)
    (h' : l'.Pairwise fun a b => id a < id b) (hm : ∀ e, e ∈ l ↔ e ∈ l') : l = l' := by
  have hp := (List.perm_ext_iff_of_nodup (nodup_of_ascending h) (nodup_of_ascending h')).2 hm
  refine hp.eq_of_pairwise ?_ h h'
  intro a b _ _ hab hba
  exact absurd hab (Int.lt_asymm hba)

theorem Survivors.filter_append {m s s' : List α} {P : α → Bool} (h : Survivors l s)
    (h' : Survivors (l ++ m) s') (hl : ∀ e ∈ l, P e = true) (hm : ∀ e ∈ m, P e = false) :
    s'.filter P = s := by
  refine eq_of_ascending (h'.ascending.filter P) h.ascending fun e => ?_
  rw [List.mem_filter, h'.first, h.first, List.find?_append]
  cases hf : l.find? fun x => id x = id e with
  | some x =>
    constructor
    · exact fun he => he.1
    · intro he
      cases he
      exact ⟨rfl, hl e (List.mem_of_find?_eq_some hf)⟩
  | none =>
    constructor
    · rintro ⟨he, hp⟩
      rw [hm e (List.mem_of_find?_eq_some he)] at hp
      cases hp
    · exact fun he => nomatch he

end Worldsmith.Identified
