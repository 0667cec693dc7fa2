import Mathlib.Data.Finset.Card
import Mathlib.Data.List.Perm.Subperm
import Mathlib.Data.List.Nodup
import Mathlib.Order.Bounds.Basic
import Std.Data.String.ToNat
import Worldsmith.Catalog.Naming

namespace Worldsmith

variable {extended : Bool} {base description : String}

theorem numbered_injective (base : String) :
    Function.Injective fun n : Nat => if n = 1 then base else base ++ " " ++ Nat.repr n := by
  have hne (n : Nat) : base ≠ base ++ " " ++ Nat.repr n := by
    intro h
    have hlength := congrArg String.length h
    rw [String.length_append, String.length_append] at hlength
    have hblank : (" " : String).length = 1 := rfl
    omega
  intro n m h
  change (if n = 1 then base else _) = if m = 1 then base else _ at h
  split at h
  · next hn =>
    split at h
    · next hm => exact hn.trans hm.symm
    · exact absurd h (hne m)
  · split at h
    · exact absurd h.symm (hne n)
    · exact Nat.repr_injective ((String.append_right_inj _).1 h)

theorem nameCandidate_injective (extended : Bool) (base description : String) :
    Function.Injective (nameCandidate extended base description) := by
  intro n m h
  apply numbered_injective base
  rw [nameCandidate, nameCandidate] at h
  split at h
  · rw [String.append_left_inj, String.append_left_inj, String.append_left_inj] at h
    exact h
  · exact h

/-- Of pairwise different candidates one more than there are taken names is not taken. -/
theorem exists_free {candidate : Nat → String} (hinj : Function.Injective candidate)
    (taken : List String) (first : Nat) :
    ∃ k ≤ taken.length, candidate (first + k) ∉ taken := by
  by_contra hall
  have hsub : (List.range (taken.length + 1)).map (fun k => candidate (first + k)) ⊆ taken := by
    intro name hname
    obtain ⟨k, hk, rfl⟩ := List.mem_map.1 hname
    by_contra hfree
    exact hall ⟨k, Nat.le_of_lt_succ (List.mem_range.1 hk), hfree⟩
  have hnodup : ((List.range (taken.length + 1)).map fun k => candidate (first + k)).Nodup := by
    apply List.nodup_range.map
    intro i j h
    exact Nat.add_left_cancel (hinj h)
  have hle := (hnodup.subperm hsub).length_le
  rw [List.length_map, List.length_range] at hle
  omega

/-- The search stops at the first free candidate, or at the last one it may try. -/
theorem firstFreeName_eq (candidate : Nat → String) (isTaken : String → Bool) (fuel first : Nat) :
    ∃ k ≤ fuel, firstFreeName candidate isTaken fuel first = candidate (first + k) ∧
      (∀ i < k, isTaken (candidate (first + i)) = true) ∧
      (k < fuel → isTaken (candidate (first + k)) = false) := by
  induction fuel generalizing first with
  | zero => exact ⟨0, Nat.le_refl 0, rfl, by simp, by simp⟩
  | succ fuel ih =>
    rw [firstFreeName]
    split
    · next htaken =>
      obtain ⟨k, hk, hname, hbefore, hfree⟩ := ih (first + 1)
      refine ⟨k + 1, by omega, ?_, ?_, ?_⟩
      · rw [hname, Nat.add_assoc, Nat.add_comm 1]
      · intro i hi
        cases i with
        | zero => exact htaken
        | succ i =>
          have h := hbefore i (by omega)
          rwa [Nat.add_assoc, Nat.add_comm 1] at h
      · intro hlt
        have h := hfree (by omega)
        rwa [Nat.add_assoc, Nat.add_comm 1] at h
    · next htaken =>
      exact ⟨0, Nat.zero_le _, rfl, by simp, fun _ => Bool.eq_false_iff.2 htaken⟩

theorem uniqueName_eq (extended : Bool) (base description : String) (taken : List String) :
    ∃ k ≤ taken.length,
      uniqueName extended base description taken = nameCandidate extended base description (1 + k) ∧
      nameCandidate extended base description (1 + k) ∉ taken ∧
      ∀ i < k, nameCandidate extended base description (1 + i) ∈ taken := by
  obtain ⟨k, hk, hname, hbefore, hfree⟩ :=
    firstFreeName_eq (nameCandidate extended base description) taken.contains taken.length 1
  obtain ⟨j, hj, hnotMem⟩ := exists_free (nameCandidate_injective extended base description) taken 1
  have hkj : k ≤ j := by
    by_contra hlt
    exact hnotMem (List.contains_iff_mem.1 (hbefore j (by omega)))
  refine ⟨k, hk, ?_, ?_, ?_⟩
  · rw [uniqueName_eq_firstFreeName, hname]
  · rcases Nat.lt_or_eq_of_le hk with hlt | hend
    · intro hmem
      have h := hfree hlt
      rw [List.contains_iff_mem.2 hmem] at h
      cases h
    · -- All candidates but the last one are taken, and one of them all is free.
      have hlast : j = k := by omega
      exact hlast ▸ hnotMem
  · intro i hi
    exact List.contains_iff_mem.1 (hbefore i hi)

theorem uniqueName_notMem (extended : Bool) (base description : String) (taken : List String) :
    uniqueName extended base description taken ∉ taken := by
  obtain ⟨k, -, hname, hfree, -⟩ := uniqueName_eq extended base description taken
  rw [hname]
  exact hfree

/-- The search as a loop without a bound. From the `n`-th candidate on it tries one after another
and ends at the first that is not taken, with this name and the number of those that it tried. -/
inductive Search (candidate : Nat → String) (taken : List String) : Nat → Nat → String → Prop
  | free {n : Nat} (h : candidate n ∉ taken) : Search candidate taken n 1 (candidate n)
  | taken {n tried : Nat} {name : String} (h : candidate n ∈ taken)
    (rest : Search candidate taken (n + 1) tried name) : Search candidate taken n (tried + 1) name

namespace Search

variable {candidate : Nat → String} {taken : List String} {n k tried : Nat} {name : String}

theorem of_free (hfree : candidate (n + k) ∉ taken) (hbefore : ∀ i < k, candidate (n + i) ∈ taken) :
    Search candidate taken n (k + 1) (candidate (n + k)) := by
  induction k generalizing n with
  | zero => exact .free hfree
  | succ k ih =>
    have hnext (i : Nat) : n + 1 + i = n + (i + 1) := by omega
    apply Search.taken (hbefore 0 (Nat.succ_pos k))
    rw [← hnext k] at hfree ⊢
    apply ih hfree
    intro i hi
    rw [hnext i]
    exact hbefore (i + 1) (Nat.succ_lt_succ hi)

theorem unique {tried' : Nat} {name' : String} (h : Search candidate taken n tried name)
    (h' : Search candidate taken n tried' name') : tried = tried' ∧ name = name' := by
  induction h generalizing tried' with
  | free hfree =>
    cases h' with
    | free => exact ⟨rfl, rfl⟩
    | taken htaken => exact absurd htaken hfree
  | taken htaken _ ih =>
    cases h' with
    | free hfree => exact absurd htaken hfree
    | taken _ hrest =>
      obtain ⟨rfl, rfl⟩ := ih hrest
      exact ⟨rfl, rfl⟩

theorem iff_of_free (hfree : candidate (n + k) ∉ taken)
    (hbefore : ∀ i < k, candidate (n + i) ∈ taken) :
    Search candidate taken n tried name ↔ tried = k + 1 ∧ name = candidate (n + k) := by
  have hsearch := of_free hfree hbefore
  constructor
  · exact fun h => h.unique hsearch
  · rintro ⟨rfl, rfl⟩
    exact hsearch

end Search

theorem isLeast_of_free {candidate : Nat → String} {taken : List String} {n k : Nat}
    (hfree : candidate (n + k) ∉ taken) (hbefore : ∀ i < k, candidate (n + i) ∈ taken) :
    IsLeast {m | n ≤ m ∧ candidate m ∉ taken} (n + k) := by
  refine ⟨⟨Nat.le_add_right n k, hfree⟩, ?_⟩
  rintro m ⟨hm, hmfree⟩
  by_contra hlt
  apply hmfree
  have htaken := hbefore (m - n) (by omega)
  rwa [Nat.add_sub_cancel' hm] at htaken

theorem le_card_of_taken {candidate : Nat → String} (hinj : Function.Injective candidate)
    {taken : List String} {k : Nat} (h : ∀ i < k, candidate (1 + i) ∈ taken) :
    k ≤ taken.toFinset.card := by
  have hcard := Finset.card_le_card_of_injOn (s := Finset.range k) (t := taken.toFinset)
    (fun i => candidate (1 + i))
    (fun i hi => List.mem_toFinset.2 (h i (Finset.mem_range.1 hi)))
    (fun i _ j _ hij => Nat.add_left_cancel (hinj hij))
  rwa [Finset.card_range] at hcard

def nameEnding (extended : Bool) (description : String) : String :=
  if extended && !description.isEmpty then " (" ++ description ++ ")" else ""

theorem nameCandidate_eq (n : Nat) : nameCandidate extended base description n =
    (if n = 1 then base else base ++ " " ++ Nat.repr n) ++ nameEnding extended description := by
  rw [nameCandidate, nameEnding]
  split
  · simp only [String.append_assoc]
  · rw [String.append_empty]

theorem nameCandidate_numbered {n : Nat} (hn : 2 ≤ n) : nameCandidate extended base description n =
    base ++ " " ++ Nat.repr n ++ nameEnding extended description := by
  have hne : n ≠ 1 := by omega
  exact (nameCandidate_eq n).trans (congrArg (· ++ nameEnding extended description) (if_neg hne))

/-- The search for a name ends, after at most one candidate more than there are taken names, and
with the first one that is free. -/
theorem uniqueName_search (extended : Bool) (base description : String) (taken : List String) :
    let candidate := nameCandidate extended base description
    let ending := nameEnding extended description
    candidate 1 = base ++ ending ∧
      (∀ n, 2 ≤ n → candidate n = base ++ " " ++ Nat.repr n ++ ending) ∧
      ∃ first, IsLeast {n | 1 ≤ n ∧ candidate n ∉ taken} first ∧
        first ≤ taken.toFinset.card + 1 ∧
        (∀ tried name, Search candidate taken 1 tried name ↔
          tried = first ∧ name = candidate first) ∧
        uniqueName extended base description taken = candidate first ∧
        uniqueName extended base description taken ∉ taken := by
  intro candidate ending
  obtain ⟨k, -, hname, hfree, hbefore⟩ := uniqueName_eq extended base description taken
  have hcard : k ≤ taken.toFinset.card :=
    le_card_of_taken (nameCandidate_injective extended base description) hbefore
  have hleast : IsLeast {n | 1 ≤ n ∧ candidate n ∉ taken} (1 + k) := isLeast_of_free hfree hbefore
  have hends : ∀ tried name, Search candidate taken 1 tried name ↔
      tried = k + 1 ∧ name = candidate (1 + k) := fun _ _ => Search.iff_of_free hfree hbefore
  rw [Nat.add_comm 1 k] at hname hfree hleast hends
  exact ⟨nameCandidate_eq 1, fun n hn => nameCandidate_numbered hn, k + 1, hleast,
    Nat.succ_le_succ hcard, hends, hname, hname ▸ hfree⟩

end Worldsmith
