import Mathlib.Data.List.Perm.Basic
import Std.Data.String.ToNat
import Worldsmith.Json.Decode
import Worldsmith.Proofs.Json.Object
import Worldsmith.Proofs.Json.Reading
import Worldsmith.Proofs.Outcome

namespace Worldsmith.Json

variable {α β : Type} {n : Nat} {a : α} {j : Json} {read : Reader α} {write : α → Json}

/-- A plain value that is read as `a` from every draft of it. -/
structure Reads (n : Nat) (read : Reader α) (a : α) (j : Json) : Prop where
  plain : Plain n j
  read_eq : ∀ d, Holds j d → read d = .ok a

/-- What is written of a value that was read is read as that value. -/
def RoundTrips (n : Nat) (read : Reader α) (write : α → Json) : Prop :=
  ∀ d a, read d = .ok a → Reads n read a (write a)

theorem Reads.map (h : Reads n read a j) (f : α → β) :
    Reads n (fun d => (read d).map f) (f a) j := by
  apply Reads.mk h.plain
  intro d hd
  rw [h.read_eq d hd]
  rfl

namespace Reader

theorem reads_bool (b : Bool) : Reads n bool b (.bool b) := by
  apply Reads.mk (.bool b)
  intro d hd
  cases hd
  rfl

theorem reads_string (s : String) : Reads n string s (.str s) := by
  apply Reads.mk (.str s)
  intro d hd
  cases hd
  rfl

theorem reads_integer {type : String} {lo hi z : Int} (hlo : lo ≤ z) (hhi : z ≤ hi) (hz : Exact z) :
    Reads n (integer type lo hi) z (.int z) := by
  apply Reads.mk (.int hz)
  intro d hd
  cases hd
  exact if_pos ⟨hlo, hhi⟩

theorem bool_roundTrips : RoundTrips n bool .bool := by
  intro d b _
  exact reads_bool b

theorem string_roundTrips : RoundTrips n string .str := by
  intro d s _
  exact reads_string s

theorem integer_bounds {type : String} {lo hi z : Int} {d : Draft}
    (h : integer type lo hi d = .ok z) : lo ≤ z ∧ z ≤ hi := by
  rw [integer.eq_def] at h
  split at h
  · split at h
    · next hz =>
      cases h
      exact hz
    · cases h
  · cases h

theorem integer_roundTrips {type : String} {lo hi : Int} (hlo : -0x8000000000000000 ≤ lo)
    (hhi : hi ≤ 0xFFFFFFFFFFFFFFFF) : RoundTrips n (integer type lo hi) .int := by
  intro d z h
  obtain ⟨hz, hz'⟩ := integer_bounds h
  exact reads_integer hz hz' ⟨Int.le_trans hlo hz, Int.le_trans hz' hhi⟩

theorem int16_roundTrips : RoundTrips n int16 .int := integer_roundTrips (by decide) (by decide)

theorem int32_roundTrips : RoundTrips n int32 .int := integer_roundTrips (by decide) (by decide)

theorem int64_roundTrips : RoundTrips n int64 .int := integer_roundTrips (by decide) (by decide)

theorem size_roundTrips : RoundTrips n size fun k => .int k := by
  intro d k h
  obtain ⟨z, hz, rfl⟩ := exists_ok_of_map h
  have hcast : (z.toNat : Int) = z := Int.toNat_of_nonneg (integer_bounds hz).1
  have hreads : Reads n size z.toNat (.int z) :=
    (integer_roundTrips (by decide) (by decide) d z hz).map Int.toNat
  rw [← hcast] at hreads
  exact hreads

theorem mapM_eq_ok {items : List Draft} {l : List α} (h : ∀ a ∈ l, Reads n read a (write a))
    (hitems : List.Forall₂ Holds (l.map write) items) : items.mapM read = .ok l := by
  induction l generalizing items with
  | nil =>
    cases hitems
    rfl
  | cons a l ih =>
    rw [List.forall_mem_cons] at h
    cases hitems with
    | cons hitem hitems =>
      rw [List.mapM_cons, h.1.read_eq _ hitem, ih h.2 hitems]
      rfl

theorem plain_list {l : List α} (h : ∀ a ∈ l, Reads n read a (write a)) :
    Plain (n + 1) (.arr (l.map write)) := by
  apply Plain.arr
  intro x hx
  obtain ⟨a, ha, rfl⟩ := List.mem_map.1 hx
  exact (h a ha).plain

theorem reads_list {l : List α} (h : ∀ a ∈ l, Reads n read a (write a)) :
    Reads (n + 1) (list read) l (.arr (l.map write)) := by
  apply Reads.mk (plain_list h)
  intro d hd
  cases hd with
  | arr hitems hending =>
    rw [list, mapM_eq_ok h hitems, hending.more]
    rfl

theorem reads_array {l : List α} (h : ∀ a ∈ l, Reads n read a (write a)) :
    Reads (n + 1) (array l.length read) l (.arr (l.map write)) := by
  apply Reads.mk (plain_list h)
  intro d hd
  cases hd with
  | @arr _ items ending hitems hending =>
    have hlength : items.length = l.length := by rw [← hitems.length_eq, List.length_map]
    rw [array, ← hlength, List.take_length, mapM_eq_ok h hitems]
    simp [hending.enough]
    rfl

theorem exists_read_of_mapM {items : List Draft} {l : List α} (h : items.mapM read = .ok l) :
    ∀ a ∈ l, ∃ d, read d = .ok a := by
  induction items generalizing l with
  | nil =>
    cases h
    exact List.forall_mem_nil _
  | cons d items ih =>
    rw [List.mapM_cons] at h
    obtain ⟨a, ha, h⟩ := exists_ok_of_bind h
    obtain ⟨l, hl, h⟩ := exists_ok_of_bind h
    cases h
    exact List.forall_mem_cons.2 ⟨⟨d, ha⟩, ih hl⟩

theorem exists_read_of_list {d : Draft} {l : List α} (h : list read d = .ok l) :
    ∀ a ∈ l, ∃ d, read d = .ok a := by
  rw [list.eq_def] at h
  split at h
  · obtain ⟨l', hl, h⟩ := exists_ok_of_bind h
    obtain ⟨_, _, h⟩ := exists_ok_of_bind h
    cases h
    exact exists_read_of_mapM hl
  · cases h

theorem exists_read_of_array {k : Nat} {d : Draft} {l : List α} (h : array k read d = .ok l) :
    ∀ a ∈ l, ∃ d, read d = .ok a := by
  rw [array.eq_def] at h
  split at h
  · obtain ⟨l', hl, h⟩ := exists_ok_of_bind h
    dsimp only at h
    split at h
    · obtain ⟨_, _, h⟩ := exists_ok_of_bind h
      cases h
    · split at h
      · cases h
      · obtain ⟨_, _, h⟩ := exists_ok_of_bind h
        cases h
        exact exists_read_of_mapM hl
  · cases h

theorem list_roundTrips (h : RoundTrips n read write) :
    RoundTrips (n + 1) (list read) fun l => .arr (l.map write) := by
  intro d l hl
  apply reads_list
  intro a ha
  obtain ⟨d, hd⟩ := exists_read_of_list hl a ha
  exact h d a hd

/-- A set is written in ascending order. -/
theorem set_roundTrips :
    RoundTrips (n + 1) (fun d => (list size d).map SortedSet.ofList)
      fun s => .arr (s.toList.map fun (k : Nat) => .int k) := by
  intro d s h
  obtain ⟨l, hl, rfl⟩ := exists_ok_of_map h
  have hreads : ∀ k ∈ (SortedSet.ofList l).toList, Reads n size k (.int k) := by
    intro k hk
    obtain ⟨d, hd⟩ := exists_read_of_list hl k (SortedSet.mem_of_mem_toList_ofList hk)
    exact size_roundTrips d k hd
  have hmap := (reads_list hreads).map SortedSet.ofList
  rw [SortedSet.ofList_toList] at hmap
  exact hmap

theorem exists_read_of_entries {κ : Type} {key : Key → Except Fault κ} {es : List (Key × Draft)}
    {l : List (κ × α)} (h : entries key read es = .ok l) :
    ∀ e ∈ l, (∃ k, key k = .ok e.1) ∧ ∃ d, read d = .ok e.2 := by
  induction es generalizing l with
  | nil =>
    cases h
    exact List.forall_mem_nil _
  | cons e es ih =>
    obtain ⟨k, hk, h⟩ := exists_ok_of_bind h
    obtain ⟨a, ha, h⟩ := exists_ok_of_bind h
    obtain ⟨l, hl, h⟩ := exists_ok_of_bind h
    cases h
    exact List.forall_mem_cons.2 ⟨⟨⟨_, hk⟩, ⟨_, ha⟩⟩, ih hl⟩

theorem integerKey_repr {type : String} {lo hi : Int} {key : Key} {k : Nat} (hlo : lo ≤ k)
    (hhi : (k : Int) ≤ hi) (hk : k < UInt64.size) (h : key.Names (Nat.repr k)) :
    integerKey type lo hi key = .ok k := by
  have hdigits : ∀ c ∈ (Nat.repr k).toList, c.isDigit = true := by
    intro c hc
    rw [Nat.toList_repr] at hc
    exact isDigit_of_mem_toDigits hc
  have hend (rest : List Char) : EndsNumber ('"' :: rest) := by
    intro c hc
    cases hc
    decide
  obtain ⟨rest, hraw⟩ := h.raw hdigits
  have hread := readNumber_repr hk (hend rest)
  rw [← hraw] at hread
  obtain ⟨c, cs, htext, hc⟩ := exists_toDigits_cons k
  rw [Nat.toList_repr, htext, List.cons_append] at hraw
  have hint : integer type lo hi (.num (.ok (.int k))) = .ok k := if_pos ⟨hlo, hhi⟩
  simp only [integerKey, hraw, hc, or_true, if_true]
  rw [← hraw, hread]
  simp only [hint]
  rfl

theorem integerKey_bounds {type : String} {lo hi z : Int} {key : Key}
    (h : integerKey type lo hi key = .ok z) : lo ≤ z ∧ z ≤ hi := by
  rw [integerKey.eq_def] at h
  split at h
  · cases h
  · split at h
    · obtain ⟨z', hz, h⟩ := exists_ok_of_bind h
      split at h
      · cases h
        exact integer_bounds hz
      · cases h
    · cases h

theorem entries_eq_ok {κ : Type} {key : Key → Except Fault κ} {name : κ → String}
    {l : List (κ × α)} {es : List (Key × Draft)}
    (hkey : ∀ e ∈ l, ∀ k : Key, k.Names (name e.1) → key k = .ok e.1)
    (hread : ∀ e ∈ l, Reads n read e.2 (write e.2))
    (h : List.Forall₂ HoldsField (l.map fun e => (name e.1, write e.2)) es) :
    entries key read es = .ok l := by
  induction l generalizing es with
  | nil =>
    cases h
    rfl
  | cons e l ih =>
    rw [List.forall_mem_cons] at hkey hread
    cases h with
    | cons he hes =>
      rw [entries, hkey.1 _ he.1, hread.1.read_eq _ he.2, ih hkey.2 hread.2 hes]
      rfl

theorem reads_sizeMap {m : SortedMap Nat α} (hk : ∀ e ∈ m.entries, e.1 < UInt64.size)
    (h : ∀ e ∈ m.entries, Reads n read e.2 (write e.2)) :
    Reads (n + 1) (sizeMap read) m
      (.object (m.entries.map fun e => (Nat.repr e.1, write e.2))) := by
  have hnames : ((m.entries.map fun e => (Nat.repr e.1, write e.2)).map Prod.fst).Nodup := by
    have hkeys := m.keys_nodup.map fun _ _ => Nat.repr_injective
    rw [SortedMap.keys, List.map_map] at hkeys
    rw [List.map_map]
    exact hkeys
  have hperm := SortedMap.entries_ofList_perm hnames
  apply Reads.mk
  · apply Plain.obj
    intro f hf
    obtain ⟨e, he, rfl⟩ := List.mem_map.1 (hperm.mem_iff.1 hf)
    exact (h e he).plain
  · intro d hd
    obtain ⟨es, ending, fs, rfl, hfs, hes, hending⟩ := hd.fields
    -- The entries in the order in which they stand in the draft.
    obtain ⟨l, rfl, hl⟩ : ∃ l : List (Nat × α),
        fs = l.map (fun e => (Nat.repr e.1, write e.2)) ∧ l.Perm m.entries :=
      (congrFun₂ (List.eq_map_comp_perm _) fs m.entries).mpr (hfs.symm.trans hperm)
    have hentries : entries (fun k => (integerKey "usize" 0 0xFFFFFFFFFFFFFFFF k).map Int.toNat)
        read es = .ok l := by
      apply entries_eq_ok _ (fun e he => h e (hl.mem_iff.1 he)) hes
      intro e he k hname
      have hlt := hk e (hl.mem_iff.1 he)
      have hle : (e.1 : Int) ≤ 0xFFFFFFFFFFFFFFFF := by
        simp only [UInt64.size] at hlt
        omega
      rw [integerKey_repr (Int.natCast_nonneg _) hle hlt hname]
      rfl
    rw [sizeMap, map, hentries]
    simp only [hending.more]
    exact congrArg Except.ok (SortedMap.ofList_of_perm hl)

theorem sizeMap_roundTrips (h : RoundTrips n read write) :
    RoundTrips (n + 1) (sizeMap read) fun m =>
      .object (m.entries.map fun e => (Nat.repr e.1, write e.2)) := by
  intro d m hm
  rw [sizeMap, map.eq_def] at hm
  split at hm
  · obtain ⟨l, hl, hm⟩ := exists_ok_of_bind hm
    obtain ⟨_, _, hm⟩ := exists_ok_of_bind hm
    cases hm
    have hread := exists_read_of_entries hl
    apply reads_sizeMap
    · intro e he
      obtain ⟨⟨k, hk⟩, -⟩ := hread e (SortedMap.mem_of_mem_ofList he)
      obtain ⟨z, hz, hke⟩ := exists_ok_of_map hk
      have hbounds := integerKey_bounds hz
      simp only [UInt64.size]
      omega
    · intro e he
      obtain ⟨-, d, hd⟩ := hread e (SortedMap.mem_of_mem_ofList he)
      exact h d e.2 hd
  · cases hm

end Reader

end Worldsmith.Json
