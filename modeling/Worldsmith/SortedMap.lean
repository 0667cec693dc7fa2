/-!
Finite maps kept as a list of entries in strictly ascending key order. Two maps that hold the same
entries are equal, and a later entry for a key replaces the earlier one.
-/

namespace Worldsmith

universe u v w

structure SortedMap (κ : Type u) (α : Type v) [Ord κ] where
  entries : List (κ × α)
  ascending : entries.Pairwise fun a b => compare a.1 b.1 = .lt

namespace SortedMap

variable {κ : Type u} {α : Type v} {β : Type w} [Ord κ]

@[ext] theorem ext {m n : SortedMap κ α} (h : m.entries = n.entries) : m = n := by
  cases m; cases n; cases h; rfl

def empty : SortedMap κ α := ⟨[], .nil⟩

instance : Inhabited (SortedMap κ α) := ⟨empty⟩

instance : EmptyCollection (SortedMap κ α) := ⟨empty⟩

/-- Places an entry before the first larger key, over an entry for the same key. -/
def insertEntry (k : κ) (a : α) : List (κ × α) → List (κ × α)
  | [] => [(k, a)]
  | (k', a') :: rest =>
    match compare k k' with
    | .lt => (k, a) :: (k', a') :: rest
    | .eq => (k, a) :: rest
    | .gt => (k', a') :: insertEntry k a rest

theorem mem_of_mem_insertEntry {k : κ} {a : α} {e : κ × α} {l : List (κ × α)}
    (h : e ∈ insertEntry k a l) : e = (k, a) ∨ e ∈ l := by
  induction l with
  | nil => simpa [insertEntry] using h
  | cons x rest ih =>
    obtain ⟨k', a'⟩ := x
    rw [insertEntry] at h
    split at h
    · simpa using h
    · rcases List.mem_cons.mp h with h | h
      · exact .inl h
      · exact .inr (List.mem_cons_of_mem _ h)
    · rcases List.mem_cons.mp h with h | h
      · exact .inr (h ▸ List.mem_cons_self)
      · exact (ih h).imp_right (List.mem_cons_of_mem _)

section Ordered
variable [Std.TransOrd κ] [Std.LawfulEqOrd κ]

theorem pairwise_insertEntry (k : κ) (a : α) {l : List (κ × α)}
    (h : l.Pairwise fun x y => compare x.1 y.1 = .lt) :
    (insertEntry k a l).Pairwise fun x y => compare x.1 y.1 = .lt := by
  induction l with
  | nil => simp [insertEntry]
  | cons x rest ih =>
    obtain ⟨k', a'⟩ := x
    have hx := List.pairwise_cons.mp h
    rw [insertEntry]
    split
    · next hk =>
      refine List.pairwise_cons.mpr ⟨fun y hy => ?_, h⟩
      rcases List.mem_cons.mp hy with rfl | hy
      · exact hk
      · exact Std.TransCmp.lt_trans hk (hx.1 y hy)
    · next hk =>
      rw [Std.LawfulEqCmp.eq_of_compare hk]
      exact List.pairwise_cons.mpr ⟨hx.1, hx.2⟩
    · next hk =>
      refine List.pairwise_cons.mpr ⟨fun y hy => ?_, ih hx.2⟩
      rcases mem_of_mem_insertEntry hy with rfl | hy
      · exact Std.OrientedCmp.lt_of_gt hk
      · exact hx.1 y hy

def insert (m : SortedMap κ α) (k : κ) (a : α) : SortedMap κ α :=
  ⟨insertEntry k a m.entries, pairwise_insertEntry k a m.ascending⟩

/-- The last entry of a repeated key stays. -/
def ofList (l : List (κ × α)) : SortedMap κ α :=
  l.foldl (fun m e => m.insert e.1 e.2) empty

end Ordered

def get? (m : SortedMap κ α) (k : κ) : Option α :=
  (m.entries.find? fun e => compare k e.1 == .eq).map (·.2)

def contains (m : SortedMap κ α) (k : κ) : Bool := (m.get? k).isSome

def isEmpty (m : SortedMap κ α) : Bool := m.entries.isEmpty

def keys (m : SortedMap κ α) : List κ := m.entries.map (·.1)

def values (m : SortedMap κ α) : List α := m.entries.map (·.2)

def map (f : κ → α → β) (m : SortedMap κ α) : SortedMap κ β :=
  ⟨m.entries.map fun e => (e.1, f e.1 e.2), by
    simpa [List.pairwise_map] using m.ascending⟩

def filter (p : κ → α → Bool) (m : SortedMap κ α) : SortedMap κ α :=
  ⟨m.entries.filter fun e => p e.1 e.2, m.ascending.filter _⟩

end SortedMap

abbrev SortedSet (κ : Type u) [Ord κ] := SortedMap κ Unit

namespace SortedSet

variable {κ : Type u} [Ord κ]

def toList (s : SortedSet κ) : List κ := s.keys

variable [Std.TransOrd κ] [Std.LawfulEqOrd κ]

def add (s : SortedSet κ) (k : κ) : SortedSet κ := s.insert k ()

def ofList (l : List κ) : SortedSet κ := l.foldl add .empty

end SortedSet

end Worldsmith
