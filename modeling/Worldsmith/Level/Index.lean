namespace Worldsmith

/-- Zero-based episode and map. -/
structure LevelIndex where
  episode : Nat
  map : Nat
  deriving DecidableEq, Repr, Inhabited

namespace LevelIndex

/-- By episode, and inside an episode by map. -/
instance : Ord LevelIndex := ⟨compareLex (compareOn episode) (compareOn map)⟩

instance : Std.TransOrd LevelIndex :=
  inferInstanceAs (Std.TransCmp (compareLex (compareOn episode) (compareOn map)))

instance : Std.LawfulEqOrd LevelIndex where
  eq_of_compare {a b} h := by
    have h : (compare a.episode b.episode).then (compare a.map b.map) = .eq := h
    rw [Ordering.then_eq_eq] at h
    cases a; cases b
    simpa [Std.compare_eq_iff_eq] using h

/-- The one-based pair that documents use. -/
def exmx (l : LevelIndex) : Nat × Nat := (l.episode + 1, l.map + 1)

def toString (l : LevelIndex) : String :=
  "Episode " ++ Nat.repr (l.episode + 1) ++ " Map " ++ Nat.repr (l.map + 1)

instance : ToString LevelIndex := ⟨LevelIndex.toString⟩

end LevelIndex

end Worldsmith
