namespace Worldsmith

/-- A number that a 64-bit integer can have. -/
def IsInt64 (n : Int) : Prop := -0x8000000000000000 ≤ n ∧ n < 0x8000000000000000

instance (n : Int) : Decidable (IsInt64 n) := inferInstanceAs (Decidable (_ ∧ _))

/-- The 64-bit integer that an exact result leaves, in two's complement. -/
def word (n : Int) : Int := n.bmod 0x10000000000000000

theorem IsInt64.word_eq {n : Int} (h : IsInt64 n) : word n = n := by
  obtain ⟨hlow, hhigh⟩ := h
  exact Int.bmod_eq_of_le_mul_two (by omega) (by omega)

end Worldsmith
