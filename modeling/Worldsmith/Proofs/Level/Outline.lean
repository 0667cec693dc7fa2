import Mathlib.Data.List.Rotate
import Mathlib.Tactic.Ring
import Worldsmith.Level.Sector

namespace Worldsmith

/-- Twice the signed area of a triangle. It is positive if `p` lies to the left of the line from `a`
to `b`. -/
def turn (a b p : Point) : Int := (b.x - a.x) * (p.y - a.y) - (b.y - a.y) * (p.x - a.x)

theorem turn_swap (a b p : Point) : turn b a p = -turn a b p := by
  rw [turn, turn]
  ring

namespace Sector

variable {p a b : Point} {vertices : List Point}

/-- An edge that starts at the height of a point or below it and ends above it. -/
def Rises (p a b : Point) : Prop := a.y ≤ p.y ∧ p.y < b.y

instance : Decidable (Rises p a b) := inferInstanceAs (Decidable (_ ∧ _))

/-- A ray crosses a rising edge from its left and a falling edge from its right. -/
theorem crosses_iff_turn :
    crosses p a b = true ↔ Rises p a b ∧ 0 < turn a b p ∨ Rises p b a ∧ turn a b p < 0 := by
  have hturn : (p.x - b.x) * (a.y - b.y) = (a.x - b.x) * (p.y - b.y) + turn a b p := by
    rw [turn]
    ring
  rw [crosses, hturn, Rises, Rises]
  simp only [Bool.and_eq_true, Bool.or_eq_true, bne_iff_ne, decide_eq_true_eq, ne_eq,
    decide_eq_decide]
  omega

theorem crosses_comm (p a b : Point) : crosses p b a = crosses p a b := by
  rw [Bool.eq_iff_iff, crosses_iff_turn, crosses_iff_turn, turn_swap, neg_pos, neg_lt_zero,
    or_comm]

theorem chain_append (front : List Point) (a : Point) (rest : List Point) :
    chain (front ++ a :: rest) = chain (front ++ [a]) ++ chain (a :: rest) := by
  induction front with
  | nil => rfl
  | cons b front ih =>
    cases front with
    | nil => rfl
    | cons c front => exact congrArg ((b, c) :: ·) ih

/-- An outline is the walk from its first vertex through all others back to it. -/
theorem edges_perm (a : Point) (rest : List Point) :
    (edges (a :: rest)).Perm (chain (a :: rest ++ [a])) := by
  rcases List.eq_nil_or_concat' rest with rfl | ⟨rest, z, rfl⟩
  · exact .refl _
  · have hlast : (a :: (rest ++ [z])).getLast (List.cons_ne_nil _ _) = z :=
      List.getLast_append_singleton (a :: rest)
    have hedges : edges (a :: (rest ++ [z])) = (z, a) :: chain (a :: rest ++ [z]) :=
      congrArg (fun last => chain (last :: a :: (rest ++ [z]))) hlast
    have hwalk : chain (a :: (rest ++ [z]) ++ [a]) = chain (a :: rest ++ [z]) ++ [(z, a)] := by
      rw [← List.cons_append, List.append_assoc]
      exact chain_append (a :: rest) z [a]
    rw [hedges, hwalk]
    exact (List.perm_append_singleton _ _).symm

theorem edges_append_perm (a : Point) (vs : List Point) (b : Point) (ws : List Point) :
    (edges (a :: vs ++ b :: ws)).Perm (chain (a :: vs ++ [b]) ++ chain (b :: ws ++ [a])) := by
  have hwalk := chain_append (a :: vs) b (ws ++ [a])
  rw [← List.cons_append, ← List.append_assoc] at hwalk
  exact hwalk ▸ edges_perm a (vs ++ b :: ws)

theorem edges_append_comm (front rest : List Point) :
    (edges (rest ++ front)).Perm (edges (front ++ rest)) := by
  cases front with
  | nil => rw [List.append_nil, List.nil_append]
  | cons a front =>
    cases rest with
    | nil => rw [List.append_nil, List.nil_append]
    | cons b rest =>
      have hcomm : (chain (b :: rest ++ [a]) ++ chain (a :: front ++ [b])).Perm
          (chain (a :: front ++ [b]) ++ chain (b :: rest ++ [a])) := List.perm_append_comm
      exact (edges_append_perm b rest a front).trans
        (hcomm.trans (edges_append_perm a front b rest).symm)

theorem edges_rotate_perm (vertices : List Point) (n : Nat) :
    (edges (vertices.rotate n)).Perm (edges vertices) := by
  have h := edges_append_comm (vertices.take (n % vertices.length))
    (vertices.drop (n % vertices.length))
  rwa [List.take_append_drop, ← List.rotate_eq_drop_append_take_mod] at h

theorem chain_reverse (vertices : List Point) :
    chain vertices.reverse = ((chain vertices).map Prod.swap).reverse := by
  induction vertices with
  | nil => rfl
  | cons a rest ih =>
    cases rest with
    | nil => rfl
    | cons b rest =>
      have hends : (a :: b :: rest).reverse = rest.reverse ++ b :: [a] := by simp
      rw [hends, chain_append, ← List.reverse_cons, ih]
      simp [chain]

theorem edges_reverse_perm (vertices : List Point) :
    (edges vertices.reverse).Perm ((edges vertices).map Prod.swap) := by
  cases vertices with
  | nil => exact .refl _
  | cons a rest =>
    have hwalk : a :: rest.reverse ++ [a] = (a :: rest ++ [a]).reverse := by simp
    have hstart := edges_append_comm [a] rest.reverse
    rw [← List.reverse_cons] at hstart
    have hback := hstart.trans (edges_perm a rest.reverse)
    rw [hwalk, chain_reverse] at hback
    exact (hback.trans (List.reverse_perm _)).trans ((edges_perm a rest).symm.map _)

theorem crossings_congr {vertices' : List Point} (h : (edges vertices').Perm (edges vertices)) :
    crossings p vertices' = crossings p vertices := h.countP_eq _

theorem crossings_reverse (p : Point) (vertices : List Point) :
    crossings p vertices.reverse = crossings p vertices := by
  rw [crossings, (edges_reverse_perm vertices).countP_eq, List.countP_map]
  exact List.countP_congr fun e _ => by rw [Function.comp_apply, Prod.fst_swap, Prod.snd_swap,
    crosses_comm]

theorem contains_reverse (s : Sector) (p : Point) :
    contains ⟨s.vertices.reverse⟩ p = s.contains p := by
  rw [contains, contains, List.length_reverse, crossings_reverse]

theorem contains_rotate (s : Sector) (n : Nat) (p : Point) :
    contains ⟨s.vertices.rotate n⟩ p = s.contains p := by
  rw [contains, contains, List.length_rotate, crossings_congr (edges_rotate_perm s.vertices n)]

/-- A part is crossed where its side of the outline is, and where the cut is. -/
theorem crossings_part (p a : Point) (vs : List Point) (b : Point) :
    crossings p (a :: vs ++ [b]) =
      (chain (a :: vs ++ [b])).countP (fun e => crosses p e.1 e.2) + (crosses p a b).toNat := by
  have hcut : (chain [b, a]).countP (fun e => crosses p e.1 e.2) = (crosses p a b).toNat := by
    rw [← crosses_comm]
    cases h : crosses p b a <;> simp [chain, h]
  rw [crossings, (edges_append_perm a vs b []).countP_eq, List.countP_append, ← hcut]
  rfl

/-- The crossings of both parts are those of the whole and those of the cut, which belongs to
both. -/
theorem crossings_cut (p a : Point) (vs : List Point) (b : Point) (ws : List Point) :
    crossings p (a :: vs ++ [b]) + crossings p (b :: ws ++ [a]) =
      crossings p (a :: vs ++ b :: ws) + 2 * (crosses p a b).toNat := by
  have hwhole : crossings p (a :: vs ++ b :: ws) =
      (chain (a :: vs ++ [b])).countP (fun e => crosses p e.1 e.2) +
        (chain (b :: ws ++ [a])).countP (fun e => crosses p e.1 e.2) := by
    rw [crossings, (edges_append_perm a vs b ws).countP_eq, List.countP_append]
  rw [crossings_part, crossings_part, hwhole, crosses_comm p a b]
  omega

theorem contains_cut (p a v : Point) (vs : List Point) (b w : Point) (ws : List Point) :
    contains ⟨a :: v :: vs ++ b :: w :: ws⟩ p =
      (contains ⟨a :: v :: vs ++ [b]⟩ p ^^ contains ⟨b :: w :: ws ++ [a]⟩ p) := by
  have hthree : ∀ (a v b : Point) (vs ws : List Point),
      decide (3 ≤ (a :: v :: vs ++ b :: ws).length) = true := by
    intro a v b vs ws
    simp only [List.length_append, List.length_cons, decide_eq_true_eq]
    omega
  have hcrossings := crossings_cut p a (v :: vs) b (w :: ws)
  simp only [contains, hthree, Bool.true_and]
  grind

/-- Neither the first vertex of an outline nor its direction matters, and of the parts that a cut
from one vertex to another leaves, exactly one contains a point inside. -/
theorem contains_rearranged (p : Point) :
    (∀ (s : Sector) (n : Nat), contains ⟨s.vertices.rotate n⟩ p = s.contains p) ∧
      (∀ s : Sector, contains ⟨s.vertices.reverse⟩ p = s.contains p) ∧
      ∀ (a v : Point) (vs : List Point) (b w : Point) (ws : List Point),
        contains ⟨a :: v :: vs ++ b :: w :: ws⟩ p =
            (contains ⟨a :: v :: vs ++ [b]⟩ p ^^ contains ⟨b :: w :: ws ++ [a]⟩ p) ∧
          (contains ⟨a :: v :: vs ++ b :: w :: ws⟩ p = true ↔
            [(⟨a :: v :: vs ++ [b]⟩ : Sector), ⟨b :: w :: ws ++ [a]⟩].countP (·.contains p) =
              1) := by
  refine ⟨fun s n => contains_rotate s n p, fun s => contains_reverse s p, ?_⟩
  intro a v vs b w ws
  have hcut := contains_cut p a v vs b w ws
  refine ⟨hcut, ?_⟩
  rw [hcut, List.countP_cons, List.countP_singleton]
  cases contains ⟨a :: v :: vs ++ [b]⟩ p <;> cases contains ⟨b :: w :: ws ++ [a]⟩ p <;> simp

end Sector

end Worldsmith
