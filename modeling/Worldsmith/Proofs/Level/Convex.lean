import Mathlib.Data.Finset.Max
import Mathlib.Data.List.Nodup
import Mathlib.Tactic.Linarith
import Worldsmith.Proofs.Level.Outline

namespace Worldsmith

/-- A side of a directed line. -/
inductive Side
  | left
  | right
  deriving DecidableEq, Repr

def Side.opposite : Side → Side
  | left => right
  | right => left

/-- A point is on a side of the line from `a` to `b`, and not on the line. -/
def Side.Has : Side → Point → Point → Point → Prop
  | left, a, b, p => 0 < turn a b p
  | right, a, b, p => turn a b p < 0

instance (side : Side) (a b p : Point) : Decidable (side.Has a b p) :=
  match side with
  | .left => inferInstanceAs (Decidable (0 < turn a b p))
  | .right => inferInstanceAs (Decidable (turn a b p < 0))

theorem Side.has_swap (side : Side) (a b p : Point) :
    side.opposite.Has b a p ↔ side.Has a b p := by
  cases side with
  | left => rw [Side.Has, Side.opposite, Side.Has, turn_swap, neg_lt_zero]
  | right => rw [Side.Has, Side.opposite, Side.Has, turn_swap, neg_pos]

namespace Sector

variable {s : Sector} {p : Point} {e f : Point × Point}

/-- The outline goes once around a strictly convex polygon: of each edge, all other vertices are on
the inner side. -/
structure StrictlyConvex (inner : Side) (s : Sector) : Prop where
  three : 3 ≤ s.vertices.length
  nodup : s.vertices.Nodup
  turns : ∀ e ∈ edges s.vertices, ∀ v ∈ s.vertices, v ≠ e.1 → v ≠ e.2 → inner.Has e.1 e.2 v

def rising (p : Point) (vertices : List Point) : List (Point × Point) :=
  (edges vertices).filter fun e => Rises p e.1 e.2

def falling (p : Point) (vertices : List Point) : List (Point × Point) :=
  (edges vertices).filter fun e => Rises p e.2 e.1

theorem mem_rising {vertices : List Point} :
    e ∈ rising p vertices ↔ e ∈ edges vertices ∧ Rises p e.1 e.2 := by
  rw [rising, List.mem_filter, decide_eq_true_eq]

theorem mem_falling {vertices : List Point} :
    e ∈ falling p vertices ↔ e ∈ edges vertices ∧ Rises p e.2 e.1 := by
  rw [falling, List.mem_filter, decide_eq_true_eq]

theorem not_rises_both (p a b : Point) : ¬ (Rises p a b ∧ Rises p b a) := by
  simp only [Rises]
  omega

theorem crossings_eq (p : Point) (vertices : List Point) : crossings p vertices =
    (rising p vertices).countP (fun e => 0 < turn e.1 e.2 p) +
      (falling p vertices).countP (fun e => turn e.1 e.2 p < 0) := by
  rw [crossings, rising, falling, List.countP_filter, List.countP_filter]
  induction edges vertices with
  | nil => rfl
  | cons e rest ih =>
    have hone := not_rises_both p e.1 e.2
    simp only [List.countP_cons, ih, crosses_iff_turn, Bool.and_eq_true, decide_eq_true_eq]
    split_ifs <;> first | omega | tauto

theorem rises_balance (p a b : Point) :
    (if Rises p a b then 1 else 0) + (if p.y < a.y then 1 else 0) =
      (if Rises p b a then 1 else 0) + (if p.y < b.y then 1 else 0) := by
  split_ifs <;> simp only [Rises] at * <;> omega

/-- A walk rises through a height as often as it falls, but for where it starts and ends. -/
theorem countP_rises (p a z : Point) (rest : List Point) :
    (chain (a :: rest ++ [z])).countP (fun e => Rises p e.1 e.2) + (if p.y < a.y then 1 else 0) =
      (chain (a :: rest ++ [z])).countP (fun e => Rises p e.2 e.1) +
        (if p.y < z.y then 1 else 0) := by
  induction rest generalizing a with
  | nil =>
    have hstep := rises_balance p a z
    simp only [List.cons_append, List.nil_append, chain, List.countP_singleton, decide_eq_true_eq]
    exact hstep
  | cons b rest ih =>
    have hstep := rises_balance p a b
    have hrest := ih b
    simp only [List.cons_append, chain, List.countP_cons, decide_eq_true_eq] at hrest ⊢
    omega

theorem length_rising (p : Point) (vertices : List Point) :
    (rising p vertices).length = (falling p vertices).length := by
  rw [rising, falling, ← List.countP_eq_length_filter, ← List.countP_eq_length_filter]
  cases vertices with
  | nil => rfl
  | cons a rest =>
    rw [(edges_perm a rest).countP_eq, (edges_perm a rest).countP_eq]
    exact Nat.add_right_cancel (countP_rises p a a rest)

theorem map_snd_edges (vertices : List Point) : (edges vertices).map Prod.snd = vertices := by
  have hchain (a : Point) (rest : List Point) : (chain (a :: rest)).map Prod.snd = rest := by
    induction rest generalizing a with
    | nil => rfl
    | cons b rest ih => exact congrArg (b :: ·) (ih b)
  cases vertices with
  | nil => rfl
  | cons a rest => exact hchain _ (a :: rest)

theorem map_fst_edges_perm (vertices : List Point) :
    ((edges vertices).map Prod.fst).Perm vertices := by
  have hchain (front : List Point) (z : Point) :
      (chain (front ++ [z])).map Prod.fst = front := by
    induction front with
    | nil => rfl
    | cons a front ih =>
      cases front with
      | nil => rfl
      | cons b front => exact congrArg (a :: ·) ih
  cases vertices with
  | nil => exact .refl _
  | cons a rest =>
    have h := (edges_perm a rest).map Prod.fst
    rwa [hchain (a :: rest) a] at h

theorem fst_mem_of_mem_edges {vertices : List Point} (he : e ∈ edges vertices) :
    e.1 ∈ vertices := (map_fst_edges_perm vertices).subset (List.mem_map_of_mem he)

theorem snd_mem_of_mem_edges {vertices : List Point} (he : e ∈ edges vertices) :
    e.2 ∈ vertices := map_snd_edges vertices ▸ List.mem_map_of_mem (f := Prod.snd) he

theorem exists_rises {a : Point} {rest : List Point} (ha : a.y ≤ p.y)
    (hv : ∃ v ∈ rest, p.y < v.y) : ∃ e ∈ chain (a :: rest), Rises p e.1 e.2 := by
  induction rest generalizing a with
  | nil =>
    obtain ⟨v, hv, -⟩ := hv
    cases hv
  | cons b rest ih =>
    by_cases hb : p.y < b.y
    · exact ⟨(a, b), List.mem_cons_self, ha, hb⟩
    · obtain ⟨v, hv, hlt⟩ := hv
      have hrest : v ∈ rest := by
        rcases List.mem_cons.1 hv with rfl | hv
        · exact absurd hlt hb
        · exact hv
      obtain ⟨e, he, hr⟩ := ih (Int.not_lt.1 hb) ⟨v, hrest, hlt⟩
      exact ⟨e, List.mem_cons_of_mem _ he, hr⟩

theorem exists_mem_rising {vertices : List Point} {low high : Point} (hl : low ∈ vertices)
    (hlow : low.y ≤ p.y) (hh : high ∈ vertices) (hhigh : p.y < high.y) :
    ∃ e, e ∈ rising p vertices := by
  obtain ⟨front, rest, rfl⟩ := List.append_of_mem hl
  have hmem : high ∈ rest ++ front ++ [low] := by
    simp only [List.mem_append, List.mem_cons] at hh ⊢
    tauto
  obtain ⟨e, he, hr⟩ := exists_rises hlow ⟨high, hmem, hhigh⟩
  have hwalk := (edges_append_comm front (low :: rest)).symm.trans (edges_perm low (rest ++ front))
  exact ⟨e, mem_rising.2 ⟨hwalk.symm.subset he, hr⟩⟩

theorem turn_self (a p : Point) : turn a a p = 0 := by
  rw [turn]
  ring

theorem turn_fst (a b : Point) : turn a b a = 0 := by
  rw [turn]
  ring

theorem turn_snd (a b : Point) : turn a b b = 0 := by
  rw [turn]
  ring

/-- Seen from one edge and from the other, the crossings of a height by two edges lie in opposite
directions. -/
theorem turn_exchange (a b c d : Point) (y : Int) :
    (d.y - y) * turn a b c + (y - c.y) * turn a b d =
      -((b.y - y) * turn c d a + (y - a.y) * turn c d b) := by
  simp only [turn]
  ring

theorem turn_between (a b c d p : Point) :
    (p.y - d.y) * turn a b c + (c.y - p.y) * turn a b d =
      (c.y - d.y) * turn a b p + (b.y - a.y) * turn c d p := by
  simp only [turn]
  ring

/-- A point between two crossings is weighed by its distances from them. -/
theorem turn_interpolate (a b c d e f p : Point) :
    turn e f p * ((c.y - d.y) * turn a b p + (b.y - a.y) * turn c d p) =
      ((b.y - p.y) * turn e f a + (p.y - a.y) * turn e f b) * turn c d p +
        ((p.y - d.y) * turn e f c + (c.y - p.y) * turn e f d) * turn a b p := by
  simp only [turn]
  ring

theorem turn_corner (u v w p : Point) :
    turn u v w * (p.y - v.y) = turn v w p * (u.y - v.y) + turn u v p * (w.y - v.y) := by
  simp only [turn]
  ring

namespace StrictlyConvex

variable (h : s.StrictlyConvex .left)

include h in
theorem turn_nonneg {v : Point} (he : e ∈ edges s.vertices) (hv : v ∈ s.vertices) :
    0 ≤ turn e.1 e.2 v := by
  by_cases hfst : v = e.1
  · rw [hfst, turn_fst]
  · by_cases hsnd : v = e.2
    · rw [hsnd, turn_snd]
    · exact Int.le_of_lt (h.turns e he v hv hfst hsnd)

include h in
/-- Of two rising edges, each would cross the height farther to the left than the other. -/
theorem rising_unique (he : e ∈ rising p s.vertices) (hf : f ∈ rising p s.vertices) :
    e.1 = f.1 := by
  obtain ⟨he, helow, hehigh⟩ := mem_rising.1 he
  obtain ⟨hf, hflow, hfhigh⟩ := mem_rising.1 hf
  by_contra hne
  have hfe : f.1 ≠ e.2 := by
    intro heq
    rw [heq] at hflow
    omega
  have hef : e.1 ≠ f.2 := by
    intro heq
    rw [heq] at helow
    omega
  have hleft : 0 < turn e.1 e.2 f.1 :=
    h.turns e he f.1 (fst_mem_of_mem_edges hf) (Ne.symm hne) hfe
  have hleft' : 0 < turn f.1 f.2 e.1 := h.turns f hf e.1 (fst_mem_of_mem_edges he) hne hef
  have hends := h.turn_nonneg he (snd_mem_of_mem_edges hf)
  have hends' := h.turn_nonneg hf (snd_mem_of_mem_edges he)
  have hpos := mul_pos (sub_pos.2 hfhigh) hleft
  have hpos' := mul_pos (sub_pos.2 hehigh) hleft'
  have hnonneg := mul_nonneg (sub_nonneg.2 hflow) hends
  have hnonneg' := mul_nonneg (sub_nonneg.2 helow) hends'
  have hexchange := turn_exchange e.1 e.2 f.1 f.2 p.y
  linarith

include h in
theorem rising_cases (p : Point) :
    rising p s.vertices = [] ∧ falling p s.vertices = [] ∨
      ∃ e f, rising p s.vertices = [e] ∧ falling p s.vertices = [f] := by
  have hlength := length_rising p s.vertices
  have hnodup : ((rising p s.vertices).map Prod.fst).Nodup := by
    have hedges := (map_fst_edges_perm s.vertices).nodup_iff.2 h.nodup
    exact hedges.sublist (List.filter_sublist.map Prod.fst)
  cases hr : rising p s.vertices with
  | nil =>
    rw [hr, List.length_nil] at hlength
    exact .inl ⟨rfl, List.length_eq_zero_iff.1 hlength.symm⟩
  | cons e rest =>
    cases rest with
    | nil =>
      rw [hr, List.length_singleton] at hlength
      obtain ⟨f, hf⟩ := List.length_eq_one_iff.1 hlength.symm
      exact .inr ⟨e, f, rfl, hf⟩
    | cons f rest =>
      have hsame := h.rising_unique (p := p) (e := e) (f := f) (by simp [hr]) (by simp [hr])
      rw [hr, List.map_cons, List.map_cons, hsame] at hnodup
      exact absurd List.mem_cons_self (List.nodup_cons.1 hnodup).1

section Between
variable (he : e ∈ rising p s.vertices) (hf : f ∈ falling p s.vertices)

include h he hf in
/-- A point between the rising and the falling edge is on no edge's right. -/
theorem turn_nonneg_between {g : Point × Point} (hg : g ∈ edges s.vertices)
    (hrising : 0 < turn e.1 e.2 p) (hfalling : 0 ≤ turn f.1 f.2 p) : 0 ≤ turn g.1 g.2 p := by
  obtain ⟨he, helow, hehigh⟩ := mem_rising.1 he
  obtain ⟨hf, hflow, hfhigh⟩ := mem_falling.1 hf
  have hestart := mul_nonneg (sub_nonneg.2 (Int.le_of_lt hehigh))
    (h.turn_nonneg hg (fst_mem_of_mem_edges he))
  have heend := mul_nonneg (sub_nonneg.2 helow) (h.turn_nonneg hg (snd_mem_of_mem_edges he))
  have hfstart := mul_nonneg (sub_nonneg.2 hflow) (h.turn_nonneg hg (fst_mem_of_mem_edges hf))
  have hfend := mul_nonneg (sub_nonneg.2 (Int.le_of_lt hfhigh))
    (h.turn_nonneg hg (snd_mem_of_mem_edges hf))
  have hweight : 0 < (f.1.y - f.2.y) * turn e.1 e.2 p + (e.2.y - e.1.y) * turn f.1 f.2 p :=
    add_pos_of_pos_of_nonneg (mul_pos (by omega) hrising) (mul_nonneg (by omega) hfalling)
  refine nonneg_of_mul_nonneg_left ?_ hweight
  rw [turn_interpolate]
  exact add_nonneg (mul_nonneg (add_nonneg hestart heend) hfalling)
    (mul_nonneg (add_nonneg hfstart hfend) (Int.le_of_lt hrising))

include h he hf in
theorem turn_nonneg_of_nonpos (hrising : turn e.1 e.2 p ≤ 0) : 0 ≤ turn f.1 f.2 p := by
  obtain ⟨he, helow, hehigh⟩ := mem_rising.1 he
  obtain ⟨hf, hflow, hfhigh⟩ := mem_falling.1 hf
  have hstart := mul_nonneg (sub_nonneg.2 hflow) (h.turn_nonneg he (fst_mem_of_mem_edges hf))
  have hend := mul_nonneg (sub_nonneg.2 (Int.le_of_lt hfhigh))
    (h.turn_nonneg he (snd_mem_of_mem_edges hf))
  have hbetween := turn_between e.1 e.2 f.1 f.2 p
  have hfirst : (f.1.y - f.2.y) * turn e.1 e.2 p ≤ 0 :=
    mul_nonpos_of_nonneg_of_nonpos (by omega) hrising
  refine nonneg_of_mul_nonneg_right (a := e.2.y - e.1.y) ?_ (by omega)
  linarith

end Between

section Inside
variable (hp : ∀ e ∈ edges s.vertices, 0 < turn e.1 e.2 p)

include h hp in
/-- Each vertex is a corner with its neighbours, in which a point inside lies. -/
theorem exists_corner {v : Point} (hv : v ∈ s.vertices) :
    ∃ u ∈ s.vertices, ∃ w ∈ s.vertices,
      0 < turn u v w ∧ 0 < turn u v p ∧ 0 < turn v w p := by
  obtain ⟨⟨u, _⟩, he, rfl⟩ := List.mem_map.1 ((map_snd_edges s.vertices).symm ▸ hv)
  obtain ⟨⟨v, w⟩, hf, rfl⟩ := List.mem_map.1 ((map_fst_edges_perm s.vertices).symm.subset hv)
  have hu := hp _ he
  have hw := hp _ hf
  have hwu : w ≠ u := by
    rintro rfl
    rw [turn_swap] at hw
    exact absurd (neg_pos.1 hw) (Int.not_lt.2 (Int.le_of_lt hu))
  have hwv : w ≠ v := by
    rintro rfl
    rw [turn_self] at hw
    exact absurd hw (Int.lt_irrefl 0)
  have hmem := snd_mem_of_mem_edges hf
  exact ⟨u, fst_mem_of_mem_edges he, w, hmem, h.turns _ he w hmem hwu hwv, hu, hw⟩

include h hp in
theorem lowest_le {low : Point} (hl : low ∈ s.vertices) (hmin : ∀ v ∈ s.vertices, low.y ≤ v.y) :
    low.y ≤ p.y := by
  obtain ⟨u, hu, w, hw, hturn, hleft, hright⟩ := h.exists_corner hp hl
  have hcorner := turn_corner u low w p
  have hfirst := mul_nonneg (Int.le_of_lt hright) (sub_nonneg.2 (hmin u hu))
  have hsecond := mul_nonneg (Int.le_of_lt hleft) (sub_nonneg.2 (hmin w hw))
  exact sub_nonneg.1 (nonneg_of_mul_nonneg_right (by linarith) hturn)

include h hp in
theorem lt_highest {high : Point} (hh : high ∈ s.vertices)
    (hmax : ∀ v ∈ s.vertices, v.y ≤ high.y) : p.y < high.y := by
  obtain ⟨u, hu, w, hw, hturn, hleft, hright⟩ := h.exists_corner hp hh
  have hcorner := turn_corner u high w p
  have hfirst := mul_nonpos_of_nonneg_of_nonpos (Int.le_of_lt hright) (sub_nonpos.2 (hmax u hu))
  have hsecond := mul_nonpos_of_nonneg_of_nonpos (Int.le_of_lt hleft) (sub_nonpos.2 (hmax w hw))
  by_contra hge
  have hthird := mul_nonneg (Int.le_of_lt hturn) (sub_nonneg.2 (Int.not_lt.1 hge))
  -- All three products vanish, so both neighbours are as high, and the corner is none.
  have hu' : u.y - high.y = 0 := by
    have hzero : turn high w p * (u.y - high.y) = 0 := by linarith
    exact (mul_eq_zero.1 hzero).resolve_left hright.ne'
  have hw' : w.y - high.y = 0 := by
    have hzero : turn u high p * (w.y - high.y) = 0 := by linarith
    exact (mul_eq_zero.1 hzero).resolve_left hleft.ne'
  have hflat : turn u high w = (high.x - u.x) * (w.y - high.y - (u.y - high.y)) +
      (u.y - high.y) * (w.x - u.x) := by
    rw [turn]
    ring
  rw [hflat, hu', hw'] at hturn
  simp at hturn

include h hp in
theorem exists_rising : ∃ e, e ∈ rising p s.vertices := by
  have hne : s.vertices.toFinset.Nonempty := by
    rw [List.toFinset_nonempty_iff]
    rintro hnil
    have hthree := h.three
    rw [hnil] at hthree
    exact absurd hthree (by decide)
  obtain ⟨low, hl, hmin⟩ := s.vertices.toFinset.exists_min_image Point.y hne
  obtain ⟨high, hh, hmax⟩ := s.vertices.toFinset.exists_max_image Point.y hne
  simp only [List.mem_toFinset] at hl hh hmin hmax
  exact exists_mem_rising hl (h.lowest_le hp hl hmin) hh (h.lt_highest hp hh hmax)

include h hp in
theorem contains_inside : s.contains p = true := by
  have hone : crossings p s.vertices = 1 := by
    obtain ⟨e, he⟩ := h.exists_rising hp
    rcases h.rising_cases p with ⟨hnil, -⟩ | ⟨e', f, hrising, hfalling⟩
    · rw [hnil] at he
      cases he
    · have he' := hp e' (mem_rising.1 (hrising ▸ List.mem_singleton_self e')).1
      have hf := hp f (mem_falling.1 (hfalling ▸ List.mem_singleton_self f)).1
      rw [crossings_eq, hrising, hfalling, List.countP_singleton, List.countP_singleton,
        if_pos (decide_eq_true he'), if_neg (by simpa using hf.le)]
  rw [contains, hone, decide_eq_true h.three]
  rfl

end Inside

include h in
theorem contains_outside (he : e ∈ edges s.vertices) (hp : turn e.1 e.2 p < 0) :
    s.contains p = false := by
  have heven : crossings p s.vertices % 2 = 0 := by
    rcases h.rising_cases p with ⟨hrising, hfalling⟩ | ⟨e', f, hrising, hfalling⟩
    · rw [crossings_eq, hrising, hfalling]
      rfl
    · have he' := hrising ▸ List.mem_singleton_self e'
      have hf := hfalling ▸ List.mem_singleton_self f
      rw [crossings_eq, hrising, hfalling, List.countP_singleton, List.countP_singleton]
      by_cases hleft : 0 < turn e'.1 e'.2 p
      · -- Left of the rising edge, a point that is not inside is right of the falling one.
        have hright : turn f.1 f.2 p < 0 := by
          by_contra hge
          have hbetween := h.turn_nonneg_between he' hf he hleft (Int.not_lt.1 hge)
          exact absurd hp (Int.not_lt.2 hbetween)
        simp [hleft, hright]
      · have hright := h.turn_nonneg_of_nonpos he' hf (Int.not_lt.1 hleft)
        simp [hleft, Int.not_lt.2 hright]
  rw [contains, heven]
  exact Bool.and_false _

end StrictlyConvex

theorem mem_edges_reverse {vertices : List Point} :
    e ∈ edges vertices.reverse ↔ e.swap ∈ edges vertices := by
  rw [(edges_reverse_perm vertices).mem_iff, List.mem_map]
  constructor
  · rintro ⟨f, hf, rfl⟩
    exact hf
  · intro he
    exact ⟨e.swap, he, e.swap_swap⟩

theorem StrictlyConvex.reverse {inner : Side} (h : s.StrictlyConvex inner) :
    StrictlyConvex inner.opposite ⟨s.vertices.reverse⟩ where
  three := by
    rw [List.length_reverse]
    exact h.three
  nodup := List.nodup_reverse.2 h.nodup
  turns := by
    intro e he v hv hfst hsnd
    rw [← e.swap_swap]
    exact (Side.has_swap _ _ _ _).2
      (h.turns e.swap (mem_edges_reverse.1 he) v (List.mem_reverse.1 hv) hsnd hfst)

/-- A convex sector contains what is on the inner side of every edge, and nothing that is on the
outer side of an edge. -/
theorem strictlyConvex_contains {inner : Side} (h : s.StrictlyConvex inner) (p : Point) :
    ((∀ e ∈ edges s.vertices, inner.Has e.1 e.2 p) → s.contains p = true) ∧
      ((∃ e ∈ edges s.vertices, inner.opposite.Has e.1 e.2 p) → s.contains p = false) := by
  cases inner with
  | left =>
    refine ⟨h.contains_inside, ?_⟩
    rintro ⟨e, he, hp⟩
    exact h.contains_outside he hp
  | right =>
    rw [← contains_reverse]
    have hleft : StrictlyConvex .left ⟨s.vertices.reverse⟩ := h.reverse
    constructor
    · intro hp
      apply hleft.contains_inside
      intro e he
      exact (Side.has_swap .right e.2 e.1 p).2 (hp e.swap (mem_edges_reverse.1 he))
    · rintro ⟨e, he, hp⟩
      have he' : e.swap ∈ edges s.vertices.reverse :=
        mem_edges_reverse.2 (e.swap_swap.symm ▸ he)
      exact hleft.contains_outside he' ((Side.has_swap .left e.1 e.2 p).2 hp)

/-- The outline of a barn, clockwise. -/
def barn : Sector := ⟨[⟨0, 64⟩, ⟨32, 96⟩, ⟨64, 64⟩, ⟨64, 0⟩, ⟨0, 0⟩]⟩

/-- Both points are level with corners. -/
theorem strictlyConvex_contains_barn :
    barn.StrictlyConvex .right ∧
      (∀ e ∈ edges barn.vertices, Side.right.Has e.1 e.2 ⟨10, 64⟩) ∧
      (∃ e ∈ edges barn.vertices, Side.right.opposite.Has e.1 e.2 ⟨70, 0⟩) ∧
      barn.contains ⟨10, 64⟩ = true ∧ barn.contains ⟨70, 0⟩ = false := by
  have hbarn : barn.StrictlyConvex .right := ⟨by decide, by decide, by decide⟩
  have hinside : ∀ e ∈ edges barn.vertices, Side.right.Has e.1 e.2 ⟨10, 64⟩ := by decide
  have houtside : ∃ e ∈ edges barn.vertices, Side.right.opposite.Has e.1 e.2 ⟨70, 0⟩ := by decide
  exact ⟨hbarn, hinside, houtside, (strictlyConvex_contains hbarn _).1 hinside,
    (strictlyConvex_contains hbarn _).2 houtside⟩

end Sector

end Worldsmith
