import Mathlib.Algebra.Order.Field.Rat
import Mathlib.Algebra.Order.Field.Basic
import Mathlib.Data.Rat.Cast.Order
import Mathlib.Tactic.Ring
import Worldsmith.Level.Data
import Worldsmith.Proofs.Level.Convex
import Worldsmith.Proofs.SortedMap
import Worldsmith.Word

namespace Worldsmith

/-- A point whose coordinates keep `2 ^ 14` from the ends of the 32-bit integers. -/
def Point.Inner (v : Point) : Prop := |v.x| ≤ 2 ^ 31 - 2 ^ 14 ∧ |v.y| ≤ 2 ^ 31 - 2 ^ 14

instance (v : Point) : Decidable v.Inner := inferInstanceAs (Decidable (_ ∧ _))

namespace Sector

variable {s : Sector} {p a b : Point}

/-- The ray from a point towards larger `x` meets an edge, which includes its lower end and not its
upper one. -/
def Meets (p a b : Point) : Prop :=
  (a.y ≤ p.y ∧ p.y < b.y ∨ b.y ≤ p.y ∧ p.y < a.y) ∧
    (p.x : ℚ) < b.x + (a.x - b.x) * (p.y - b.y) / (a.y - b.y)

theorem lt_add_div_iff_of_pos {x c u v d : ℤ} (hd : 0 < d) :
    (x : ℚ) < c + u * v / d ↔ (x - c) * d < u * v := by
  have hd' : (0 : ℚ) < d := Int.cast_pos.2 hd
  rw [← sub_lt_iff_lt_add', lt_div_iff₀ hd']
  exact_mod_cast Iff.rfl

theorem lt_add_div_iff_of_neg {x c u v d : ℤ} (hd : d < 0) :
    (x : ℚ) < c + u * v / d ↔ u * v < (x - c) * d := by
  have hd' : (d : ℚ) < 0 := Int.cast_lt_zero.2 hd
  rw [← sub_lt_iff_lt_add', lt_div_iff_of_neg hd']
  exact_mod_cast Iff.rfl

theorem crosses_iff : crosses p a b = true ↔ Meets p a b := by
  rw [crosses, Meets]
  rcases Int.lt_trichotomy b.y a.y with h | h | h
  · have hcross := lt_add_div_iff_of_pos (x := p.x) (c := b.x) (u := a.x - b.x) (v := p.y - b.y)
      (sub_pos.2 h)
    push_cast at hcross
    rw [hcross]
    simp only [Bool.and_eq_true, Bool.or_eq_true, bne_iff_ne, decide_eq_true_eq, ne_eq,
      decide_eq_decide]
    omega
  · simp [h]
  · have hcross := lt_add_div_iff_of_neg (x := p.x) (c := b.x) (u := a.x - b.x) (v := p.y - b.y)
      (sub_neg.2 h)
    push_cast at hcross
    rw [hcross]
    simp only [Bool.and_eq_true, Bool.or_eq_true, bne_iff_ne, decide_eq_true_eq, ne_eq,
      decide_eq_decide]
    omega

instance : Decidable (Meets p a b) := decidable_of_iff _ crosses_iff

/-- The even-odd rule for a polygon with at least three corners. -/
def Encloses (s : Sector) (p : Point) : Prop :=
  3 ≤ s.vertices.length ∧ Odd ((edges s.vertices).countP fun e => Meets p e.1 e.2)

theorem contains_iff : s.contains p = true ↔ s.Encloses p := by
  have hcount : crossings p s.vertices = (edges s.vertices).countP fun e => Meets p e.1 e.2 :=
    List.countP_congr fun e _ => by rw [crosses_iff, decide_eq_true_eq]
  rw [contains, Encloses, hcount, Bool.and_eq_true, decide_eq_true_eq, beq_iff_eq, Nat.odd_iff]

/-- No product by which an edge is compared with a point leaves 64 bits. -/
def Fits (s : Sector) (p : Point) : Prop :=
  ∀ e ∈ edges s.vertices, ¬ (p.y < e.2.y ↔ p.y < e.1.y) →
    IsInt64 ((p.x - e.2.x) * (e.1.y - e.2.y)) ∧ IsInt64 ((e.1.x - e.2.x) * (p.y - e.2.y))

/-- The crossing test as 64-bit integers give it. -/
def crossesInWords (p a b : Point) : Bool :=
  let left := word ((p.x - b.x) * (a.y - b.y))
  let right := word ((a.x - b.x) * (p.y - b.y))
  (decide (p.y < b.y) != decide (p.y < a.y)) &&
    ((decide (b.y < a.y) && decide (left < right)) ||
      (decide (a.y < b.y) && decide (right < left)))

def containsInWords (s : Sector) (p : Point) : Bool :=
  3 ≤ s.vertices.length && (edges s.vertices).countP (fun e => crossesInWords p e.1 e.2) % 2 == 1

theorem Fits.containsInWords_iff (h : s.Fits p) : s.containsInWords p = true ↔ s.Encloses p := by
  have hcount : (edges s.vertices).countP (fun e => crossesInWords p e.1 e.2) =
      crossings p s.vertices := by
    refine List.countP_congr fun e he => ?_
    rw [crossesInWords, crosses]
    by_cases hside : p.y < e.2.y ↔ p.y < e.1.y
    · simp [hside]
    · obtain ⟨hleft, hright⟩ := h e he hside
      rw [hleft.word_eq, hright.word_eq]
  rw [← contains_iff, containsInWords, contains, hcount]

theorem isInt64_mul {u v : Int} (hu : |u| ≤ 2 ^ 31 + 2 ^ 14) (hv : |v| ≤ 2 ^ 32 - 2 ^ 15) :
    IsInt64 (u * v) := by
  have hmul : |u * v| ≤ (2 ^ 31 + 2 ^ 14) * (2 ^ 32 - 2 ^ 15) := by
    rw [abs_mul]
    exact mul_le_mul hu hv (abs_nonneg v) (by norm_num)
  obtain ⟨hlow, hhigh⟩ := abs_le.1 hmul
  constructor
  · exact le_trans (by norm_num) hlow
  · exact lt_of_le_of_lt hhigh (by norm_num)

/-- No thing can leave 64 bits, as it stands at a 16-bit point, where all corners are inner ones. -/
theorem fits_of_inner (h : ∀ v ∈ s.vertices, v.Inner) (hx : |p.x| ≤ 2 ^ 15)
    (hy : |p.y| ≤ 2 ^ 15) : s.Fits p := by
  intro e he _
  obtain ⟨hax, hay⟩ := h e.1 (fst_mem_of_mem_edges he)
  obtain ⟨hbx, hby⟩ := h e.2 (snd_mem_of_mem_edges he)
  have hpoint {q z : Int} (hq : |q| ≤ 2 ^ 15) (hz : |z| ≤ 2 ^ 31 - 2 ^ 14) :
      |q - z| ≤ 2 ^ 31 + 2 ^ 14 := (abs_sub q z).trans (by omega)
  have hcorner {w z : Int} (hw : |w| ≤ 2 ^ 31 - 2 ^ 14) (hz : |z| ≤ 2 ^ 31 - 2 ^ 14) :
      |w - z| ≤ 2 ^ 32 - 2 ^ 15 := (abs_sub w z).trans (by omega)
  refine ⟨isInt64_mul (hpoint hx hbx) (hcorner hay hby), ?_⟩
  rw [mul_comm]
  exact isInt64_mul (hpoint hy hby) (hcorner hax hbx)

end Sector

namespace MapData

variable {m : MapData} {p : Point} {i : Nat}

/-- The first of all sectors around a point. -/
structure FirstAround (m : MapData) (p : Point) (i : Nat) : Prop where
  around : ∃ s, m.sectors[i]? = some s ∧ s.Encloses p
  first : ∀ j s, j < i → m.sectors[j]? = some s → ¬ s.Encloses p

theorem sectorAt?_eq_none_iff : m.sectorAt? p = none ↔ ∀ s ∈ m.sectors, ¬ s.Encloses p := by
  rw [sectorAt?, List.findIdx?_eq_none_iff]
  refine forall₂_congr fun s _ => ?_
  rw [← Sector.contains_iff, Bool.not_eq_true]

theorem sectorAt?_eq_some_iff : m.sectorAt? p = some i ↔ m.FirstAround p i := by
  rw [sectorAt?, List.findIdx?_eq_some_iff_getElem]
  constructor
  · rintro ⟨hi, hs, hfirst⟩
    refine ⟨⟨_, List.getElem?_eq_getElem hi, Sector.contains_iff.1 hs⟩, fun j s hj he hx => ?_⟩
    obtain ⟨_, rfl⟩ := List.getElem?_eq_some_iff.1 he
    exact hfirst j hj (Sector.contains_iff.2 hx)
  · rintro ⟨⟨s, hs, hx⟩, hfirst⟩
    obtain ⟨hi, rfl⟩ := List.getElem?_eq_some_iff.1 hs
    refine ⟨hi, Sector.contains_iff.2 hx, fun j hj hc => ?_⟩
    exact hfirst j _ hj (List.getElem?_eq_getElem _) (Sector.contains_iff.1 hc)

end MapData

theorem SortedMap.get?_foldl_insert_const {α : Type} (keys : List Nat) (a : α)
    (m : SortedMap Nat α) (k : Nat) : (keys.foldl (fun m k => m.insert k a) m).get? k =
      if k ∈ keys then some a else m.get? k := by
  induction keys generalizing m with
  | nil => rfl
  | cons key keys ih =>
    rw [List.foldl_cons, ih]
    by_cases hk : k ∈ keys
    · rw [if_pos hk, if_pos (List.mem_cons_of_mem _ hk)]
    · by_cases he : k = key
      · rw [if_neg hk, if_pos (he ▸ List.mem_cons_self), he, SortedMap.get?_insert_self]
      · rw [if_neg hk, if_neg (by simp [he, hk]), SortedMap.get?_insert_of_ne _ he]

/-- Gives the sectors of regions to them, where later regions take from earlier ones. -/
def giveSectors (regions : List (Region × Nat)) (owners : SortedMap Nat Nat) : SortedMap Nat Nat :=
  regions.foldl (fun owners e => e.1.sectors.toList.foldl (fun owners s => owners.insert s e.2)
    owners) owners

theorem giveSectors_cons (e : Region × Nat) (regions : List (Region × Nat))
    (owners : SortedMap Nat Nat) : giveSectors (e :: regions) owners =
      giveSectors regions (e.1.sectors.toList.foldl (fun owners s => owners.insert s e.2) owners) :=
  rfl

theorem get?_giveSectors_of_unlisted {regions : List (Region × Nat)} {sector : Nat}
    (h : ∀ e ∈ regions, sector ∉ e.1.sectors.toList) (owners : SortedMap Nat Nat) :
    (giveSectors regions owners).get? sector = owners.get? sector := by
  induction regions generalizing owners with
  | nil => rfl
  | cons e regions ih =>
    rw [List.forall_mem_cons] at h
    rw [giveSectors_cons, ih h.2, SortedMap.get?_foldl_insert_const, if_neg h.1]

namespace RuleGraph

variable {g : RuleGraph} {sector : Nat}

theorem owner?_of_unlisted (h : ∀ r ∈ g.regions, sector ∉ r.sectors.toList) :
    g.owner? sector = none := by
  have hnone : g.owners.get? sector = none :=
    get?_giveSectors_of_unlisted (fun e he => h e.1 (List.fst_mem_of_mem_zipIdx he)) .empty
  rw [owner?, hnone]
  rfl

theorem owner?_of_last {before after : List Region} {region : Region}
    (hr : g.regions = before ++ region :: after) (hs : sector ∈ region.sectors.toList)
    (ha : ∀ r ∈ after, sector ∉ r.sectors.toList) : g.owner? sector = some region := by
  have howner : g.owners.get? sector = some before.length := by
    have hgive : g.owners = giveSectors (g.regions.zipIdx) .empty := rfl
    have hafter : ∀ e ∈ after.zipIdx (before.length + 1), sector ∉ e.1.sectors.toList :=
      fun e he => ha e.1 (List.fst_mem_of_mem_zipIdx he)
    rw [hgive, hr, List.zipIdx_append, List.zipIdx_cons, Nat.zero_add, giveSectors,
      List.foldl_append, ← giveSectors, giveSectors_cons, get?_giveSectors_of_unlisted hafter,
      SortedMap.get?_foldl_insert_const, if_pos hs]
  rw [owner?, howner, Option.bind_some, hr, List.getElem?_append_right (Nat.le_refl _),
    Nat.sub_self]
  rfl

end RuleGraph

end Worldsmith
