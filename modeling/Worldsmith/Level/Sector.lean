/-!
Sector outlines and the even-odd rule. A point is inside when a ray from it crosses the outline an
odd number of times; points on an edge may fall on either side.
-/

namespace Worldsmith

structure Point where
  x : Int
  y : Int
  deriving DecidableEq, Repr, Inhabited

/-- The outline of a sector, a closed polygon. -/
structure Sector where
  vertices : List Point
  deriving DecidableEq, Repr, Inhabited

namespace Sector

/-- Whether the ray from `p` crosses the edge from `a` to `b`. The crossing's place on the edge is
compared without division, by products that are exact: they are those of 64-bit integers wherever
`Sector.Fits` holds. -/
def crosses (p a b : Point) : Bool :=
  let left := (p.x - b.x) * (a.y - b.y)
  let right := (a.x - b.x) * (p.y - b.y)
  (decide (p.y < b.y) != decide (p.y < a.y)) &&
    ((decide (b.y < a.y) && decide (left < right)) ||
      (decide (a.y < b.y) && decide (right < left)))

def chain : List Point → List (Point × Point)
  | a :: b :: rest => (a, b) :: chain (b :: rest)
  | _ => []

/-- The edges of the closed polygon, the one that closes it first. -/
def edges : List Point → List (Point × Point)
  | [] => []
  | a :: rest => chain ((a :: rest).getLast (List.cons_ne_nil a rest) :: a :: rest)

def crossings (p : Point) (vertices : List Point) : Nat :=
  (edges vertices).countP fun e => crosses p e.1 e.2

def contains (s : Sector) (p : Point) : Bool :=
  3 ≤ s.vertices.length && crossings p s.vertices % 2 == 1

end Sector

end Worldsmith
