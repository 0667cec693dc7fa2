import Worldsmith.SortedMap
import Worldsmith.Word

/-!
Fixed ids by name. What the table names takes the table's id. Everything else is numbered anew above
all ids of the table, in the order of its old id and where those agree of its position. Ids are
64-bit integers, so a number behind the last of them is the first one.
-/

namespace Worldsmith

universe u

class Identified (α : Type u) where
  name : α → String
  id : α → Int
  setId : α → Int → α

namespace Remap

variable {α : Type u} [Identified α]

/-- The first id above all of the table, which is not negative. -/
def firstFree (table : SortedMap String Int) : Int :=
  table.values.foldl (fun m id => max m (word (id + 1))) 0

def unlisted (table : SortedMap String Int) (l : List α) : List (Int × Nat) :=
  let others := l.zipIdx.filter fun e => !table.contains (Identified.name e.1)
  (others.map fun e => (Identified.id e.1, e.2)).mergeSort
    fun a b => a.1 < b.1 || (a.1 == b.1 && a.2 ≤ b.2)

/-- The entities with their new ids, and how many of them were numbered anew. -/
def apply (table : SortedMap String Int) (l : List α) : List α × Nat :=
  if table.isEmpty then (l, 0)
  else
    let order := unlisted table l
    let renamed := l.zipIdx.map fun (e, i) =>
      match table.get? (Identified.name e) with
      | some id => Identified.setId e id
      | none => Identified.setId e (word (firstFree table + order.idxOf (Identified.id e, i)))
    (renamed, order.length)

end Remap

end Worldsmith
