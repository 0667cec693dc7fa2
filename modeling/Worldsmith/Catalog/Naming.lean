import Std.Data.HashSet

/-!
Names of locations. Where a name is taken, the first number from 2 on that makes it free is put
behind it.
-/

namespace Worldsmith

/-- The `n`-th name to try, from 1. A description follows the number in parentheses. -/
def nameCandidate (extended : Bool) (base description : String) (n : Nat) : String :=
  let numbered := if n = 1 then base else base ++ " " ++ Nat.repr n
  if extended && !description.isEmpty then numbered ++ " (" ++ description ++ ")" else numbered

/-- The first free name from the `n`-th on, of which the first `fuel` may be taken. -/
def firstFreeName (candidate : Nat → String) (isTaken : String → Bool) : Nat → Nat → String
  | 0, n => candidate n
  | fuel + 1, n =>
    if isTaken (candidate n) then firstFreeName candidate isTaken fuel (n + 1) else candidate n

/-- As there are more candidates than taken names, one of them is free. -/
def uniqueName (extended : Bool) (base description : String) (taken : List String) : String :=
  let names := Std.HashSet.ofList taken
  firstFreeName (nameCandidate extended base description) names.contains taken.length 1

theorem uniqueName_eq_firstFreeName (extended : Bool) (base description : String)
    (taken : List String) :
    uniqueName extended base description taken =
      firstFreeName (nameCandidate extended base description) taken.contains taken.length 1 :=
  congrArg (firstFreeName _ · _ _) (funext fun _ => Std.HashSet.contains_ofList)

end Worldsmith
