/-!
The fewest decimal digits that read back as a given binary number: of all decimals in the interval
of reals that round to it, one on the coarsest power-of-ten grid, and of those the nearest.
-/

namespace Worldsmith.Decimal

/-- A finite binary number `mantissa * 2 ^ exponent`, with the parts of its encoding decoded. -/
structure Binary where
  mantissa : Nat
  exponent : Int
  /-- The gap below is half the gap above. -/
  isolated : Bool
  deriving Repr, DecidableEq

def Binary.ofBits (bits : UInt64) : Binary :=
  let fraction : Nat := bits.toNat % Nat.pow 2 52
  let biased : Nat := bits.toNat / Nat.pow 2 52 % Nat.pow 2 11
  if biased = 0 then ⟨fraction, -1074, false⟩
  else ⟨Nat.pow 2 52 + fraction, (biased : Int) - 1075, fraction = 0 && 1 < biased⟩

/-- Digits standing for `digits * 10 ^ exponent`. -/
structure Digits where
  digits : Nat
  exponent : Int
  deriving Repr, DecidableEq

/-- The best decimal of the grid of step `10 ^ k` that rounds to the number, if there is one. Four
times the number is written over the common denominator of `2 ^ (exponent - 2)` and `10 ^ k`. -/
def Binary.onGrid? (b : Binary) (k : Int) : Option Nat :=
  let scale := Nat.pow 2 (b.exponent - 2).toNat * Nat.pow 10 (-k).toNat
  let step := Nat.pow 2 (2 - b.exponent).toNat * Nat.pow 10 k.toNat
  let value := 4 * b.mantissa * scale
  let low := value - (if b.isolated then 1 else 2) * scale
  let high := value + 2 * scale
  let inside (n : Nat) : Bool :=
    if b.mantissa % 2 = 0 then low ≤ n * step && n * step ≤ high
    else low < n * step && n * step < high
  let below := value / step
  let above := below + 1
  match 0 < below && inside below, inside above with
  | false, false => none
  | true, false => some below
  | false, true => some above
  | true, true =>
    let left := value - below * step
    let right := above * step - value
    if left < right then some below
    else if right < left then some above
    else some (if below % 2 = 0 then below else above)

/-- Tries the grids from `10 ^ k` downwards. -/
def Binary.search (b : Binary) : Nat → Int → Digits
  | 0, k => ⟨0, k⟩
  | fuel + 1, k =>
    match b.onGrid? k with
    | some n => ⟨n, k⟩
    | none => b.search fuel (k - 1)

/-- No grid of step above `10 ^ start` holds a positive decimal that rounds to the number, and the
grid twenty steps further down always does. -/
def Binary.shortest (b : Binary) : Digits :=
  let start := ((Nat.log2 b.mantissa + 1 : Int) + b.exponent) * 30103 / 100000 + 2
  b.search 24 start

end Worldsmith.Decimal
