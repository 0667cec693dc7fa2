import Worldsmith.Json.Draft

/-!
The number at the head of a text. Integers of 64 bits are exact. Any other number is the product of
its leading digits that fit 64 bits and a power of ten, each step rounded on its own.
-/

namespace Worldsmith.Json

def digitValue (c : Char) : Nat := c.toNat - 48

def digitsValue (ds : List Char) : Nat := ds.foldl (fun n c => 10 * n + digitValue c) 0

/-- Appends digits to a number as long as it fits 64 bits; the digits from the first that does not
are left over. -/
def appendDigits : Nat → List Char → Nat × List Char
  | n, [] => (n, [])
  | n, c :: cs =>
    let m := n * 10 + digitValue c
    if m < UInt64.size then appendDigits m cs else (n, c :: cs)

def powerOfTen (k : Nat) : Float := Float.ofScientific 1 false k

/-- Divides by ten `k` times, at most `10 ^ 308` at once and no further than to zero. -/
def divideByPower (x : Float) (k : Nat) : Float :=
  if k ≤ 308 then x / powerOfTen k
  else if x == 0 then x
  else divideByPower (x / powerOfTen 308) (k - 308)
termination_by k

def scaled? (n : Nat) (exponent : Int) : Option Float :=
  let x := n.toUInt64.toFloat
  if exponent < 0 then some (divideByPower x (-exponent).toNat)
  else if 308 < exponent then if n = 0 then some x else none
  else
    let y := x * powerOfTen exponent.toNat
    if y.isInf then none else some y

/-- A number in its parts; `fraction` and `exponent` are there if their marks are. -/
structure NumberParts where
  negative : Bool
  whole : List Char
  fraction : Option (List Char)
  /-- Whether it is negative, and its digits. -/
  exponent : Option (Bool × List Char)

def NumberParts.toNumber (p : NumberParts) : Except Fault Number :=
  let signed (x : Float) : Number := .float (if p.negative then -x else x)
  let (n, left) := appendDigits 0 p.whole
  match p.fraction, p.exponent, left with
  | none, none, [] =>
    if !p.negative then .ok (.int n)
    else if 0 < n ∧ n ≤ UInt64.size / 2 then .ok (.int (-n))
    else .ok (signed n.toUInt64.toFloat)
  | fraction, exponent, _ =>
    let fraction := fraction.getD []
    let (n, fractionLeft) := appendDigits n fraction
    let shift : Int := left.length - (fraction.length - fractionLeft.length)
    let power : Int := match exponent with
      | none => 0
      | some (true, ds) => -digitsValue ds
      | some (false, ds) => digitsValue ds
    match scaled? n (shift + power) with
    | some x => .ok (signed x)
    | none => .error .numberRange

/-- A draft and the text behind it, which is missing where the draft ends the text. -/
abbrev Read := Draft × Option (List Char)

def Read.fault (read skipped : Fault) : Read := (.broken read skipped, none)

/-- A number that lacks a digit in front of `cs`. -/
def Read.noDigit : List Char → Read
  | [] => .fault .endInValue .number
  | _ => .fault .number .number

def readExponent (whole : NumberParts) : List Char → Read
  | c :: cs =>
    if c = 'e' ∨ c = 'E' then
      let (negative, cs) := match cs with
        | '+' :: cs => (false, cs)
        | '-' :: cs => (true, cs)
        | _ => (false, cs)
      let digits := cs.takeWhile Char.isDigit
      let rest := cs.dropWhile Char.isDigit
      if digits.isEmpty then .noDigit rest
      else (.num { whole with exponent := some (negative, digits) }.toNumber, some rest)
    else (.num whole.toNumber, some (c :: cs))
  | [] => (.num whole.toNumber, some [])

def readFraction (whole : NumberParts) : List Char → Read
  | '.' :: cs =>
    let digits := cs.takeWhile Char.isDigit
    let rest := cs.dropWhile Char.isDigit
    if digits.isEmpty then .noDigit rest
    else readExponent { whole with fraction := some digits } rest
  | cs => readExponent whole cs

/-- The number behind an optional minus sign. -/
def readUnsigned (negative : Bool) (cs : List Char) : Read :=
  let digits := cs.takeWhile Char.isDigit
  let rest := cs.dropWhile Char.isDigit
  match digits with
  | [] => .noDigit rest
  | '0' :: _ :: _ => .fault .number .number
  | _ => readFraction ⟨negative, digits, none, none⟩ rest

def readNumber : List Char → Read
  | '-' :: cs => readUnsigned true cs
  | cs => readUnsigned false cs

end Worldsmith.Json
