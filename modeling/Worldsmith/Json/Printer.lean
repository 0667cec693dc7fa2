import Worldsmith.Json.Basic
import Worldsmith.Decimal.Shortest

namespace Worldsmith.Json

def zeros (n : Nat) : List Char := List.replicate n '0'

/-- Positional from `10 ^ -5` up to `10 ^ 16`, where `point` digits stand before the point, and with
an exponent outside. -/
def decimalText (digits : List Char) (point : Int) : List Char :=
  if 0 < point ∧ point ≤ 16 then
    if digits.length ≤ point.toNat then
      digits ++ zeros (point.toNat - digits.length) ++ ['.', '0']
    else digits.take point.toNat ++ '.' :: digits.drop point.toNat
  else if -5 < point ∧ point ≤ 0 then
    '0' :: '.' :: (zeros (-point).toNat ++ digits)
  else
    let exponent := point - 1
    let power := (if 0 ≤ exponent then ['+'] else ['-']) ++ (Nat.repr exponent.natAbs).toList
    match digits with
    | [] => []
    | [d] => d :: 'e' :: power
    | d :: ds => d :: '.' :: (ds ++ 'e' :: power)

def floatText (x : Float) : List Char :=
  let bits := x.toBits
  let sign := if bits.toNat / Nat.pow 2 63 = 1 then ['-'] else []
  let binary := Decimal.Binary.ofBits bits
  if binary.mantissa = 0 then sign ++ ['0', '.', '0']
  else
    let shortest := binary.shortest
    let digits := (Nat.repr shortest.digits).toList
    sign ++ decimalText digits (digits.length + shortest.exponent)

def Number.text : Number → List Char
  | .int n => (toString n).toList
  | .float x => if x.isFinite then floatText x else "null".toList

def hexDigit (n : Nat) : Char := if n < 10 then Char.ofNat (48 + n) else Char.ofNat (87 + n)

def escape (c : Char) : List Char :=
  if c = '"' then ['\\', '"']
  else if c = '\\' then ['\\', '\\']
  else if c = '\n' then ['\\', 'n']
  else if c = '\r' then ['\\', 'r']
  else if c = '\t' then ['\\', 't']
  else if c = Char.ofNat 8 then ['\\', 'b']
  else if c = Char.ofNat 12 then ['\\', 'f']
  else if c.toNat < 32 then ['\\', 'u', '0', '0', hexDigit (c.toNat / 16), hexDigit (c.toNat % 16)]
  else [c]

def quote (s : String) : List Char := '"' :: (s.toList.flatMap escape ++ ['"'])

mutual

def compactChars : Json → List Char
  | null => "null".toList
  | bool true => "true".toList
  | bool false => "false".toList
  | num n => n.text
  | str s => quote s
  | arr [] => ['[', ']']
  | arr (x :: xs) => '[' :: (compactChars x ++ compactItems xs)
  | obj [] => ['{', '}']
  | obj ((k, x) :: xs) => '{' :: (quote k ++ ':' :: (compactChars x ++ compactFields xs))

def compactItems : List Json → List Char
  | [] => [']']
  | x :: xs => ',' :: (compactChars x ++ compactItems xs)

def compactFields : List (String × Json) → List Char
  | [] => ['}']
  | (k, x) :: xs => ',' :: (quote k ++ ':' :: (compactChars x ++ compactFields xs))

end

def newline (depth : Nat) : List Char := '\n' :: List.replicate depth '\t'

mutual

def prettyChars (depth : Nat) : Json → List Char
  | arr (x :: xs) =>
    '[' :: (newline (depth + 1) ++ prettyChars (depth + 1) x ++ prettyItems depth xs)
  | obj ((k, x) :: xs) =>
    '{' :: (newline (depth + 1) ++ quote k ++ [':', ' '] ++ prettyChars (depth + 1) x ++
      prettyFields depth xs)
  | null => compactChars null
  | bool b => compactChars (bool b)
  | num n => compactChars (num n)
  | str s => compactChars (str s)
  | arr [] => ['[', ']']
  | obj [] => ['{', '}']

def prettyItems (depth : Nat) : List Json → List Char
  | [] => newline depth ++ [']']
  | x :: xs => ',' :: (newline (depth + 1) ++ prettyChars (depth + 1) x ++ prettyItems depth xs)

def prettyFields (depth : Nat) : List (String × Json) → List Char
  | [] => newline depth ++ ['}']
  | (k, x) :: xs =>
    ',' :: (newline (depth + 1) ++ quote k ++ [':', ' '] ++ prettyChars (depth + 1) x ++
      prettyFields depth xs)

end

inductive Style
  /-- Indented with tabs, one element a line. -/
  | pretty
  /-- No blank anywhere. -/
  | compact
  deriving DecidableEq, Repr

def compact (j : Json) : String := String.ofList j.compactChars

def pretty (j : Json) : String := String.ofList (j.prettyChars 0)

def render (j : Json) : Style → String
  | .pretty => j.pretty
  | .compact => j.compact

end Worldsmith.Json
