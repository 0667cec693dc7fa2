import Worldsmith.Json.Draft

/-!
The string at the head of a text, behind its opening quote. Characters outside the basic plane may
be escaped as a pair of UTF-16 surrogates, which is joined when the string is read and left alone
when it is passed over.
-/

namespace Worldsmith.Json

/-- A character of a string, or a UTF-16 unit given by its number. -/
inductive Piece
  | char (c : Char)
  | unit (n : Nat)
  deriving DecidableEq, Repr

/-- A string that does not end. The second fault is the one that is met when the first half of a
surrogate pair stands before this place. -/
structure Unended where
  fault : Fault
  afterHalf : Fault
  deriving Repr

abbrev Pieces := List Piece × Except Unended (List Char)

def hexValue? (c : Char) : Option Nat :=
  if '0' ≤ c ∧ c ≤ '9' then some (c.toNat - 48)
  else if 'a' ≤ c ∧ c ≤ 'f' then some (c.toNat - 87)
  else if 'A' ≤ c ∧ c ≤ 'F' then some (c.toNat - 55)
  else none

def hexUnit? (a b c d : Char) : Option Nat := do
  return 4096 * (← hexValue? a) + 256 * (← hexValue? b) + 16 * (← hexValue? c) + (← hexValue? d)

def byteLength (cs : List Char) : Nat := cs.foldr (fun c n => c.utf8Size + n) 0

def simpleEscape? : Char → Option Char
  | '"' => some '"'
  | '\\' => some '\\'
  | '/' => some '/'
  | 'b' => some (Char.ofNat 8)
  | 'f' => some (Char.ofNat 12)
  | 'n' => some '\n'
  | 'r' => some '\r'
  | 't' => some '\t'
  | _ => none

def pieces : List Char → Pieces
  | [] => ([], .error ⟨.endInString, .endInString⟩)
  | '"' :: cs => ([], .ok cs)
  | ['\\'] => ([], .error ⟨.endInString, .endInString⟩)
  | '\\' :: 'u' :: a :: b :: c :: d :: cs =>
    match hexUnit? a b c d with
    | some n => let (ps, rest) := pieces cs; (.unit n :: ps, rest)
    | none => ([], .error ⟨.escape, .escape⟩)
  | '\\' :: 'u' :: cs =>
    if byteLength cs < 4 then ([], .error ⟨.endInString, .endInString⟩)
    else ([], .error ⟨.escape, .escape⟩)
  | '\\' :: c :: cs =>
    match simpleEscape? c with
    | some c => let (ps, rest) := pieces cs; (.char c :: ps, rest)
    | none => ([], .error ⟨.escape, .hexEscapeEnd⟩)
  | c :: cs =>
    if c.toNat < 32 then ([], .error ⟨.controlCharacter, .hexEscapeEnd⟩)
    else let (ps, rest) := pieces cs; (.char c :: ps, rest)

def isHighHalf (n : Nat) : Bool := 0xD800 ≤ n && n ≤ 0xDBFF

def isLowHalf (n : Nat) : Bool := 0xDC00 ≤ n && n ≤ 0xDFFF

def join (unended : Option Unended) : List Piece → Except Fault (List Char)
  | [] =>
    match unended with
    | none => .ok []
    | some u => .error u.fault
  | .char c :: ps => (join unended ps).map (c :: ·)
  | [.unit n] =>
    if isLowHalf n then .error .loneSurrogate
    else if isHighHalf n then .error ((unended.map (·.afterHalf)).getD .hexEscapeEnd)
    else
      match unended with
      | none => .ok [Char.ofNat n]
      | some u => .error u.fault
  | .unit n :: .unit m :: ps =>
    if isLowHalf n then .error .loneSurrogate
    else if isHighHalf n then
      if isLowHalf m then
        (join unended ps).map (Char.ofNat ((n - 0xD800) * 1024 + (m - 0xDC00) + 0x10000) :: ·)
      else .error .loneSurrogate
    else (join unended (.unit m :: ps)).map (Char.ofNat n :: ·)
  | .unit n :: .char c :: ps =>
    if isLowHalf n then .error .loneSurrogate
    else if isHighHalf n then .error .hexEscapeEnd
    else (join unended (.char c :: ps)).map (Char.ofNat n :: ·)

structure StringRead where
  text : Except Fault String
  /-- The text behind the closing quote, as far as passing over finds one. -/
  rest : Except Fault (List Char)

def readString (cs : List Char) : StringRead :=
  let (ps, rest) := pieces cs
  let unended := match rest with
    | .ok _ => none
    | .error u => some u
  ⟨(join unended ps).map String.ofList, rest.mapError (·.fault)⟩

end Worldsmith.Json
