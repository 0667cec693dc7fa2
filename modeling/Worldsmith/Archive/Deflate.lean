import Std.Data.HashMap
import Worldsmith.Text.Bytes

/-!
Compression to a raw deflate stream (RFC 1951). Repeated stretches become references to where they
stood before, which are written with the fixed codes in one block. Data that would grow is stored.
-/

namespace Worldsmith.Deflate

inductive Token
  | literal (b : UInt8)
  /-- A copy of `length` bytes from `distance` bytes before. -/
  | copy (length distance : Nat)
  deriving DecidableEq, Repr

def lengthBases : List Nat :=
  [3, 4, 5, 6, 7, 8, 9, 10, 11, 13, 15, 17, 19, 23, 27, 31, 35, 43, 51, 59, 67, 83, 99, 115, 131,
    163, 195, 227, 258]

def lengthExtras : List Nat :=
  [0, 0, 0, 0, 0, 0, 0, 0, 1, 1, 1, 1, 2, 2, 2, 2, 3, 3, 3, 3, 4, 4, 4, 4, 5, 5, 5, 5, 0]

def distanceBases : List Nat :=
  [1, 2, 3, 4, 5, 7, 9, 13, 17, 25, 33, 49, 65, 97, 129, 193, 257, 385, 513, 769, 1025, 1537, 2049,
    3073, 4097, 6145, 8193, 12289, 16385, 24577]

def distanceExtras : List Nat :=
  [0, 0, 0, 0, 1, 1, 2, 2, 3, 3, 4, 4, 5, 5, 6, 6, 7, 7, 8, 8, 9, 9, 10, 10, 11, 11, 12, 12, 13, 13]

/-- How far the data at `i` agrees with the data at `j`, up to `fuel` bytes. -/
def agreement (data : Array UInt8) (j i : Nat) : Nat → Nat
  | 0 => 0
  | fuel + 1 =>
    match data[j]?, data[i]? with
    | some a, some b => if a = b then agreement data (j + 1) (i + 1) fuel + 1 else 0
    | _, _ => 0

def triple? (data : Array UInt8) (i : Nat) : Option Nat := do
  return (← data[i]?).toNat + 256 * (← data[i + 1]?).toNat + 65536 * (← data[i + 2]?).toNat

/-- A copy for position `i`, whose three bytes were last seen at `j`: how much longer than three
bytes it can be, and its distance. -/
def copyFrom? (data : Array UInt8) (j i : Nat) : Option (Nat × Nat) :=
  let length := agreement data j i 258
  if i - j ≤ 32768 ∧ 3 ≤ length then some (length - 3, i - j) else none

/-- The tokens from position `i` on, where `seen` has the last place of each three bytes. -/
def tokensFrom (data : Array UInt8) (seen : Std.HashMap Nat Nat) (i : Nat) (acc : Array Token) :
    Array Token :=
  if h : i < data.size then
    match triple? data i with
    | none => tokensFrom data seen (i + 1) (acc.push (.literal data[i]))
    | some key =>
      match seen[key]?.bind (copyFrom? data · i) with
      | some (more, distance) =>
        tokensFrom data (seen.insert key i) (i + 3 + more) (acc.push (.copy (3 + more) distance))
      | none => tokensFrom data (seen.insert key i) (i + 1) (acc.push (.literal data[i]))
  else acc
termination_by data.size - i

/-- Whole bytes, and bits that wait for the next one, the first bit lowest. -/
structure Bits where
  bytes : Array UInt8 := #[]
  waiting : Nat := 0
  count : Nat := 0

/-- Moves `n` whole bytes out of the waiting bits. -/
def Bits.flush (w : Bits) : Nat → Bits
  | 0 => w
  | n + 1 => Bits.flush ⟨w.bytes.push w.waiting.toUInt8, w.waiting / 256, w.count - 8⟩ n

def Bits.put (w : Bits) (value width : Nat) : Bits :=
  let count := w.count + width
  Bits.flush ⟨w.bytes, w.waiting + value * Nat.pow 2 w.count, count⟩ (count / 8)

def Bits.finish (w : Bits) : Bytes :=
  (if w.count = 0 then w.bytes else w.bytes.push w.waiting.toUInt8).toList

def reversed : Nat → Nat → Nat
  | 0, _ => 0
  | width + 1, n => n % 2 * Nat.pow 2 width + reversed width (n / 2)

/-- Codes are written from their highest bit. -/
def Bits.putCode (w : Bits) (code width : Nat) : Bits := w.put (reversed width code) width

def Bits.putSymbol (w : Bits) (symbol : Nat) : Bits :=
  if symbol < 144 then w.putCode (0x30 + symbol) 8
  else if symbol < 256 then w.putCode (0x190 + (symbol - 144)) 9
  else if symbol < 280 then w.putCode (symbol - 256) 7
  else w.putCode (0xC0 + (symbol - 280)) 8

/-- The last code whose base is not above `n`, with that base. -/
def codeFor (bases : List Nat) (n : Nat) : Nat × Nat :=
  bases.zipIdx.foldl (fun best (base, i) => if base ≤ n then (i, base) else best) (0, 0)

def Bits.putToken (w : Bits) : Token → Bits
  | .literal b => w.putSymbol b.toNat
  | .copy length distance =>
    let (lengthCode, lengthBase) := codeFor lengthBases length
    let (distanceCode, distanceBase) := codeFor distanceBases distance
    w.putSymbol (257 + lengthCode)
      |>.put (length - lengthBase) (lengthExtras.getD lengthCode 0)
      |>.putCode distanceCode 5
      |>.put (distance - distanceBase) (distanceExtras.getD distanceCode 0)

def fixedBlock (tokens : Array Token) : Bytes :=
  let w := ({} : Bits).put 1 1 |>.put 1 2
  ((tokens.foldl Bits.putToken w).putSymbol 256).finish

def stored (data : Bytes) : Bytes :=
  let block := data.take 65535
  let length := block.length
  let head (last : UInt8) : Bytes :=
    [last, length.toUInt8, (length / 256).toUInt8, (65535 - length).toUInt8,
      ((65535 - length) / 256).toUInt8]
  if _h : data.length ≤ 65535 then head 1 ++ block
  else head 0 ++ block ++ stored (data.drop 65535)
termination_by data.length
decreasing_by simp only [List.length_drop]; omega

/-- The shorter of the two forms. -/
def compress (data : Bytes) : Bytes :=
  let packed := fixedBlock (tokensFrom data.toArray {} 0 #[])
  let plain := stored data
  if packed.length < plain.length then packed else plain

end Worldsmith.Deflate
