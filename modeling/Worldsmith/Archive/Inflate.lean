import Worldsmith.Archive.Deflate

namespace Worldsmith.Inflate

/-- What is left of a stream: bits of a byte that is partly read, then whole bytes. -/
structure Source where
  rest : Bytes
  waiting : Nat := 0
  count : Nat := 0

def Source.bit? (s : Source) : Option (Nat × Source) :=
  match s.count, s.rest with
  | n + 1, _ => some (s.waiting % 2, { s with waiting := s.waiting / 2, count := n })
  | 0, b :: rest => some (b.toNat % 2, ⟨rest, b.toNat / 2, 7⟩)
  | 0, [] => none

/-- A number of `n` bits, the lowest first. -/
def Source.number? : Nat → Source → Option (Nat × Source)
  | 0, s => some (0, s)
  | n + 1, s => do
    let (low, s) ← s.bit?
    let (high, s) ← s.number? n
    return (low + 2 * high, s)

def Source.align (s : Source) : Source := ⟨s.rest, 0, 0⟩

def Source.take? (n : Nat) (s : Source) : Option (Bytes × Source) :=
  if n ≤ s.rest.length then some (s.rest.take n, ⟨s.rest.drop n, 0, 0⟩) else none

/-- A canonical code: the symbols of each code length, from length 1 on. -/
abbrev Code := List (List Nat)

def Code.ofLengths (lengths : List Nat) : Code :=
  (List.range 15).map fun i =>
    lengths.zipIdx.filterMap fun (length, symbol) => if length = i + 1 then some symbol else none

/-- Reads a symbol. Of the codes of a length, `first` is the first and `read` the one that was
read, without their last bits. -/
def symbolFrom? : Code → (first read : Nat) → Source → Option (Nat × Source)
  | [], _, _, _ => none
  | symbols :: longer, first, read, s => do
    let (b, s) ← s.bit?
    let read := 2 * read + b
    let first := 2 * first
    match symbols[read - first]? with
    | some symbol => return (symbol, s)
    | none => symbolFrom? longer (first + symbols.length) read s

def symbol? (code : Code) (s : Source) : Option (Nat × Source) := symbolFrom? code 0 0 s

/-- Copies bytes that may overlap with their copy. -/
def copyBack? (distance : Nat) : Nat → Array UInt8 → Option (Array UInt8)
  | 0, out => some out
  | n + 1, out =>
    if distance ≤ out.size then
      match out[out.size - distance]? with
      | some b => copyBack? distance n (out.push b)
      | none => none
    else none

def symbols? (literals distances : Code) :
    Nat → Array UInt8 → Source → Option (Array UInt8 × Source)
  | 0, _, _ => none
  | fuel + 1, out, s => do
    let (symbol, s) ← symbol? literals s
    if symbol < 256 then symbols? literals distances fuel (out.push symbol.toUInt8) s
    else if symbol = 256 then return (out, s)
    else
      let base ← Deflate.lengthBases[symbol - 257]?
      let (more, s) ← s.number? (Deflate.lengthExtras.getD (symbol - 257) 0)
      let (code, s) ← symbol? distances s
      let distanceBase ← Deflate.distanceBases[code]?
      let (further, s) ← s.number? (Deflate.distanceExtras.getD code 0)
      let out ← copyBack? (distanceBase + further) (base + more) out
      symbols? literals distances fuel out s

def fixedLiterals : Code :=
  .ofLengths (List.replicate 144 8 ++ List.replicate 112 9 ++ List.replicate 24 7 ++
    List.replicate 8 8)

def fixedDistances : Code := .ofLengths (List.replicate 30 5)

/-- Reads `n` code lengths, in which repetitions have symbols of their own. -/
def lengths? (code : Code) : Nat → Nat → List Nat → Source → Option (List Nat × Source)
  | 0, _, _, _ => none
  | fuel + 1, n, acc, s => do
    if acc.length = n then return (acc.reverse, s)
    else if n < acc.length then none
    else
      let (symbol, s) ← symbol? code s
      if symbol < 16 then lengths? code fuel n (symbol :: acc) s
      else if symbol = 16 then
        let last ← acc.head?
        let (more, s) ← s.number? 2
        lengths? code fuel n (List.replicate (3 + more) last ++ acc) s
      else
        let (more, s) ← s.number? (if symbol = 17 then 3 else 7)
        lengths? code fuel n (List.replicate ((if symbol = 17 then 3 else 11) + more) 0 ++ acc) s

def readNumbers? (width : Nat) : Nat → Source → Option (List Nat × Source)
  | 0, s => some ([], s)
  | n + 1, s => do
    let (x, s) ← s.number? width
    let (xs, s) ← readNumbers? width n s
    return (x :: xs, s)

def lengthOrder : List Nat := [16, 17, 18, 0, 8, 7, 9, 6, 10, 5, 11, 4, 12, 3, 13, 2, 14, 1, 15]

/-- Reads the two codes that a block brings along. -/
def ownCodes? (s : Source) : Option ((Code × Code) × Source) := do
  let (literals, s) ← s.number? 5
  let (distances, s) ← s.number? 5
  let (count, s) ← s.number? 4
  let (given, s) ← readNumbers? 3 (count + 4) s
  let ordered := (List.range 19).map fun symbol =>
    ((lengthOrder.zip given).lookup symbol).getD 0
  let (all, s) ← lengths? (.ofLengths ordered) 400 (literals + 257 + distances + 1) [] s
  return ((.ofLengths (all.take (literals + 257)), .ofLengths (all.drop (literals + 257))), s)

def storedBlock? (out : Array UInt8) (s : Source) : Option (Array UInt8 × Source) := do
  let (length, s) ← s.align.number? 16
  let (complement, s) ← s.number? 16
  if length + complement = 65535 then
    let (bytes, s) ← s.align.take? length
    return (out ++ bytes.toArray, s)
  else none

/-- Reads blocks up to the last one. Each takes at least one bit of the fuel. -/
def blocks? : Nat → Array UInt8 → Source → Option (Array UInt8)
  | 0, _, _ => none
  | fuel + 1, out, s => do
    let (last, s) ← s.bit?
    let (type, s) ← s.number? 2
    let (out, s) ←
      if type = 0 then storedBlock? out s
      else if type = 1 then symbols? fixedLiterals fixedDistances (fuel + 1) out s
      else if type = 2 then do
        let ((literals, distances), s) ← ownCodes? s
        symbols? literals distances (fuel + 1) out s
      else none
    if last = 1 then return out else blocks? fuel out s

def inflate? (bytes : Bytes) : Option Bytes :=
  (blocks? (8 * bytes.length + 8) #[] ⟨bytes, 0, 0⟩).map Array.toList

end Worldsmith.Inflate
