import Worldsmith.Json.Reader
import Worldsmith.Text.Display

/-!
Readers of drafts: scalars, lists, maps and records. A record is described by a `Form`, which is
filled from the fields of an object in the order of the text, or from the elements of an array in
the order of its fields. The first fault in the order of the text is the one reported.
-/

namespace Worldsmith.Json

abbrev Reader (α : Type) := Draft → Except Fault α

namespace Draft

/-- The fault of a draft that is not of the expected type; that of a broken scalar comes first. -/
def mismatch (expected : String) : Draft → Fault
  | null => .wrongType "null" expected
  | bool b => .wrongType ("boolean `" ++ toString b ++ "`") expected
  | num (.ok n) => .wrongType n.description expected
  | str (.ok s) => .wrongType ("string " ++ Text.display s) expected
  | num (.error f) | str (.error f) => f
  | arr .. => .wrongType "sequence" expected
  | obj .. => .wrongType "map" expected
  | deep inner => mismatch expected inner
  | broken f _ => f

end Draft

namespace Reader

def bool : Reader Bool
  | .bool b => .ok b
  | d => .error (d.mismatch "a boolean")

def string : Reader String
  | .str (.ok s) => .ok s
  | d => .error (d.mismatch "a string")

/-- Integers from `lo` to `hi`, the values of a type of numbers. -/
def integer (type : String) (lo hi : Int) : Reader Int
  | .num (.ok (.int n)) =>
    if lo ≤ n ∧ n ≤ hi then .ok n else .error (.wrongValue n type)
  | d => .error (d.mismatch type)

def int16 : Reader Int := integer "i16" (-0x8000) 0x7FFF

def int32 : Reader Int := integer "i32" (-0x80000000) 0x7FFFFFFF

def int64 : Reader Int := integer "i64" (-0x8000000000000000) 0x7FFFFFFFFFFFFFFF

def size : Reader Nat := fun d => (integer "usize" 0 0xFFFFFFFFFFFFFFFF d).map Int.toNat

def anyNumber (type : String) : Reader Unit
  | .num (.ok _) => .ok ()
  | d => .error (d.mismatch type)

def nullable {α : Type} (read : Reader α) : Reader (Option α)
  | .null => .ok none
  | d => (read d).map some

/-- Any value but `null`. -/
def passthrough : Reader (Option Json) := nullable Draft.toJson

def list {α : Type} (read : Reader α) : Reader (List α)
  | .arr items ending => do
    let l ← items.mapM read
    Draft.stop ending.more
    return l
  | d => .error (d.mismatch "a sequence")

def array {α : Type} (n : Nat) (read : Reader α) : Reader (List α)
  | .arr items ending => do
    let l ← (items.take n).mapM read
    if items.length < n then
      Draft.stop ending.more
      throw (.wrongLength items.length ("an array of length " ++ toString n))
    if n < items.length then throw ending.surplus
    Draft.stop ending.enough
    return l
  | d => .error (d.mismatch ("an array of length " ++ toString n))

def oneOrMany : Reader (List String)
  | .null => .ok []
  | d => do
    match ← d.toJson with
    | .str s => return [s]
    | .arr items =>
      match items.mapM Json.str? with
      | some l => return l
      | none => throw (.noVariant "OneOrMany")
    | _ => throw (.noVariant "OneOrMany")

def entries {κ α : Type} (key : Key → Except Fault κ) (read : Reader α) :
    List (Key × Draft) → Except Fault (List (κ × α))
  | [] => .ok []
  | (k, d) :: rest => do return (← key k, ← read d) :: (← entries key read rest)

def map {κ α : Type} [Ord κ] [Std.TransOrd κ] [Std.LawfulEqOrd κ] (key : Key → Except Fault κ)
    (read : Reader α) : Reader (SortedMap κ α)
  | .obj es ending => do
    let l ← entries key read es
    Draft.stop ending.more
    return SortedMap.ofList l
  | d => .error (d.mismatch "a map")

/-- An integer in quotes, with no escapes. -/
def integerKey (type : String) (lo hi : Int) (k : Key) : Except Fault Int :=
  match k.raw with
  | [] => .error .numericKey
  | c :: _ =>
    if c = '-' ∨ c.isDigit then do
      let (d, rest) := readNumber k.raw
      let n ← integer type lo hi d
      match rest with
      | some ('"' :: _) => return n
      | _ => throw .numericKeyEnd
    else .error .numericKey

def stringMap {α : Type} (read : Reader α) : Reader (SortedMap String α) := map Key.text read

def int32Map {α : Type} (read : Reader α) : Reader (SortedMap Int α) :=
  map (integerKey "i32" (-0x80000000) 0x7FFFFFFF) read

def int64Map {α : Type} (read : Reader α) : Reader (SortedMap Int α) :=
  map (integerKey "i64" (-0x8000000000000000) 0x7FFFFFFFFFFFFFFF) read

def sizeMap {α : Type} (read : Reader α) : Reader (SortedMap Nat α) :=
  map (fun k => (integerKey "usize" 0 0xFFFFFFFFFFFFFFFF k).map Int.toNat) read

end Reader

/-- A record in the making: what is built from the fields so far, the next field with its reader,
the value it takes when it is absent, and the value it got. -/
inductive Form : Type → Type 1
  | done {α : Type} (a : α) : Form α
  | field {α β : Type} (before : Form (β → α)) (name : String) (read : Reader β)
      (absent got : Option β) : Form α

namespace Form

def need {α β : Type} (before : Form (β → α)) (name : String) (read : Reader β) : Form α :=
  .field before name read none none

def default {α β : Type} (before : Form (β → α)) (name : String) (read : Reader β) (b : β) :
    Form α :=
  .field before name read (some b) none

def size : {α : Type} → Form α → Nat
  | _, done _ => 0
  | _, field before .. => before.size + 1

/-- Fills the named field, if the form has it. -/
def offer (key : String) (d : Draft) : {α : Type} → Form α → Option (Except Fault (Form α))
  | _, done _ => none
  | _, field before name read absent got =>
    if key = name then
      match got with
      | some _ => some (.error (.duplicateField name))
      | none =>
        match read d with
        | .ok b => some (.ok (.field before name read absent (some b)))
        | .error f => some (.error f)
    else
      match before.offer key d with
      | none => none
      | some (.ok before) => some (.ok (.field before name read absent got))
      | some (.error f) => some (.error f)

def finish : {α : Type} → Form α → Except Fault α
  | _, done a => .ok a
  | _, field before name _ absent got => do
    let f ← before.finish
    match got, absent with
    | some b, _ => return f b
    | none, some b => return f b
    | none, none => throw (.missingField name)

/-- Offers every entry; `other` checks the ones that the form has no field for. -/
def absorb {α : Type} (other : Draft → Except Fault Unit) (form : Form α) :
    List (Key × Draft) → Except Fault (Form α)
  | [] => .ok form
  | (k, d) :: rest =>
    match k.text with
    | .error f => .error f
    | .ok key =>
      match form.offer key d with
      | some (.ok form) => form.absorb other rest
      | some (.error f) => .error f
      | none =>
        match other d with
        | .ok () => form.absorb other rest
        | .error f => .error f

def has (key : String) : {α : Type} → Form α → Bool
  | _, done _ => false
  | _, field before name .. => key == name || before.has key

def positional (record : String) (ending : Ending) :
    {α : Type} → Form α → List Draft → Except Fault (α × List Draft)
  | _, done a, items => .ok (a, items)
  | _, field before _ read absent _, items => do
    let (f, items) ← before.positional record ending items
    match items with
    | d :: ds => return (f (← read d), ds)
    | [] =>
      Draft.stop ending.more
      match absent with
      | some b => return (f b, [])
      | none => throw (.wrongLength before.size record)

/-- Reads a record from an object or from an array of its fields. -/
def read {α : Type} (name : String) (form : Form α) : Reader α
  | .obj entries ending =>
    match form.absorb Draft.skip entries with
    | .error f => .error f
    | .ok form => do
      Draft.stop ending.more
      form.finish
  | .arr items ending => do
    let record := "struct " ++ name ++ " with " ++ toString form.size ++
      (if form.size = 1 then " element" else " elements")
    let (a, left) ← form.positional record ending items
    if left.isEmpty then
      Draft.stop ending.enough
      return a
    else throw ending.surplus
  | d => .error (d.mismatch ("struct " ++ name))

/-- Reads a record that has the fields of another one beside its own. Fields that are not its own
are all read before any of them is looked at. -/
def readExtended {α β : Type} (name : String) (own : Form (β → α)) (inner : Form β) : Reader α
  | .obj entries ending =>
    match own.absorb (fun d => d.toJson.map fun _ => ()) entries with
    | .error f => .error f
    | .ok filled => do
      Draft.stop ending.more
      let f ← filled.finish
      let others := entries.filter fun e => !(e.1.text.toOption.any own.has)
      match inner.absorb (fun _ => .ok ()) others with
      | .error f => .error f
      | .ok inner => return f (← inner.finish)
  | d => .error (d.mismatch ("struct " ++ name))

end Form

end Worldsmith.Json
