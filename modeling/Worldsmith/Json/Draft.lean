import Worldsmith.Json.Fault

/-!
A document as it stands in its text: the values that could be read, with every fault in the place
where a reader meets it. A reader that wants the value of a part meets more faults than one that
passes over it, and one that wants a fixed number of elements meets others at the end of an array.
-/

namespace Worldsmith.Json

/-- What a reader meets behind the last element of a container. -/
structure Ending where
  /-- Asking for one more element. -/
  more : Option Fault
  /-- Passing over the container. -/
  skipped : Option Fault
  /-- Wanting no more elements. -/
  enough : Option Fault
  /-- Wanting no more elements while some are left. -/
  surplus : Fault
  deriving Repr

def Ending.closed : Ending := ⟨none, none, none, .trailingCharacters⟩

def Ending.fault (more skipped enough : Fault) : Ending :=
  ⟨some more, some skipped, some enough, .trailingCharacters⟩

/-- The key of an entry, with the characters from its opening quote on. -/
structure Key where
  text : Except Fault String
  raw : List Char

inductive Draft
  | null
  | bool (b : Bool)
  | num (value : Except Fault Number)
  | str (value : Except Fault String)
  | arr (items : List Draft) (ending : Ending)
  | obj (entries : List (Key × Draft)) (ending : Ending)
  /-- A container nested too deeply to be read. -/
  | deep (inner : Draft)
  /-- The text ends in a fault here. -/
  | broken (read skipped : Fault)
  deriving Inhabited

namespace Draft

mutual

def ofJson : Json → Draft
  | .null => .null
  | .bool b => .bool b
  | .num n => .num (.ok n)
  | .str s => .str (.ok s)
  | .arr items =>
    .arr (ofItems items)
      { Ending.closed with surplus := .wrongLength items.length "fewer elements in array" }
  | .obj fields => .obj (ofFields fields) .closed

def ofItems : List Json → List Draft
  | [] => []
  | x :: xs => ofJson x :: ofItems xs

def ofFields : List (String × Json) → List (Key × Draft)
  | [] => []
  | (k, x) :: xs => (⟨.ok k, k.toList ++ ['"']⟩, ofJson x) :: ofFields xs

end

def stop : Option Fault → Except Fault Unit
  | none => .ok ()
  | some f => .error f

mutual

def skip : Draft → Except Fault Unit
  | null | bool _ | num _ | str _ => .ok ()
  | arr items ending => do skipItems items; stop ending.skipped
  | obj entries ending => do skipEntries entries; stop ending.skipped
  | deep inner => skip inner
  | broken _ f => .error f

def skipItems : List Draft → Except Fault Unit
  | [] => .ok ()
  | d :: ds => do skip d; skipItems ds

def skipEntries : List (Key × Draft) → Except Fault Unit
  | [] => .ok ()
  | (_, d) :: ds => do skip d; skipEntries ds

end

mutual

def toJson : Draft → Except Fault Json
  | null => .ok .null
  | bool b => .ok (.bool b)
  | num value => value.map .num
  | str value => value.map .str
  | arr items ending => do
    let items ← toItems items
    stop ending.more
    return .arr items
  | obj entries ending => do
    let fields ← toFields entries
    stop ending.more
    return .object fields
  | deep _ => .error .depth
  | broken f _ => .error f

def toItems : List Draft → Except Fault (List Json)
  | [] => .ok []
  | d :: ds => do return (← toJson d) :: (← toItems ds)

def toFields : List (Key × Draft) → Except Fault (List (String × Json))
  | [] => .ok []
  | (k, d) :: ds => do return (← k.text, ← toJson d) :: (← toFields ds)

end

end Draft

end Worldsmith.Json
