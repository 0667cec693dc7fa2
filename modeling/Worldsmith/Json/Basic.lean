import Worldsmith.SortedMap

namespace Worldsmith

inductive Json.Number
  | int (n : Int)
  | float (x : Float)
  deriving Inhabited, BEq, Repr

inductive Json
  | null
  | bool (b : Bool)
  | num (n : Json.Number)
  | str (s : String)
  | arr (items : List Json)
  | obj (fields : List (String × Json))
  deriving Inhabited, BEq, Repr

namespace Json

instance : Coe String Json := ⟨str⟩
instance : Coe Bool Json := ⟨bool⟩
instance : Coe Int Json := ⟨fun n => num (.int n)⟩
instance : Coe Nat Json := ⟨fun n => num (.int n)⟩

def int (n : Int) : Json := num (.int n)

/-- Fields in key order, the last one of a repeated key. -/
def object (fields : List (String × Json)) : Json := obj (SortedMap.ofList fields).entries

def ofMap (m : SortedMap String Json) : Json := obj m.entries

def strings (l : List String) : Json := arr (l.map str)

def get? : Json → String → Option Json
  | obj fields, key => (fields.find? (·.1 == key)).map (·.2)
  | _, _ => none

def str? : Json → Option String
  | str s => some s
  | _ => none

def int? : Json → Option Int
  | num (.int n) => some n
  | _ => none

def arr? : Json → Option (List Json)
  | arr items => some items
  | _ => none

def obj? : Json → Option (List (String × Json))
  | obj fields => some fields
  | _ => none

def bool? : Json → Option Bool
  | bool b => some b
  | _ => none

end Json

end Worldsmith
