import Worldsmith.Json.Basic

namespace Worldsmith.Setting

def string (j : Json) (key default : String) : String := ((j.get? key).bind Json.str?).getD default

/-- Integers of 64 bits. -/
def int (j : Json) (key : String) (default : Int) : Int :=
  match (j.get? key).bind Json.int? with
  | some n => if -0x8000000000000000 ≤ n ∧ n < 0x8000000000000000 then n else default
  | none => default

/-- A type code, of which the low 32 bits count. -/
def type (j : Json) (default : Int) : Int := (int j "doom_type" default).bmod 0x100000000

def list (j : Json) (key : String) : List Json := ((j.get? key).bind Json.arr?).getD []

end Worldsmith.Setting
