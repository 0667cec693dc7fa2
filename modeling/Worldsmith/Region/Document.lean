import Worldsmith.Json.Basic
import Worldsmith.Level.Index

namespace Worldsmith

/-- Items that are all needed, and items of which one is needed. -/
structure RuleGroup where
  all : List String := []
  any : List String := []
  deriving DecidableEq, Repr

def RuleGroup.isEmpty (g : RuleGroup) : Bool := g.all.isEmpty && g.any.isEmpty

structure ConnectionDoc where
  target : String
  /-- Options that must be on. -/
  requires : List String := []
  /-- Groups of which one must be met, if there are any. -/
  rules : List RuleGroup := []
  deriving DecidableEq, Repr

structure RegionDoc where
  name : String
  connections : List ConnectionDoc
  /-- The level, which the hub has none of. -/
  level : Option LevelIndex := none
  deriving DecidableEq, Repr

def Json.optionalList (name : String) (items : List Json) : List (String × Json) :=
  if items.isEmpty then [] else [(name, .arr items)]

def Json.exmx (l : LevelIndex) : Json := .arr [.int l.exmx.1, .int l.exmx.2]

def RuleGroup.toJson (g : RuleGroup) : Json :=
  .object (Json.optionalList "and" (g.all.map Json.str) ++
    Json.optionalList "or" (g.any.map Json.str))

def ConnectionDoc.toJson (c : ConnectionDoc) : Json :=
  .object (("_target", Json.str c.target) ::
    (Json.optionalList "requires" (c.requires.map Json.str) ++
    Json.optionalList "rules" (c.rules.map RuleGroup.toJson)))

def RegionDoc.toJson (r : RegionDoc) : Json :=
  .object ([("_name", .str r.name),
    ("connections", .arr (r.connections.map ConnectionDoc.toJson))] ++
    match r.level with
    | some level => [("exmx", Json.exmx level)]
    | none => [])

end Worldsmith
