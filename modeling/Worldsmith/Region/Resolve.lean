import Worldsmith.Catalog.Basic
import Worldsmith.Diagnostic
import Worldsmith.Region.Document
import Worldsmith.Region.Name

/-!
From the authored graph of each level to region documents. A connection whose target or one of whose
codes stands for nothing is left out and noted; the ones to the level exit have no document, as
completing a level is a location.
-/

namespace Worldsmith

inductive ConnectionFault
  | requirement (level : String) (code : Int)
  | option (level : String) (code : Int)
  | region (level : String) (index : Nat)
  | target (level : String) (code : Int)
  deriving DecidableEq, Repr

def ConnectionFault.message : ConnectionFault → String
  | requirement level code => level ++ ": no item matches requirement type " ++ toString code
  | option level code => level ++ ": no option requirement matches type " ++ toString code
  | region level index => level ++ ": connection targets missing region #" ++ toString index
  | target level code => level ++ ": connection has unknown target code " ++ toString code

namespace Game

/-- The name of the item that a type stands for in the rules of a level. Unique items and keys are
the level's own copies. -/
def requiredItem (game : Game) (level : String) (code : Int) : Except ConnectionFault String :=
  match game.uniqueProgression.find? (·.type == code) with
  | some t => .ok (level ++ " - " ++ t.name)
  | none =>
    match game.keyOf? code with
    | some key => .ok (level ++ " - " ++ key.item.name)
    | none =>
      match game.requirable.find? (·.type == code) with
      | some t => .ok t.name
      | none => .error (.requirement level code)

def requiredOption (game : Game) (level : String) (code : Int) : Except ConnectionFault String :=
  match game.extraRequirements.find? (·.type == code) with
  | some t => .ok t.name
  | none => .error (.option level code)

/-- The names of the options among some codes and the names of the items among them. -/
def resolveCodes (game : Game) (level : String) :
    List Int → Except ConnectionFault (List String × List String)
  | [] => .ok ([], [])
  | code :: codes =>
    if code < 0 then do
      let name ← game.requiredOption level code
      let (options, items) ← game.resolveCodes level codes
      return (name :: options, items)
    else do
      let name ← game.requiredItem level code
      let (options, items) ← game.resolveCodes level codes
      return (options, name :: items)

def connectionDoc (game : Game) (c : Connection) (level target : String) :
    Except ConnectionFault ConnectionDoc := do
  let (optionsAnd, all) ← game.resolveCodes level c.requirementsAnd
  let (optionsOr, any) ← game.resolveCodes level c.requirementsOr
  let group : RuleGroup := { all, any }
  return ⟨target, optionsAnd ++ optionsOr, if group.isEmpty then [] else [group]⟩

end Game

namespace Level

/-- The name of the region that a target stands for; the exit has none. -/
def destination? (level : Level) : Target → Except ConnectionFault (Option String)
  | .levelExit => .ok none
  | .hubEntrance => .ok (some (entranceName level.name))
  | .region i =>
    match level.data.rules.regions[i]? with
    | some region => .ok (some (regionName level.name region.name))
    | none => .error (.region level.name i)
  | .unknown code => .error (.target level.name code)

def connectionDoc? (game : Game) (level : Level) (c : Connection) :
    Except ConnectionFault (Option ConnectionDoc) := do
  match ← level.destination? c.target with
  | none => return none
  | some target => return some (← game.connectionDoc c level.name target)

def connectionDocs (game : Game) (level : Level) :
    List Connection → List ConnectionDoc × Diagnostics
  | [] => ([], [])
  | c :: cs =>
    let (docs, noted) := level.connectionDocs game cs
    match level.connectionDoc? game c with
    | .ok none => (docs, noted)
    | .ok (some doc) => (doc :: docs, noted)
    | .error fault => (docs, ⟨.unresolvedConnection, fault.message⟩ :: noted)

def nodes (level : Level) : List (String × List Connection) :=
  (entranceName level.name, level.data.rules.entrance) ::
    level.data.rules.regions.map fun r => (regionName level.name r.name, r.connections)

def regionDocs (game : Game) (level : Level) : List (RegionDoc × Diagnostics) :=
  level.nodes.map fun (name, connections) =>
    let (docs, noted) := level.connectionDocs game connections
    (⟨name, docs, some level.index⟩, noted)

end Level

/-- Leads to the entrance of every level whose unlock item is held. -/
def hubDoc (levels : List Level) : RegionDoc where
  name := hubName
  connections := levels.map fun level =>
    { target := entranceName level.name, rules := [{ all := [level.name] }] }

def regionDocs (game : Game) (levels : List Level) : List RegionDoc × Diagnostics :=
  let docs := levels.flatMap (·.regionDocs game)
  (hubDoc levels :: docs.map (·.1), docs.flatMap (·.2))

end Worldsmith
