import Worldsmith.Diagnostic
import Worldsmith.Options.AmmoCapacity
import Worldsmith.Options.CapacityUpgrades
import Worldsmith.Options.Difficulty
import Worldsmith.Options.InvisibilityTrap
import Worldsmith.Options.StartWithMaps

namespace Worldsmith

inductive WorldOption
  | difficulty (o : Difficulty)
  | startWithMaps (o : StartWithMaps)
  | invisibilityTrap (o : InvisibilityTrap)
  | ammoCapacity (o : AmmoCapacity)
  | capacityUpgrades (o : CapacityUpgrades)
  deriving DecidableEq, Repr

namespace WorldOption

def hookLines (hook : String) : WorldOption → List String
  | difficulty _ => []
  | startWithMaps o => o.hookLines hook
  | invisibilityTrap o => o.hookLines hook
  | ammoCapacity o => o.hookLines hook
  | capacityUpgrades o => o.hookLines hook

def options : WorldOption → List PlayerOption
  | difficulty o => o.options
  | startWithMaps o => o.options
  | invisibilityTrap o => o.options
  | ammoCapacity o => o.options
  | capacityUpgrades o => o.options

abbrev Init := Game → Json → WorldOption

abbrev Registry := List (String × Init)

def builtin : Registry :=
  [("Difficulty", fun game declared => difficulty (Difficulty.init game declared)),
    ("Start with Maps", fun game declared => startWithMaps (StartWithMaps.init game declared)),
    ("Invis as Trap", fun game declared => invisibilityTrap (InvisibilityTrap.init game declared)),
    ("Custom Ammo Capacity", fun game _ => ammoCapacity (AmmoCapacity.init game)),
    ("Capacity Upgrades",
      fun game declared => capacityUpgrades (CapacityUpgrades.init game declared))]

def declaredName (declared : Json) : String := Setting.string declared "name" "(no name)"

end WorldOption

/-- The options of a game with their names, in the order of their first declarations. -/
abbrev WorldOptions := List (String × WorldOption)

namespace WorldOptions

def initFrom (registry : WorldOption.Registry) (game : Game) (seen : List String) :
    List Json → WorldOptions × Diagnostics
  | [] => ([], [])
  | declared :: rest =>
    let name := WorldOption.declaredName declared
    match registry.find? (·.1 == name) with
    | none =>
      let (options, noted) := initFrom registry game seen rest
      (options, ⟨.unknownWorldOption, "Unknown world option '" ++ name ++ "'!"⟩ :: noted)
    | some (_, init) =>
      if seen.contains name then initFrom registry game seen rest
      else
        let (options, noted) := initFrom registry game (name :: seen) rest
        ((name, init game declared) :: options, noted)

def init (registry : WorldOption.Registry) (game : Game) : WorldOptions × Diagnostics :=
  initFrom registry game [] game.worldInfo.worldOptions

/-- A block of code between two marks, with blank lines behind it. -/
def fenced (what : String) (lines : List String) (spacing : Nat) : List String :=
  ["######## Custom code for " ++ what ++ " begins here ########"] ++ lines ++
    ["######## Custom code for " ++ what ++ " ends here ########"] ++ List.replicate spacing ""

def block (hook : String) (spacing : Nat) (o : String × WorldOption) : List String :=
  let lines := o.2.hookLines hook
  if lines.isEmpty then [] else fenced ("world option '" ++ o.1 ++ "'") lines spacing

/-- The block that the game itself puts into a hook. -/
def ownBlock (game : Game) (hook : String) (spacing : Nat) : List String :=
  match game.worldInfo.hooks.get? hook with
  | some lines => fenced "this world" lines spacing
  | none => []

def hookLines (game : Game) (options : WorldOptions) (hook : String) (spacing : Nat) :
    List String :=
  ownBlock game hook spacing ++ options.flatMap (block hook spacing)

def playerOptions (options : WorldOptions) : List PlayerOption := options.flatMap (·.2.options)

end WorldOptions

end Worldsmith
