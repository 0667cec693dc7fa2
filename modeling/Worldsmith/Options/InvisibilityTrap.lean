import Worldsmith.Game.Basic
import Worldsmith.Options.PlayerOption
import Worldsmith.Options.Setting

namespace Worldsmith

structure InvisibilityTrap where
  type : Int
  itemName : String
  field : String
  deriving DecidableEq, Repr

namespace InvisibilityTrap

def init (game : Game) (declared : Json) : InvisibilityTrap :=
  let type := Setting.type declared 2024
  let itemName := game.itemName type
  { type, itemName, field := Text.snakeCase itemName ++ "_as_trap" }

def hookLines (o : InvisibilityTrap) (hook : String) : List String :=
  if hook = "create_item" then
    ["invis_trap = self.options." ++ o.field,
      "if invis_trap.value and item_data.doom_type == invis_trap.doom_type:",
      "    classification = AP.ItemClassification.trap"]
  else []

def options (o : InvisibilityTrap) : List PlayerOption :=
  if o.type = 2024 ∧ o.itemName = "Partial invisibility" then
    [(PlayerOption.bound o.field .invisibilityTrap).inGroup "Randomizer Options"]
  else
    [{ (PlayerOption.new o.field (Text.titleCase o.itemName ++ " as Trap")
        .invisibilityTrap).inGroup "Randomizer Options" with
      docstring := ["If enabled, " ++ o.itemName ++
          " will be classified as a trap, rather than just filler.",
        "This does not change how the item behaves, only how Archipelago sees it."]
      type := some o.type }]

end InvisibilityTrap

end Worldsmith
