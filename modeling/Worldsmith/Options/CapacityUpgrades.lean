import Worldsmith.Game.Basic
import Worldsmith.Options.PlayerOption
import Worldsmith.Options.Setting

namespace Worldsmith

structure CapacityUpgrades where
  type : Int
  /-- The number of items that an upgrade may be split into. -/
  itemCount : Int
  singularName : String
  pluralName : String
  splitField : String
  countField : String
  deriving DecidableEq, Repr

namespace CapacityUpgrades

def init (game : Game) (declared : Json) : CapacityUpgrades :=
  let type := Setting.type declared 8
  let singularName := game.itemName type
  let snake := Text.snakeCase singularName
  { type, singularName
    itemCount := Setting.int declared "item_count" (if game.isHeretic then 6 else 4)
    pluralName := Setting.string declared "combined_plural_name" (singularName ++ "s")
    splitField := "split_" ++ snake
    countField := snake ++ "_count" }

def hookLines (o : CapacityUpgrades) (hook : String) : List String :=
  if hook = "create_items" then
    ["split_opt = self.options." ++ o.splitField,
      "split_items = [i for i in self.matching_items(doom_type=split_opt.split_doom_types).values()]",
      "combined_items = [i for i in self.matching_items(doom_type=split_opt.doom_type).values()]",
      "",
      "# Remove stray capacity upgrades of all types from the pool",
      "item_names = [i.name for i in split_items] + [i.name for i in combined_items]",
      "itempool = [n for n in itempool if n not in item_names]",
      "",
      "# Insert requested types and count of capacity upgrades",
      "if split_opt.value:",
      "    itempool += [i.name for i in split_items for _ in range(self.options." ++ o.countField ++
        ".value)]",
      "else:",
      "    itempool += [i.name for i in combined_items for _ in range(self.options." ++
        o.countField ++ ".value)]"]
  else []

/-- The classes that the shared module has for the usual upgrades. -/
def sharedClasses? (o : CapacityUpgrades) : Option (String × String) :=
  if o.type = 8 ∧ o.singularName = "Backpack" ∧ o.itemCount = 4 then
    some ("SplitBackpack", "BackpackCount")
  else if o.type = 8 ∧ o.singularName = "Bag of Holding" ∧ o.itemCount = 6 then
    some ("SplitBagOfHolding", "BagOfHoldingCount")
  else none

def options (o : CapacityUpgrades) : List PlayerOption :=
  match o.sharedClasses? with
  | some (split, count) =>
    [(PlayerOption.common o.splitField split).inGroup "Randomizer Options",
      (PlayerOption.common o.countField count).inGroup "Randomizer Options"]
  | none =>
    let title := Text.titleCase o.singularName
    let splitName := "Split " ++ title
    [{ (PlayerOption.new o.splitField splitName .capacitySplit).inGroup "Randomizer Options" with
        docstring := ["Split the " ++ o.singularName ++ " into " ++ toString o.itemCount ++
          " individual items, each one increasing ammo capacity for one type of weapon only."]
        type := some o.type
        splitItemCount := o.itemCount },
      { (PlayerOption.new o.countField (title ++ " Count")
          .capacityCount).inGroup "Randomizer Options" with
        docstring := ["How many " ++ o.pluralName ++ " will be available.",
          "If " ++ splitName ++
            " is set, this will be the number of each capacity upgrade available."] }]

end CapacityUpgrades

end Worldsmith
