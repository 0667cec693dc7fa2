import Worldsmith.Game.Basic
import Worldsmith.Options.PlayerOption
import Worldsmith.Options.Setting

namespace Worldsmith

structure StartWithMaps where
  type : Int
  pluralName : String
  field : String
  deriving DecidableEq, Repr

namespace StartWithMaps

def init (game : Game) (declared : Json) : StartWithMaps :=
  let type := Setting.type declared (if game.isHeretic then 35 else 2026)
  let pluralName := Setting.string declared "plural_name" (game.itemName type ++ "s")
  { type, pluralName, field := "start_with_" ++ Text.snakeCase pluralName }

def hookLines (o : StartWithMaps) (hook : String) : List String :=
  if hook = "create_items" then
    ["map_opt = self.options." ++ o.field,
      "if map_opt.value:",
      "    map_items = [pop_from_pool(i.name) for i in self.matching_items(doom_type=map_opt.doom_type).values()]",
      "    [self.multiworld.push_precollected(self.create_item(n)) for n in map_items if n is not None]"]
  else []

/-- The class that the shared module has for the usual maps. -/
def sharedClass? (o : StartWithMaps) : Option String :=
  if o.type = 2026 ∧ o.pluralName = "Computer area maps" then some "StartWithComputerAreaMaps"
  else if o.type = 35 ∧ o.pluralName = "Map Scrolls" then some "StartWithMapScrolls"
  else none

def options (o : StartWithMaps) : List PlayerOption :=
  match o.sharedClass? with
  | some name => [(PlayerOption.common o.field name).inGroup "Randomizer Options"]
  | none =>
    [{ (PlayerOption.new o.field ("Start With " ++ Text.titleCase o.pluralName)
        .startWithMaps).inGroup "Randomizer Options" with
      docstring := ["If enabled, all " ++ o.pluralName ++
        " will be given to the player from the start."]
      type := some o.type }]

end StartWithMaps

end Worldsmith
