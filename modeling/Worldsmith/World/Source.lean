import Worldsmith.Game.Basic
import Worldsmith.Options.PlayerOption

namespace Worldsmith

open Text (indentLines quoted)

def headerLines (game : Game) (what : String) : List String :=
  ["# " ++ what ++ " for " ++ game.fullName ++ ".",
    "# This file is generated; edits will be lost the next time the world is built.", ""]

/-- Adds a member to its group, or a group with it at the end. -/
def addMember (group member : String) :
    List (String × List String) → List (String × List String)
  | [] => [(group, [member])]
  | (g, members) :: rest =>
    if g = group then (g, members ++ [member]) :: rest
    else (g, members) :: addMember group member rest

/-- The groups in the order in which they first appear, each with its classes. -/
def optionGroups (options : List PlayerOption) : List (String × List String) :=
  options.foldl
    (fun groups o =>
      match o.group with
      | some group => addMember group o.className groups
      | none => groups) []

def groupLines (group : String × List String) : List String :=
  ["    BaseOptions.OptionGroup(" ++ quoted group.1 ++ ", ["] ++
    group.2.map (fun member => "        " ++ member ++ ",") ++ ["    ]),"]

def optionsSource (game : Game) (options : List PlayerOption) : String :=
  indentLines 0 (headerLines game "Options" ++
    ["import typing", "from dataclasses import dataclass", "", "import Options as BaseOptions",
      "from .id1common import options as id1Options", "", ""]) ++
  String.join (options.map (·.classText)) ++
  indentLines 0 ["@dataclass",
    "class " ++ game.className ++ "Options(id1Options.id1CommonOptions):"] ++
  (if options.isEmpty then "    pass\n" else indentLines 4 (options.map (·.bindingText))) ++
  indentLines 0 (["", "", "option_groups: typing.List[BaseOptions.OptionGroup] = ["] ++
    (optionGroups options).flatMap groupLines ++ ["]"])

/-- An option that connections require, read from the world's options by name. -/
def requirementLine (t : ItemTemplate) : String :=
  "        " ++ quoted t.name ++ ": lambda world: bool(getattr(world.options, " ++
    quoted (Text.snakeCase t.name) ++ ", 0)),"

def worldSource (game : Game) (hooks : String → List String) : String :=
  let name := game.className
  let hook (point : String) := indentLines 8 (hooks point)
  indentLines 0 (headerLines game "World definition" ++
    ["import typing", "", "import BaseClasses as AP", "from worlds.AutoWorld import WebWorld", "",
      "from .id1common import id1CommonWorld",
      "from .options import " ++ name ++ "Options, option_groups", "", "",
      "class " ++ name ++ "Web(WebWorld):",
      "    theme = \"dirt\"",
      "    option_groups = option_groups", "", "",
      "class " ++ name ++ "World(id1CommonWorld, import_data=(__name__, " ++
        quoted (game.shortName ++ ".data.json") ++ ")):",
      "    \"\"\""]) ++
  indentLines 4 game.description ++
  indentLines 0 (
    ["    \"\"\"",
      "    game = " ++ quoted game.apName,
      "    web = " ++ name ++ "Web()",
      "    options_dataclass = " ++ name ++ "Options",
      "    options: " ++ name ++ "Options  # type: ignore[assignment]", "",
      "    extra_connection_requirements = \x7b"] ++
    game.extraRequirements.map requirementLine ++
    ["    \x7d", "",
      "    def create_item(self, name: str) -> AP.Item:",
      "        item_id = self.item_name_to_id[name]",
      "        item_data = self.item_table[item_id]",
      "        classification = item_data.classification"]) ++
  hook "create_item" ++
  indentLines 0 [
    "        return AP.Item(name, classification, item_id, self.player)", "",
    "    def generate_early(self) -> None:",
    "        self.init_episodes()"] ++
  hook "generate_early" ++
  indentLines 0 ["",
    "    def create_regions(self) -> None:",
    "        self.construct_regions()",
    "        self.make_regions()", "",
    "    def create_items(self) -> None:",
    "        self.place_level_complete_items()",
    "        itempool = self.construct_base_item_pool()", "",
    "        def pop_from_pool(name: str) -> str | None:",
    "            if name in itempool:",
    "                itempool.remove(name)",
    "                return name",
    "            return None", ""] ++
  hook "create_items" ++
  indentLines 0 [
    "        self.fill_item_pool(itempool, len(self.multiworld.get_unfilled_locations(self.player)))",
    "        self.multiworld.itempool += [self.create_item(name) for name in itempool]", "",
    "    def set_rules(self) -> None:",
    "        self.make_rules()"] ++
  hook "set_rules" ++
  indentLines 0 ["",
    "    def fill_slot_data(self) -> dict[str, typing.Any]:",
    "        slot_data = super().fill_slot_data()"] ++
  hook "fill_slot_data" ++
  indentLines 0 ["        return slot_data"]

end Worldsmith
