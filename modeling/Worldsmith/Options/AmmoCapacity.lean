import Worldsmith.Game.Basic
import Worldsmith.Options.PlayerOption
import Worldsmith.Options.Setting

namespace Worldsmith

structure AmmoType where
  name : String
  /-- The name inside of fields. -/
  suffix : String
  capacity : Int
  deriving DecidableEq, Repr

structure AmmoCapacity where
  ammo : List AmmoType
  deriving DecidableEq, Repr

namespace AmmoCapacity

def init (game : Game) : AmmoCapacity where
  ammo := (((game.infoField? "ammo").bind Json.arr?).getD []).map fun entry =>
    let name := Setting.string entry "name" "(no name)"
    ⟨name, Text.snakeCase name, Setting.int entry "max" 0⟩

def hookLines (o : AmmoCapacity) (hook : String) : List String :=
  if hook = "fill_slot_data" then
    ["slot_data[\"ammo_start\"] = ["] ++
      o.ammo.map (fun a => "    self.options.max_ammo_" ++ a.suffix ++ ".value,") ++
      ["]", "slot_data[\"ammo_add\"] = ["] ++
      o.ammo.map (fun a => "    self.options.added_ammo_" ++ a.suffix ++ ".value,") ++
      ["]"]
  else []

/-- How much may be set, from a least amount up to the most there can be. -/
def capacityOption (field displayName doc : String) (least default : Int) : PlayerOption :=
  { (PlayerOption.new field displayName .range).inGroup "Ammo Capacity" with
    docstring := [doc]
    rangeStart := least
    rangeEnd := 999
    defaultInt := some default }

def options (o : AmmoCapacity) : List PlayerOption :=
  o.ammo.map (fun a =>
    capacityOption ("max_ammo_" ++ a.suffix) ("Max Ammo - " ++ a.name)
      ("Set the starting capacity for " ++ a.name ++ ".") a.capacity a.capacity) ++
  o.ammo.map fun a =>
    capacityOption ("added_ammo_" ++ a.suffix) ("Added Ammo - " ++ a.name)
      ("Set how much capacity for " ++ a.name ++
        " will be added when a capacity upgrade is obtained.")
      (a.capacity.tdiv 10) a.capacity

end AmmoCapacity

end Worldsmith
