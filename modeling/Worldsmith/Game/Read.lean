import Worldsmith.Json.Decode
import Worldsmith.Game.Basic

namespace Worldsmith

open Json (Form Reader)

/-- The fields of an item template, which a key has too. -/
def ItemTemplate.form : Form ItemTemplate :=
  Form.done ItemTemplate.mk
    |>.need "doom_type" Reader.int32
    |>.default "name" Reader.string ""
    |>.default "sprite" Reader.string ""
    |>.default "count" Reader.int64 1
    |>.default "group" Reader.oneOrMany []

def ItemTemplate.read : Reader ItemTemplate := ItemTemplate.form.read "ItemDef"

def KeyTemplate.read : Reader KeyTemplate :=
  (Form.done (fun slot useSkull regionName (_ : List Unit) item =>
      KeyTemplate.mk item slot useSkull regionName)
    |>.need "key" Reader.size
    |>.default "use_skull" Reader.bool false
    |>.default "region_name" Reader.string ""
    |>.default "color" (Reader.array 3 (Reader.anyNumber "f32")) []).readExtended "KeyDef"
    ItemTemplate.form

def MapInfo.read : Reader MapInfo :=
  (Form.done MapInfo.mk
    |>.need "name" Reader.string
    |>.need "lump" Reader.string).read "LevelDef"

def Episode.read : Reader Episode :=
  (Form.done Episode.mk
    |>.default "name" (Reader.nullable Reader.string) none
    |>.default "minor" Reader.bool false
    |>.default "default" Reader.bool true
    |>.default "start_level" Reader.int64 1
    |>.default "boss_level" (Reader.nullable Reader.int64) none
    |>.default "maps" (Reader.list MapInfo.read) []).read "EpisodeInfo"

def Settings.read : Reader Settings :=
  (Form.done Settings.mk
    |>.default "check_sanity" Reader.bool false
    |>.default "extended_names" Reader.bool false).read "Settings"

def PoolRatio.read : Reader PoolRatio :=
  (Form.done PoolRatio.mk
    |>.default "helpful" Reader.int64 0
    |>.default "random" Reader.int64 0).read "PoolRatio"

def WorldInfo.read : Reader WorldInfo :=
  (Form.done WorldInfo.mk
    |>.default "description" Reader.oneOrMany []
    |>.default "world_options" (Reader.list Json.Draft.toJson) []
    |>.default "hooks" (Reader.stringMap (Reader.list Reader.string)) .empty
    |>.default "filler_item_weight" (Reader.stringMap Reader.int64) .empty
    |>.default "custom_pool_ratio" (Reader.int64Map PoolRatio.read) .empty).read "WorldInfo"

def Game.read : Reader Game :=
  let items := Reader.list ItemTemplate.read
  (Form.done Game.mk
    |>.need "short_name" Reader.string
    |>.need "iwad" Reader.string
    |>.default "ap_name" Reader.string "Unnamed id1 Game"
    |>.default "ap_world_name" Reader.string "id1_game"
    |>.default "ap_class_name" Reader.string "id1Game"
    |>.default "full_name" (Reader.nullable Reader.string) none
    |>.default "required_wads" Reader.oneOrMany []
    |>.default "optional_wads" Reader.oneOrMany []
    |>.default "included_wads" Reader.oneOrMany []
    |>.default "settings" Settings.read {}
    |>.need "episodes" (Reader.list Episode.read)
    |>.default "location_doom_types" (Reader.int32Map Reader.string) .empty
    |>.default "extra_connection_requirements" items []
    |>.default "progression" items []
    |>.default "useful" items []
    |>.default "filler" items []
    |>.default "unique_progression" items []
    |>.default "unique_useful" items []
    |>.default "unique_filler" items []
    |>.default "keys" (Reader.list KeyTemplate.read) []
    |>.default "world_info" WorldInfo.read {}
    |>.default "game_info" Reader.passthrough none
    |>.default "map_tweaks" Reader.passthrough none
    |>.default "level_select" Reader.passthrough none
    |>.default "rename_lumps" Reader.passthrough none
    |>.default "loc_remap" (Reader.stringMap Reader.int64) .empty
    |>.default "item_remap" (Reader.stringMap Reader.int64) .empty).read "GameConfig"

def Game.parse (text : String) : Except Json.Fault Game := Json.readWith Game.read text

end Worldsmith
