import Worldsmith.Json.Decode
import Worldsmith.Level.Data

namespace Worldsmith

open Json (Form Reader)

def Thing.read : Reader Thing :=
  (Form.done Thing.mk
    |>.need "x" Reader.int16
    |>.need "y" Reader.int16
    |>.default "angle" Reader.int16 0
    |>.need "type" Reader.int16
    |>.default "flags" Reader.int16 0).read "MapThing"

def Thing.toJson (t : Thing) : Json :=
  .object [("x", .int t.x), ("y", .int t.y), ("angle", .int t.angle), ("type", .int t.type),
    ("flags", .int t.flags)]

def Point.read : Reader Point := fun d => do
  match ← Reader.array 2 Reader.int32 d with
  | [x, y] => return ⟨x, y⟩
  | l => throw (.wrongLength l.length "an array of length 2")

def Point.toJson (p : Point) : Json := .arr [.int p.x, .int p.y]

def Sector.read : Reader Sector :=
  (Form.done Sector.mk |>.need "vertices" (Reader.list Point.read)).read "SectorShape"

def Sector.toJson (s : Sector) : Json :=
  .object [("vertices", .arr (s.vertices.map Point.toJson))]

def MapData.read : Reader MapData :=
  (Form.done MapData.mk
    |>.default "things" (Reader.list Thing.read) []
    |>.default "sectors" (Reader.list Sector.read) []).read "MapData"

def MapData.toJson (m : MapData) : Json :=
  .object [("things", .arr (m.things.map Thing.toJson)),
    ("sectors", .arr (m.sectors.map Sector.toJson))]

def Target.read : Reader Target := fun d => (Reader.int64 d).map Target.ofCode

def Connection.read : Reader Connection :=
  (Form.done Connection.mk
    |>.need "target" Target.read
    |>.default "requirements_and" (Reader.list Reader.int32) []
    |>.default "requirements_or" (Reader.list Reader.int32) []).read "Connection"

def Connection.toJson (c : Connection) : Json :=
  .object [("target", .int c.target.code),
    ("requirements_and", .arr (c.requirementsAnd.map Json.int)),
    ("requirements_or", .arr (c.requirementsOr.map Json.int))]

def Region.read : Reader Region :=
  (Form.done Region.mk
    |>.need "name" Reader.string
    |>.default "sectors" (fun d => (Reader.list Reader.size d).map SortedSet.ofList) .empty
    |>.default "connections" (Reader.list Connection.read) []).read "Region"

def Region.toJson (r : Region) : Json :=
  .object [("name", .str r.name), ("sectors", .arr (r.sectors.toList.map fun (n : Nat) => .int n)),
    ("connections", .arr (r.connections.map Connection.toJson))]

def LocationNotes.read : Reader LocationNotes :=
  (Form.done LocationNotes.mk
    |>.default "name" Reader.string ""
    |>.default "unreachable" Reader.bool false
    |>.default "check_sanity" Reader.bool false
    |>.default "death_logic" Reader.bool false).read "LocationMeta"

def LocationNotes.toJson (m : LocationNotes) : Json :=
  .object [("name", .str m.name), ("unreachable", .bool m.unreachable),
    ("check_sanity", .bool m.checkSanity), ("death_logic", .bool m.deathLogic)]

def RuleGraph.read : Reader RuleGraph :=
  (Form.done RuleGraph.mk
    |>.default "regions" (Reader.list Region.read) []
    |>.default "entrance" (Reader.list Connection.read) []
    |>.default "locations" (Reader.sizeMap LocationNotes.read) .empty).read "RuleGraph"

def RuleGraph.toJson (g : RuleGraph) : Json :=
  .object [("regions", .arr (g.regions.map Region.toJson)),
    ("entrance", .arr (g.entrance.map Connection.toJson)),
    ("locations", .object (g.locations.entries.map fun e => (Nat.repr e.1, e.2.toJson)))]

def LevelData.read : Reader LevelData :=
  (Form.done LevelData.mk
    |>.default "map" MapData.read {}
    |>.default "rules" RuleGraph.read {}).read "LevelData"

def LevelData.toJson (l : LevelData) : Json :=
  .object [("map", l.map.toJson), ("rules", l.rules.toJson)]

def GameLevels.read : Reader GameLevels :=
  (Form.done GameLevels.mk
    |>.need "episodes" (Reader.list (Reader.list LevelData.read))).read "GameLevels"

def GameLevels.toJson (g : GameLevels) : Json :=
  .object [("episodes", .arr (g.episodes.map fun maps => .arr (maps.map LevelData.toJson)))]

def GameLevels.parse (text : String) : Except Json.Fault GameLevels :=
  Json.readWith GameLevels.read text

end Worldsmith
