import Worldsmith.Game.Basic
import Worldsmith.Options.PlayerOption
import Worldsmith.Options.Setting

namespace Worldsmith

structure Skill where
  fullName : String
  optionName : String
  description : String
  aliases : List String
  deriving DecidableEq, Repr

inductive Difficulty
  /-- A class of the shared module. -/
  | preset (className : String)
  /-- The skills in order; one without a name is not offered. -/
  | custom (skill5Warning : String) (skills : List (Option Skill))
  deriving DecidableEq, Repr

namespace Difficulty

def defaults (heretic : Bool) : List (String × String) :=
  [(if heretic then "wet nurse" else "baby",
      "Damage taken is halved. Ammo received from pickups is doubled." ++
        if heretic then
          " Quartz Flasks and Mystic Urns are automatically used when the player nears death."
        else ""),
    ("easy", "Lesser number or strength of monsters, and more pickups."),
    ("medium", "The default skill. Balanced monsters and pickups."),
    ("hard", "Greater number or strength of monsters, and less pickups."),
    if heretic then ("black plague", "Monsters are faster and more aggressive.")
    else ("nightmare", "Monsters are faster, more aggressive, and respawn.")]

def skill? (entry : Json) (default : String × String) : Option Skill :=
  let fullName := Setting.string entry "full_name" ""
  if fullName.isEmpty then none
  else some {
    fullName
    optionName := Setting.string entry "option_name" default.1
    description := default.2
    aliases := (Setting.list entry "aliases").filterMap Json.str? }

def init (game : Game) (declared : Json) : Difficulty :=
  match Setting.string declared "preset" "" with
  | "Doom" => preset "DifficultyDoom"
  | "Heretic" => preset "DifficultyHeretic"
  | _ =>
    let list := Setting.list declared "list"
    custom (Setting.string declared "skill_5_warning" "")
      ((defaults game.isHeretic).zipIdx.map fun (default, i) => skill? (list[i]?.getD .null) default)

def Skill.docLine (s : Skill) : String :=
  "**" ++ s.optionName ++ "**: (" ++ s.fullName ++ ") - " ++ s.description

def offered (skills : List (Option Skill)) : List (Skill × Nat) :=
  skills.zipIdx.filterMap fun (skill, i) => skill.map fun s => (s, i)

def assignment (kind name : String) (value : Nat) : String :=
  kind ++ "_" ++ Text.snakeCase name ++ " = " ++ Nat.repr value

def options : Difficulty → List PlayerOption
  | preset className => [(PlayerOption.common "difficulty" className).inGroup "Difficulty Options"]
  | custom warning skills =>
    let offered := offered skills
    [{ (PlayerOption.new "difficulty" "Difficulty" .choice).inGroup "Difficulty Options" with
      docstring := ["Choose the game difficulty (skill level).", ""] ++
        offered.map fun (s, _) => Skill.docLine s
      values := (if warning.isEmpty then [] else ["skill_5_warning = " ++ Text.quoted warning]) ++
        offered.map (fun (s, i) => assignment "option" s.optionName i) ++
        offered.flatMap fun (s, i) => s.aliases.map fun name => assignment "alias" name i
      defaultInt := some 2 }]

end Difficulty

end Worldsmith
