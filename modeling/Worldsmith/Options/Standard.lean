import Worldsmith.Catalog.Basic
import Worldsmith.Options.PlayerOption

namespace Worldsmith

namespace StandardOptions

def goalCount (levels : List Level) : PlayerOption :=
  { (PlayerOption.new "goal_num_levels" "Goal: Number of Levels" .range).inGroup "Goal Options" with
    docstring := ["If 'Complete Some Levels' or 'Complete Random Levels' are chosen as the goal, this is how many levels must be completed."]
    rangeStart := 1
    rangeEnd := levels.length
    defaultInt := some levels.length }

/-- The level that ends an episode, if there is one at the place the game gives. -/
def bossLevel? (levels : List Level) (episode : Episode) (index : Nat) : Option Level := do
  let boss ← episode.boss?
  if boss < 1 then none
  else levels.find? fun level => level.index = ⟨index, (boss - 1).toNat⟩

def goalLevels (game : Game) (levels : List Level) : PlayerOption :=
  { (PlayerOption.new "goal_specific_levels" "Goal: Specific Levels"
      .optionSet).inGroup "Goal Options" with
    docstring := ["If 'Complete Specific Levels' is chosen as the goal, all levels chosen here must be completed."]
    values := levels.map (·.name)
    defaultList := game.episodes.zipIdx.filterMap fun (episode, i) =>
      (bossLevel? levels episode i).map (·.name) }

def episodeOption (levels : List Level) (episode : Episode) (index : Nat) : PlayerOption :=
  let number := Nat.repr (index + 1)
  { (PlayerOption.new ("episode" ++ number) ("Episode " ++ number)
      .episode).inGroup "Episodes to Play" with
    docstring := [episode.displayName index ++ "."] ++
      (if episode.minor then
        ["This is a minor episode. Another episode must be played alongside this one."]
      else []) ++
      ["", "This episode includes the following levels:"] ++
      (levels.filter (·.index.episode = index)).map fun level => "- " ++ level.name
    isMinorEpisode := episode.minor
    defaultInt := some (if episode.defaultEnabled then 1 else 0) }

/-- A single episode is always played, so that it is not offered. -/
def episodes (game : Game) (levels : List Level) : List PlayerOption :=
  if 1 < game.episodes.length then
    game.episodes.zipIdx.map fun (episode, i) => episodeOption levels episode i
  else []

end StandardOptions

open StandardOptions in
def standardOptions (game : Game) (levels : List Level) : List PlayerOption :=
  [goalCount levels, goalLevels game levels] ++ episodes game levels ++
    (if game.isHeretic then [PlayerOption.bound "flip_levels" .removed] else []) ++
    if game.settings.checkSanity then [PlayerOption.bound "check_sanity" .checkSanity] else []

end Worldsmith
