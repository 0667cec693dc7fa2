import Worldsmith.Catalog.Basic
import Worldsmith.Proofs.Outcome

namespace Worldsmith

variable {game : Game} {data : GameLevels} {levels : List Level} {level : Level}

/-- The order of levels inside a game. -/
def LevelIndex.Before (a b : LevelIndex) : Prop :=
  a.episode < b.episode ∨ a.episode = b.episode ∧ a.map < b.map

theorem LevelIndex.Before.ne {a b : LevelIndex} (h : a.Before b) : a ≠ b := by
  rintro rfl
  rcases h with h | h
  · exact Nat.lt_irrefl _ h
  · exact Nat.lt_irrefl _ h.2

/-- The episodes of a game, each with the data of its maps and its number. -/
def Game.numbered (game : Game) (data : GameLevels) : List ((Episode × List LevelData) × Nat) :=
  (game.episodes.zip data.episodes).zipIdx

def Game.joined (game : Game) (data : GameLevels) : List Level :=
  (game.numbered data).flatMap fun e => e.1.1.joined e.2 e.1.2

/-- There is data for every map, and for nothing else. -/
structure Game.Complete (game : Game) (data : GameLevels) : Prop where
  episodes : data.episodes.length = game.episodes.length
  maps : ∀ e ∈ game.numbered data, e.1.2.length = e.1.1.maps.length

theorem Game.levels_of_complete (h : game.Complete data) :
    game.levels data = .ok (game.joined data) := by
  have hm := mapM_checked_ok (fun e => e.1.1.joined e.2 e.1.2)
    (fun e => Failure.config (.mapCount (e.2 + 1) e.1.2.length e.1.1.maps.length)) h.maps
  rw [Game.levels, if_pos h.episodes]
  exact congrArg (Except.map List.flatten) hm

theorem Game.levels_error (h : ¬ game.Complete data) : ∃ e, game.levels data = .error e := by
  rw [Game.levels]
  by_cases hn : data.episodes.length = game.episodes.length
  · have hmaps : ¬ ∀ e ∈ game.numbered data, e.1.2.length = e.1.1.maps.length :=
      fun hmaps => h ⟨hn, hmaps⟩
    obtain ⟨e, he⟩ := mapM_checked_error (fun e => e.1.1.joined e.2 e.1.2)
      (fun e => Failure.config (.mapCount (e.2 + 1) e.1.2.length e.1.1.maps.length)) hmaps
    rw [if_pos hn]
    exact ⟨e, congrArg (Except.map List.flatten) he⟩
  · rw [if_neg hn]
    exact ⟨_, rfl⟩

theorem Game.levels_eq_ok_iff :
    game.levels data = .ok levels ↔ game.Complete data ∧ levels = game.joined data := by
  by_cases h : game.Complete data
  · simp [h, Game.levels_of_complete h, eq_comm]
  · obtain ⟨e, he⟩ := Game.levels_error h
    simp [h, he]

theorem Episode.joined_index (e : Episode) (episode : Nat) (maps : List LevelData) :
    (e.joined episode maps).map (·.index) =
      (List.range (e.maps.zip maps).length).map (LevelIndex.mk episode) := by
  rw [List.range_eq_range', ← List.zipIdx_map_snd, Episode.joined, List.map_map, List.map_map]
  rfl

theorem Episode.mem_joined {e : Episode} {episode : Nat} {maps : List LevelData}
    (h : level ∈ e.joined episode maps) :
    level.index.episode = episode ∧ level.index.map < e.maps.length := by
  have hi := List.mem_map_of_mem (f := (·.index)) h
  rw [e.joined_index] at hi
  obtain ⟨i, hlt, he⟩ := List.mem_map.1 hi
  rw [← he]
  rw [List.mem_range, List.length_zip] at hlt
  exact ⟨rfl, Nat.lt_of_lt_of_le hlt (Nat.min_le_left _ _)⟩

theorem Episode.joined_ascending (e : Episode) (episode : Nat) (maps : List LevelData) :
    (e.joined episode maps).Pairwise fun a b => a.index.Before b.index := by
  have hi : ((e.joined episode maps).map (·.index)).Pairwise LevelIndex.Before := by
    rw [e.joined_index, List.pairwise_map]
    exact List.pairwise_lt_range.imp fun h => .inr ⟨rfl, h⟩
  exact List.pairwise_map.1 hi

theorem Game.mem_joined (h : level ∈ game.joined data) :
    ∃ e, game.episodes[level.index.episode]? = some e ∧ level.index.map < e.maps.length := by
  obtain ⟨⟨⟨e, maps⟩, i⟩, he, hl⟩ := List.mem_flatMap.1 h
  obtain ⟨rfl, hm⟩ := Episode.mem_joined hl
  have hz := List.getElem?_zip_eq_some.1 (List.mem_zipIdx_iff_getElem?.1 he)
  exact ⟨e, hz.1, hm⟩

theorem Game.joined_ascending (game : Game) (data : GameLevels) :
    (game.joined data).Pairwise fun a b => a.index.Before b.index := by
  refine List.pairwise_flatMap.2 ⟨fun e _ => e.1.1.joined_ascending _ _, ?_⟩
  have hn : ((game.numbered data).map Prod.snd).Pairwise (· < ·) := by
    rw [Game.numbered, List.zipIdx_map_snd, ← List.range_eq_range']
    exact List.pairwise_lt_range
  refine (List.pairwise_map.1 hn).imp fun hlt a ha b hb => .inl ?_
  rw [(Episode.mem_joined ha).1, (Episode.mem_joined hb).1]
  exact hlt

theorem Game.levels_nodup (h : game.levels data = .ok levels) :
    (levels.map (·.index)).Nodup := by
  obtain ⟨-, rfl⟩ := Game.levels_eq_ok_iff.1 h
  exact List.pairwise_map.2 ((game.joined_ascending data).imp fun h => h.ne)

/-- The data of the map at a place. -/
def GameLevels.at? (data : GameLevels) (index : LevelIndex) : Option LevelData :=
  data.episodes[index.episode]?.bind fun maps => maps[index.map]?

theorem Episode.getElem?_joined (e : Episode) (episode : Nat) (maps : List LevelData) (i : Nat) :
    (e.joined episode maps)[i]? =
      (e.maps.zip maps)[i]?.map fun m => m.1.level ⟨episode, i⟩ m.2 := by
  rw [Episode.joined, List.getElem?_map, List.getElem?_zipIdx, Option.map_map, Nat.zero_add]
  rfl

theorem Game.Complete.map_numbered (h : game.Complete data) :
    (game.numbered data).map (·.1.1) = game.episodes := by
  have hzip : (game.numbered data).map (·.1.1) =
      ((game.episodes.zip data.episodes).zipIdx.map Prod.fst).map Prod.fst := by
    rw [List.map_map]
    rfl
  rw [hzip, List.zipIdx_map_fst, List.map_fst_zip (Nat.le_of_eq h.episodes.symm)]

theorem Game.Complete.range_episodes (h : game.Complete data) :
    List.range game.episodes.length = (game.numbered data).map Prod.snd := by
  rw [Game.numbered, List.zipIdx_map_snd, List.range_eq_range', List.length_zip, h.episodes,
    Nat.min_self]

theorem Game.Complete.exists_numbered {i j : Nat} {e : Episode} (h : game.Complete data)
    (he : game.episodes[i]? = some e) (hj : j < e.maps.length) :
    ∃ maps map, ∃ m : MapInfo, ((e, maps), i) ∈ game.numbered data ∧ data.at? ⟨i, j⟩ = some map ∧
      (e.joined i maps)[j]? = some (m.level ⟨i, j⟩ map) := by
  have hi : i < data.episodes.length := h.episodes ▸ (List.getElem?_eq_some_iff.1 he).1
  obtain ⟨maps, hmaps⟩ : ∃ maps, data.episodes[i]? = some maps := ⟨_, List.getElem?_eq_getElem hi⟩
  have hmem : ((e, maps), i) ∈ game.numbered data :=
    List.mem_zipIdx_iff_getElem?.2 (List.getElem?_zip_eq_some.2 ⟨he, hmaps⟩)
  have hj' : j < maps.length := (h.maps _ hmem).symm ▸ hj
  obtain ⟨map, hmap⟩ : ∃ map, maps[j]? = some map := ⟨_, List.getElem?_eq_getElem hj'⟩
  have hm := List.getElem?_eq_getElem hj
  refine ⟨maps, map, e.maps[j], hmem, ?_, ?_⟩
  · exact (congrArg (Option.bind · _) hmaps).trans hmap
  · have hzip : (e.maps.zip maps)[j]? = some (e.maps[j], map) :=
      List.getElem?_zip_eq_some.2 ⟨hm, hmap⟩
    rw [e.getElem?_joined, hzip]
    rfl

theorem Game.at?_of_mem_joined (h : level ∈ game.joined data) :
    data.at? level.index = some level.data := by
  obtain ⟨⟨⟨e, maps⟩, i⟩, he, hl⟩ := List.mem_flatMap.1 h
  obtain ⟨-, hmaps⟩ := List.getElem?_zip_eq_some.1 (List.mem_zipIdx_iff_getElem?.1 he)
  obtain ⟨j, hj⟩ := List.mem_iff_getElem?.1 hl
  rw [e.getElem?_joined] at hj
  obtain ⟨m, hm, rfl⟩ := Option.map_eq_some_iff.1 hj
  exact (congrArg (Option.bind · _) hmaps).trans (List.getElem?_zip_eq_some.1 hm).2

theorem flatMap_ite_of_nodup {α β : Type} {l : List (α × Nat)} {e : α × Nat}
    (f : α × Nat → List β) (hn : (l.map Prod.snd).Nodup) (he : e ∈ l) :
    (l.flatMap fun x => if x.2 = e.2 then f x else []) = f e := by
  induction l with
  | nil => cases he
  | cons x l ih =>
    rw [List.map_cons, List.nodup_cons] at hn
    rw [List.flatMap_cons]
    rcases List.mem_cons.1 he with rfl | he
    · have hrest : (l.flatMap fun x => if x.2 = e.2 then f x else []) = [] := by
        refine List.flatMap_eq_nil_iff.2 fun x hx => if_neg fun hxe => hn.1 ?_
        exact hxe ▸ List.mem_map_of_mem hx
      rw [if_pos rfl, hrest, List.append_nil]
    · have hx : x.2 ≠ e.2 := fun hxe => hn.1 (hxe ▸ List.mem_map_of_mem he)
      rw [if_neg hx, List.nil_append, ih hn.2 he]

/-- The levels of the game that are of an episode are those that the episode was joined to. -/
theorem Game.filter_joined {e : (Episode × List LevelData) × Nat} (he : e ∈ game.numbered data) :
    ((game.joined data).filter fun level => level.index.episode = e.2) =
      e.1.1.joined e.2 e.1.2 := by
  have hn : ((game.numbered data).map Prod.snd).Nodup := by
    rw [Game.numbered, List.zipIdx_map_snd]
    exact List.nodup_range'
  have hf : ∀ x : (Episode × List LevelData) × Nat,
      ((x.1.1.joined x.2 x.1.2).filter fun level => level.index.episode = e.2) =
        if x.2 = e.2 then x.1.1.joined x.2 x.1.2 else [] := by
    intro x
    split
    · next hx =>
      refine List.filter_eq_self.2 fun level hl => decide_eq_true ?_
      exact (Episode.mem_joined hl).1.trans hx
    · next hx =>
      refine List.filter_eq_nil_iff.2 fun level hl he => hx ?_
      exact (Episode.mem_joined hl).1.symm.trans (of_decide_eq_true he)
  rw [Game.joined, List.filter_flatMap]
  simp only [hf]
  exact flatMap_ite_of_nodup (fun x => x.1.1.joined x.2 x.1.2) hn he

/-- A game with two maps of one name, and things of every kind on the first of them. -/
def twinGame : Game where
  shortName := "doom"
  iwad := "DOOM.WAD"
  episodes := [{ maps := [⟨"Hangar", "E1M1"⟩, ⟨"Hangar", "E1M2"⟩] }]
  locationTypes := .ofList [(2018, "Armor")]
  locationRemap := .ofList [("Hangar - Exit", 7)]

def twinMap : LevelData where
  map := {
    things := [⟨8, 8, 0, 2018, 7⟩, ⟨99, 99, 0, 2018, 7⟩, ⟨8, 8, 0, 2018, 16⟩, ⟨9, 9, 0, 2018, 7⟩]
    sectors := [⟨[⟨0, 0⟩, ⟨64, 0⟩, ⟨64, 64⟩, ⟨0, 64⟩]⟩] }
  rules := {
    regions := [{ name := "Main", connections := [{ target := .levelExit }] }]
    locations := .ofList [(3, { unreachable := true })] }

def twinData : GameLevels := ⟨[[twinMap, {}]]⟩

def twinLevels : List Level :=
  [MapInfo.level ⟨"Hangar", "E1M1"⟩ ⟨0, 0⟩ twinMap, MapInfo.level ⟨"Hangar", "E1M2"⟩ ⟨0, 1⟩ {}]

theorem twinGame_levels : twinGame.levels twinData = .ok twinLevels := rfl

end Worldsmith
