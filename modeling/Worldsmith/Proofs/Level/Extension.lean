import Worldsmith.Proofs.Level.Collection

namespace Worldsmith

variable {game game' : Game} {data data' : GameLevels} {levels : List Level} {level : Level}

/-- One map more, at the end of the last episode or in an episode of its own behind it. -/
inductive Game.Extends (game : Game) (data : GameLevels) : Game → GameLevels → Prop
  | map {es : List Episode} {ds : List (List LevelData)} {e : Episode} {maps : List LevelData}
    (he : game.episodes = es ++ [e]) (hd : data.episodes = ds ++ [maps]) (m : MapInfo)
    (new : LevelData) : Extends game data
      { game with episodes := es ++ [{ e with maps := e.maps ++ [m] }] } ⟨ds ++ [maps ++ [new]]⟩
  | episode {e : Episode} {m : MapInfo} (hm : e.maps = [m]) (new : LevelData) : Extends game data
      { game with episodes := game.episodes ++ [e] } ⟨data.episodes ++ [[new]]⟩

theorem Episode.joined_concat {e : Episode} {maps : List LevelData}
    (h : maps.length = e.maps.length) (episode : Nat) (m : MapInfo) (new : LevelData) :
    { e with maps := e.maps ++ [m] }.joined episode (maps ++ [new]) =
      e.joined episode maps ++ [m.level ⟨episode, e.maps.length⟩ new] := by
  rw [joined, List.zip_append h.symm, List.zipIdx_append, List.map_append, joined]
  simp [h]

section Concat
variable {es : List Episode} {ds : List (List LevelData)} {e : Episode} {maps : List LevelData}

theorem Game.numbered_concat (he : game.episodes = es ++ [e]) (hd : data.episodes = ds ++ [maps])
    (h : ds.length = es.length) :
    game.numbered data = (es.zip ds).zipIdx ++ [((e, maps), es.length)] := by
  rw [numbered, he, hd, List.zip_append h.symm, List.zipIdx_append]
  simp [h]

theorem Game.joined_concat (he : game.episodes = es ++ [e]) (hd : data.episodes = ds ++ [maps])
    (h : ds.length = es.length) : game.joined data =
      ((es.zip ds).zipIdx.flatMap fun e => e.1.1.joined e.2 e.1.2) ++ e.joined es.length maps := by
  rw [joined, numbered_concat he hd h, List.flatMap_append, List.flatMap_singleton]

theorem Game.complete_concat (he : game.episodes = es ++ [e]) (hd : data.episodes = ds ++ [maps]) :
    game.Complete data ↔ ds.length = es.length ∧
      (∀ e ∈ (es.zip ds).zipIdx, e.1.2.length = e.1.1.maps.length) ∧
      maps.length = e.maps.length := by
  constructor
  · intro hc
    have hlen : ds.length = es.length := by simpa [he, hd] using hc.episodes
    have hmaps := hc.maps
    rw [numbered_concat he hd hlen, List.forall_mem_append, List.forall_mem_singleton] at hmaps
    exact ⟨hlen, hmaps⟩
  · rintro ⟨hlen, hmaps, hlast⟩
    refine ⟨by simp [he, hd, hlen], ?_⟩
    rw [numbered_concat he hd hlen, List.forall_mem_append, List.forall_mem_singleton]
    exact ⟨hmaps, hlast⟩

end Concat

theorem Game.Extends.levels_eq (hx : game.Extends data game' data')
    (h : game.levels data = .ok levels) : ∃ new, game'.levels data' = .ok (levels ++ [new]) := by
  obtain ⟨hc, rfl⟩ := levels_eq_ok_iff.1 h
  cases hx with
  | @map es ds e maps he hd m new =>
    obtain ⟨hlen, hmaps, hlast⟩ := (complete_concat he hd).1 hc
    refine ⟨m.level ⟨es.length, e.maps.length⟩ new, levels_eq_ok_iff.2 ⟨?_, ?_⟩⟩
    · exact (complete_concat rfl rfl).2 ⟨hlen, hmaps, by simp [hlast]⟩
    · rw [joined_concat he hd hlen, joined_concat rfl rfl hlen, Episode.joined_concat hlast,
        List.append_assoc]
  | @episode e m hm new =>
    refine ⟨m.level ⟨game.episodes.length, 0⟩ new, levels_eq_ok_iff.2 ⟨?_, ?_⟩⟩
    · exact (complete_concat rfl rfl).2 ⟨hc.episodes, hc.maps, by simp [hm]⟩
    · rw [joined_concat rfl rfl hc.episodes, joined, numbered]
      simp [Episode.joined, hm]

theorem Game.levels_concat {new : Level} (h : game.levels data = .ok (levels ++ [new])) :
    ∀ level ∈ levels, level.index.Before new.index := by
  obtain ⟨-, hj⟩ := levels_eq_ok_iff.1 h
  have ha := game.joined_ascending data
  rw [← hj, List.pairwise_append] at ha
  exact fun level hl => ha.2.2 level hl new (List.mem_singleton.2 rfl)

end Worldsmith
