import Worldsmith.Level.Codec
import Worldsmith.Proofs.Json.Records

namespace Worldsmith

open Json (Form Reader Reads RoundTrips Draft Ending)

variable {n : Nat}

theorem Thing.roundTrips : RoundTrips (n + 1) Thing.read Thing.toJson := by
  refine Form.Copies.roundTrips (by decide) ?_ _
  refine .default ?_ Reader.int16_roundTrips (.num (.ok (.int 0))) rfl
  refine .need ?_ Reader.int16_roundTrips
  refine .default ?_ Reader.int16_roundTrips (.num (.ok (.int 0))) rfl
  refine .need ?_ Reader.int16_roundTrips
  refine .need ?_ Reader.int16_roundTrips
  exact .done fun x y angle type flags => rfl

theorem Point.roundTrips : RoundTrips (n + 1) Point.read Point.toJson := by
  intro d p h
  obtain ⟨l, hl, h⟩ := exists_ok_of_bind h
  have hread := Reader.exists_read_of_array hl
  split at h
  · next x y =>
    cases h
    have hall : ∀ z ∈ [x, y], Reads n Reader.int32 z (.int z) := by
      intro z hz
      obtain ⟨d, hd⟩ := hread z hz
      exact Reader.int32_roundTrips d z hd
    have hpair := Reader.reads_array hall
    apply Reads.mk hpair.plain
    intro d hd
    have heq : Reader.array 2 Reader.int32 d = .ok [x, y] := hpair.read_eq d hd
    rw [Point.read, heq]
    rfl
  · cases h

theorem Sector.roundTrips : RoundTrips (n + 3) Sector.read Sector.toJson := by
  refine Form.Copies.roundTrips (by decide) ?_ _
  refine .need ?_ (Reader.list_roundTrips Point.roundTrips)
  exact .done fun vertices => rfl

theorem MapData.roundTrips : RoundTrips (n + 5) MapData.read MapData.toJson := by
  refine Form.Copies.roundTrips (by decide) ?_ _
  refine .default ?_ (Reader.list_roundTrips Sector.roundTrips) (.arr [] .closed) rfl
  refine .default ?_ (Reader.list_roundTrips Thing.roundTrips) (.arr [] .closed) rfl
  exact .done fun things sectors => rfl

theorem Target.code_ofCode (z : Int) : (Target.ofCode z).code = z := by
  unfold Target.ofCode
  split_ifs with hhub hexit hneg
  · exact hhub.symm
  · exact hexit.symm
  · rfl
  · exact Int.toNat_of_nonneg (by omega)

theorem Target.roundTrips : RoundTrips n Target.read fun t => .int t.code := by
  intro d t h
  obtain ⟨z, hz, rfl⟩ := exists_ok_of_map h
  dsimp only
  rw [Target.code_ofCode]
  exact (Reader.int64_roundTrips d z hz).map Target.ofCode

theorem Connection.roundTrips : RoundTrips (n + 2) Connection.read Connection.toJson := by
  refine Form.Copies.roundTrips (by decide) ?_ _
  refine .default ?_ (Reader.list_roundTrips Reader.int32_roundTrips) (.arr [] .closed) rfl
  refine .default ?_ (Reader.list_roundTrips Reader.int32_roundTrips) (.arr [] .closed) rfl
  refine .need ?_ Target.roundTrips
  exact .done fun target requirementsAnd requirementsOr => rfl

theorem Region.roundTrips : RoundTrips (n + 4) Region.read Region.toJson := by
  refine Form.Copies.roundTrips (by decide) ?_ _
  refine .default ?_ (Reader.list_roundTrips Connection.roundTrips) (.arr [] .closed) rfl
  refine .default ?_ Reader.set_roundTrips (.arr [] .closed) rfl
  refine .need ?_ Reader.string_roundTrips
  exact .done fun name sectors connections => rfl

theorem LocationNotes.roundTrips : RoundTrips (n + 1) LocationNotes.read LocationNotes.toJson := by
  refine Form.Copies.roundTrips (by decide) ?_ _
  refine .default ?_ Reader.bool_roundTrips (.bool false) rfl
  refine .default ?_ Reader.bool_roundTrips (.bool false) rfl
  refine .default ?_ Reader.bool_roundTrips (.bool false) rfl
  refine .default ?_ Reader.string_roundTrips (.str (.ok "")) rfl
  exact .done fun name unreachable checkSanity deathLogic => rfl

theorem RuleGraph.roundTrips : RoundTrips (n + 6) RuleGraph.read RuleGraph.toJson := by
  refine Form.Copies.roundTrips (by decide) ?_ _
  refine .default ?_ (Reader.sizeMap_roundTrips LocationNotes.roundTrips) (.obj [] .closed) rfl
  refine .default ?_ (Reader.list_roundTrips Connection.roundTrips) (.arr [] .closed) rfl
  refine .default ?_ (Reader.list_roundTrips Region.roundTrips) (.arr [] .closed) rfl
  exact .done fun regions entrance locations => rfl

theorem LevelData.roundTrips : RoundTrips (n + 7) LevelData.read LevelData.toJson := by
  refine Form.Copies.roundTrips (by decide) ?_ _
  refine .default ?_ RuleGraph.roundTrips (.obj [] .closed) rfl
  refine .default ?_ MapData.roundTrips (.obj [] .closed) rfl
  exact .done fun map rules => rfl

theorem GameLevels.roundTrips : RoundTrips (n + 10) GameLevels.read GameLevels.toJson := by
  refine Form.Copies.roundTrips (by decide) ?_ _
  refine .need ?_ (Reader.list_roundTrips (Reader.list_roundTrips LevelData.roundTrips))
  exact .done fun episodes => rfl

/-- Level data that was read is read again, as it was, from every text of its document and from the
document itself, and writing it again gives the same text. Every code of a target stays as it is. -/
theorem GameLevels.read_toJson (d : Draft) (levels : GameLevels)
    (h : GameLevels.read d = .ok levels) :
    (∀ cs, Json.Spells levels.toJson cs → GameLevels.parse (String.ofList cs) = .ok levels) ∧
    GameLevels.read (.ofJson levels.toJson) = .ok levels ∧
    (∀ style, GameLevels.parse (levels.toJson.render style) = .ok levels ∧
      ∀ cs, Json.Spells levels.toJson cs →
        (GameLevels.parse (String.ofList cs)).map (fun again => again.toJson.render style) =
          .ok (levels.toJson.render style)) ∧
    ∀ z, -0x8000000000000000 ≤ z → z ≤ 0x7FFFFFFFFFFFFFFF →
      (Target.read (.num (.ok (.int z)))).map Target.code = .ok z := by
  have hreads : Reads Json.maxDepth GameLevels.read levels levels.toJson :=
    GameLevels.roundTrips d levels h
  have htext : ∀ cs, Json.Spells levels.toJson cs →
      GameLevels.parse (String.ofList cs) = .ok levels := fun cs hcs =>
    Json.readWith_spells hcs hreads.plain hreads.read_eq
  refine ⟨htext, hreads.read_eq _ (Json.holds_ofJson _), ?_, ?_⟩
  · intro style
    constructor
    · have hrender := htext _ (Json.spells_render levels.toJson style)
      rw [String.ofList_toList] at hrender
      exact hrender
    · intro cs hcs
      rw [htext cs hcs]
      rfl
  · intro z hlo hhi
    have hint : Reader.int64 (.num (.ok (.int z))) = .ok z := if_pos ⟨hlo, hhi⟩
    rw [Target.read, hint]
    exact congrArg Except.ok (Target.code_ofCode z)

/-- A region with its sectors out of order and a connection to a target without a meaning. -/
def yardDocument : Json :=
  .obj [("episodes", .arr [.arr [.obj [("rules", .obj [("regions", .arr [.obj [
    ("name", .str "Yard"), ("sectors", .arr [.int 3, .int 1, .int 3]),
    ("connections", .arr [.obj [("target", .int (-7))]])]])])]]])]

def yard : GameLevels :=
  ⟨[[{ rules := { regions := [⟨"Yard", .ofList [1, 3], [⟨.unknown (-7), [], []⟩]⟩] } }]]⟩

theorem GameLevels.read_toJson_yard :
    GameLevels.read (.ofJson yardDocument) = .ok yard ∧
    GameLevels.parse (yard.toJson.render .pretty) = .ok yard := by
  have hread : GameLevels.read (.ofJson yardDocument) = .ok yard := rfl
  exact ⟨hread, ((GameLevels.read_toJson _ yard hread).2.2.1 .pretty).1⟩

end Worldsmith
