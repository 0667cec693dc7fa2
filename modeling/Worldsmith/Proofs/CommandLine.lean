import Worldsmith.CommandLine
import Worldsmith.Proofs.Files.Memory
import Worldsmith.Proofs.Sink.Folder
import Worldsmith.Proofs.World.Confinement

namespace Worldsmith

open Lockstep (Step step_pure)

section Building
variable {m m' : Type → Type} [Monad m] [Monad m'] [LawfulMonad m] [LawfulMonad m']
  {L : Lockstep m m'} {disk : Disk m} {disk' : Disk m'}

theorem FolderSink.sink_alike {s : FolderSink} (h : disk.Changes L disk' s.base) :
    (s.sink disk).Alike (L.withState (Pending s.base)) s.world (s.sink disk') where
  addText _ content hname := addText_same content hname
  addFile _ source hname := addFile_step h.toReads source hname
  finalize hworld := finalize_step h hworld
  label := rfl
  versioned := rfl

namespace CommandLine

theorem readText_step (h : disk.Reads L disk') (p : Path) :
    L.Step (readText disk p).run (readText disk' p).run := by
  apply (h.readText p).bind_lift
  intro answer
  cases answer <;> exact step_pure _

theorem readJson_step {α : Type} (h : disk.Reads L disk') (parse : String → Except Json.Fault α)
    (p : Path) : L.Step (readJson disk parse p).run (readJson disk' parse p).run := by
  apply (readText_step h p).bind_except
  intro text
  split <;> exact step_pure _

theorem found_step (h : disk.Reads L disk') (module : Option Path) :
    L.Step (found disk module) (found disk' module) := by
  cases module with
  | none => exact step_pure _
  | some root => exact h.walk root

theorem build_step {α : Type} {I : List α → Prop} {sink : Sink (StateT (List α) m)}
    {sink' : Sink (StateT (List α) m')} {game : Game} (h : disk.Reads L disk')
    (hsink : sink.Alike (L.withState I) game.worldName sink') (hempty : I []) (a : Arguments) :
    L.Step (build disk a game sink).run (build disk' a game sink').run := by
  apply (readJson_step h _ a.levels).bind_except
  intro levels
  apply (found_step h a.commonModule).bind_lift
  intro common
  apply h.now.bind_lift
  intro now
  change L.Step
    (Prod.fst <$> (generate game levels sink common a.hookSpacing now.toDateTime).run.run [])
    (Prod.fst <$> (generate game levels sink' common a.hookSpacing now.toDateTime).run.run [])
  rw [map_eq_pure_bind, map_eq_pure_bind]
  apply L.bind (generate_step hsink levels common a.hookSpacing now.toDateTime [] hempty)
  intro r _
  exact step_pure r.1

end CommandLine

end Building

namespace CommandLine

variable {σ : Type} {disk : Disk (StateM σ)} {dir : Path}

theorem open?_confined (h : disk.KeepsFolder dir) (world : String) :
    Confined dir (fun _ => True) (FolderSink.open? disk dir world).run
      (FolderSink.open? disk.recorded dir world).run
      fun answer s => ∀ sink, answer = .ok sink → sink = ⟨dir, world⟩ ∧ disk.HasFolder dir s := by
  rw [FolderSink.open?, FolderSink.open?]
  apply h.confined_isFolder.bind_lift
  intro isFolder
  have hreads : disk.Reads (confined dir fun s => isFolder = true → disk.HasFolder dir s)
      disk.recorded :=
    Disk.recorded_reads (fun p s hs hfolder => h.info p s (hs hfolder))
      (fun p s hs hfolder => h.read p s (hs hfolder))
      (fun p s hs hfolder => h.entries p s (hs hfolder)) fun s hs hfolder => h.now s (hs hfolder)
  have hmarked := Lockstep.step_mapM (fun name => hreads.isFile (dir.join name)) FolderSink.markers
  apply Confined.bind_lift hmarked
  intro marked
  split
  · next hworlds =>
    apply Confined.pure
    intro s hs sink hsink
    cases hsink
    exact ⟨rfl, hs.1 (Bool.and_eq_true_iff.1 hworlds).1⟩
  · apply Confined.pure
    intro s _ sink hsink
    cases hsink

theorem run_confined (h : disk.KeepsFolder dir) {a : Arguments} (ha : a.worldsFolder = some dir) :
    Confined dir (fun _ => True) (run disk a).run (run disk.recorded a).run fun _ _ => True := by
  rw [run, run, ha]
  have hgame : Confined dir (fun _ => True) (readJson disk Game.parse a.game).run
      (readJson disk.recorded Game.parse a.game).run fun _ _ => True :=
    Confined.weaken (readJson_step (Disk.reads_recorded dir disk) Game.parse a.game)
      (fun _ hs => hs) fun _ _ _ => trivial
  apply hgame.bind_except
  · intro game
    apply Confined.bind_except (open?_confined h game.worldName)
    · intro sink s hs
      obtain ⟨rfl, hfolder⟩ := hs sink rfl
      have halike := FolderSink.sink_alike (s := ⟨dir, game.worldName⟩) h.changes
      have hbuild := build_step h.changes.toReads halike (List.forall_mem_nil _) a
      exact hbuild.weaken (fun s hs => hs) (fun _ _ _ => trivial) s hfolder
    · intro _ _ _
      trivial
  · intro _ _ _
    trivial

/-- From every state of a disk that keeps its folders, a run does the same with and without a record
of changes, and all changes that it asks for are inside the folder of worlds. -/
theorem changes_in_worldsFolder {arguments : List String} {a : Arguments}
    (hparse : parse arguments = .ok (.run a)) (ha : a.worldsFolder = some dir)
    (hdisk : disk.KeepsFolder dir) (s : σ) :
    ∃ outcome s' changes, (execute disk arguments).run s = (outcome, s') ∧
      (execute disk.recorded arguments).run (s, []) = (outcome, s', changes) ∧
      ∀ change ∈ changes, change.IsIn dir := by
  have hexecute : Confined dir (fun _ => True) (execute disk arguments)
      (execute disk.recorded arguments) fun _ _ => True := by
    rw [execute, execute, hparse]
    apply (run_confined hdisk ha).bind
    intro result
    cases result <;> exact .pure fun _ _ => trivial
  obtain ⟨outcome, s', changes, hrun, hrecord, hin, -⟩ := hexecute s trivial
  exact ⟨outcome, s', changes, hrun, hrecord [], hin⟩

/-- A game that is named after a place outside of the folder of worlds. -/
def strayGame : Json := .object [
  ("short_name", .str "doom"),
  ("iwad", .str "DOOM.WAD"),
  ("ap_world_name", .str "../stray"),
  ("episodes", .arr [.object [
    ("maps", .arr [.object [("name", .str "Hangar"), ("lump", .str "E1M1")]])]]),
  ("filler", .arr [.object [
    ("doom_type", .int 2008), ("name", .str "Shells"), ("group", .str "Junk")]])]

def strayLevels : Json := .object [
  ("episodes", .arr [.arr [.object [("rules", .object [
    ("regions", .arr [.object [
      ("name", .str "Main"), ("connections", .arr [.object [("target", .int (-2))]])]]),
    ("entrance", .arr [.object [("target", .int 0)]])])]]])]

/-- The folder of worlds beside the documents of the game. -/
def strayMemory : Memory where
  root := .folder [("work", .folder [
    ("worlds", .folder [("__init__.py", .file [] ⟨0, 0⟩), ("AutoWorld.py", .file [] ⟨0, 0⟩)]),
    ("game.json", .file (Text.toBytes strayGame.compact) ⟨0, 0⟩),
    ("levels.json", .file (Text.toBytes strayLevels.compact) ⟨0, 0⟩)])]
  here := ["work"]
  clock := 0

def strayArguments : List String :=
  ["--game", "game.json", "--levels", "levels.json", "--world-folder", "worlds"]

theorem changes_in_worldsFolder_stray :
    parse strayArguments = .ok (.run {
      game := ⟨"game.json"⟩, levels := ⟨"levels.json"⟩, worldsFolder := some ⟨"worlds"⟩ }) ∧
    Memory.disk.HasFolder ⟨"worlds"⟩ strayMemory ∧
    ∃ outcome mem changes,
      (execute Memory.disk strayArguments).run strayMemory = (outcome, mem) ∧
      (execute Memory.disk.recorded strayArguments).run (strayMemory, []) =
        (outcome, mem, changes) ∧
      ∀ change ∈ changes, change.IsIn ⟨"worlds"⟩ := by
  have hparse : parse strayArguments = .ok (.run {
      game := ⟨"game.json"⟩, levels := ⟨"levels.json"⟩, worldsFolder := some ⟨"worlds"⟩ }) := rfl
  refine ⟨hparse, rfl, ?_⟩
  exact changes_in_worldsFolder hparse rfl (Memory.disk_keepsFolder ⟨"worlds"⟩) strayMemory

end CommandLine

end Worldsmith
