import Worldsmith.Proofs.Files.Path
import Worldsmith.Proofs.Lockstep
import Worldsmith.Proofs.World.Compile

namespace Worldsmith

open Lockstep (Step step_pure)

variable {m m' : Type → Type} [Monad m] [Monad m'] {L : Lockstep m m'} {sink : Sink m}
  {sink' : Sink m'} {world : String}

/-- Two sinks that go in step. A text is only accepted at an inner path, and they are only finalized
if the name of the world is one. -/
structure Sink.Alike (L : Lockstep m m') (world : String) (sink : Sink m) (sink' : Sink m') :
    Prop where
  addText : ∀ path content, (Path.mk path).HasName →
    L.Same (sink.addText path content).run (sink'.addText path content).run
      fun answer => answer = .ok () → (Path.mk path).isInner
  addFile : ∀ dest source, (Path.mk dest).HasName →
    L.Step (sink.addFile dest source).run (sink'.addFile dest source).run
  finalize : (Path.mk world).isInner → L.Step sink.finalize.run sink'.finalize.run
  label : sink.label = sink'.label
  versioned : sink.versioned = sink'.versioned

namespace World

variable (w : World)

theorem file_hasName {name : String} (h : (Path.mk name).HasName) :
    (Path.mk (w.file name)).HasName :=
  Path.hasName_slash_right _ h

theorem dataPath_hasName : (Path.mk w.dataPath).HasName :=
  w.file_hasName (Path.hasName_append _ (by decide) (by decide))

theorem definitionsPath_hasName : (Path.mk w.definitionsPath).HasName :=
  w.file_hasName (Path.hasName_append _ (by decide) (by decide))

theorem includedPath_hasName (source : String) : (Path.mk (w.includedPath source)).HasName :=
  w.file_hasName (Path.hasName_slash_left (a := "wad") ⟨"wad", by decide⟩ _)

theorem commonPath_hasName (names : List String) : (Path.mk (w.commonPath names)).HasName :=
  w.file_hasName (Path.hasName_slash_left (a := "id1common") ⟨"id1common", by decide⟩ _)

section Packaging
variable {w}

theorem addText_step [LawfulMonad m] [LawfulMonad m'] (h : sink.Alike L world sink') {path : String}
    (content : String) (hname : (Path.mk path).HasName) :
    L.Step (sink.addText path content).run (sink'.addText path content).run :=
  Lockstep.step (h.addText path content hname)

theorem tryAdd_step (h : sink.Alike L world sink') {dest : String} (source : Path)
    (hname : (Path.mk dest).HasName) :
    L.Step (tryAdd sink dest source) (tryAdd sink' dest source) := by
  apply (h.addFile dest source hname).bind
  intro answer
  cases answer <;> exact step_pure _

theorem addIncluded_step (h : sink.Alike L world sink') (sources : List String) :
    L.Step (w.addIncluded sink sources) (w.addIncluded sink' sources) := by
  induction sources with
  | nil => exact step_pure _
  | cons source sources ih =>
    apply (tryAdd_step h ⟨source⟩ (w.includedPath_hasName source)).bind
    intro noted
    apply ih.bind
    intro rest
    exact step_pure _

theorem addCommon_step (h : sink.Alike L world sink') (common : List Disk.Step) :
    L.Step (w.addCommon sink common) (w.addCommon sink' common) := by
  induction common with
  | nil => exact step_pure _
  | cons step common ih =>
    cases step with
    | error text =>
      apply ih.bind
      intro notes
      exact step_pure _
    | ok found =>
      apply (tryAdd_step h found.path (w.commonPath_hasName found.names)).bind
      intro noted
      apply ih.bind
      intro notes
      exact step_pure _

variable [LawfulMonad m] [LawfulMonad m']

theorem package_step (h : sink.Alike L w.game.worldName sink') (common : List Disk.Step)
    (spacing : Nat) (now : DateTime) :
    L.Step (w.package sink common spacing now).run (w.package sink' common spacing now).run := by
  rw [package, package, h.versioned]
  apply Lockstep.bind_except (h.addText w.dataPath _ w.dataPath_hasName)
  · intro _ haccepted
    have hworld : (Path.mk w.game.worldName).isInner := Path.isInner_of_slash (haccepted rfl)
    apply (addIncluded_step h _).bind_lift
    intro included
    apply (addText_step h _ w.definitionsPath_hasName).bind_except
    intro _
    apply (addText_step h _ (w.file_hasName ⟨"archipelago.json", by decide⟩)).bind_except
    intro _
    apply (addText_step h _ (w.file_hasName ⟨"options.py", by decide⟩)).bind_except
    intro _
    apply (addText_step h _ (w.file_hasName ⟨"__init__.py", by decide⟩)).bind_except
    intro _
    apply (addCommon_step h common).bind_lift
    intro sharing
    apply (h.finalize hworld).bind_except
    intro failed
    exact step_pure _
  · intro _ _
    trivial

end Packaging

end World

/-- Whether a game is packaged does not depend on the sink. -/
theorem generate_step [LawfulMonad m] [LawfulMonad m'] {game : Game}
    (h : sink.Alike L game.worldName sink') (data : GameLevels) (common : List Disk.Step)
    (spacing : Nat) (now : DateTime) :
    L.Step (generate game data sink common spacing now).run
      (generate game data sink' common spacing now).run := by
  rw [generate, generate, h.label]
  apply Lockstep.step_liftM
  · rintro ⟨w, notes⟩ hcompile
    obtain ⟨levels, -, -, rfl, -⟩ := World.compile_eq_ok_iff.1 hcompile
    apply (World.package_step h common spacing now).bind_except
    intro packaging
    exact step_pure _
  · intro _ _
    trivial

end Worldsmith
