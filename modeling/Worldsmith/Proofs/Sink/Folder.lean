import Worldsmith.Proofs.Files.Operations
import Worldsmith.Sink.Folder

namespace Worldsmith

open Lockstep (Step step_pure)

namespace FolderSink

variable {m m' : Type → Type} [Monad m] [Monad m'] [LawfulMonad m] [LawfulMonad m']
  {L : Lockstep m m'} {disk : Disk m} {disk' : Disk m'} {dir : Path} {s : FolderSink}

def Pending (dir : Path) (queue : Queue) : Prop := ∀ w ∈ queue, w.dest.IsBelow dir

theorem locate_isBelow {path : String} {dest : Path} (hname : (Path.mk path).HasName)
    (h : s.locate path = .ok dest) : (Path.mk path).isInner ∧ dest.IsBelow s.base := by
  rw [locate] at h
  split at h
  · next hinner =>
    cases h
    exact ⟨hinner, Path.join_isBelow hinner hname⟩
  · cases h

theorem enqueue_step (w : QueuedWrite) (hw : w.dest.IsBelow dir) :
    (L.withState (Pending dir)).Step (enqueue w : Action m Unit).run
      (enqueue w : Action m' Unit).run := by
  apply Step.unfailing
  apply Lockstep.step_modify
  intro queue hqueue w' hw'
  rcases List.mem_append.1 hw' with hw' | hw'
  · exact hqueue w' hw'
  · rw [List.mem_singleton.1 hw']
    exact hw

theorem addText_same {path : String} (content : String) (hname : (Path.mk path).HasName) :
    (L.withState (Pending s.base)).Same (s.addText path content : Action m Unit).run
      (s.addText path content : Action m' Unit).run
      fun answer => answer = .ok () → (Path.mk path).isInner := by
  rw [addText, addText]
  apply Lockstep.step_liftM
  · intro dest hdest
    obtain ⟨hinner, hbelow⟩ := locate_isBelow hname hdest
    exact (enqueue_step (.text dest content) hbelow).same fun _ _ => hinner
  · intro e _ h
    cases h

theorem addFile_step (hdisk : disk.Reads L disk') {path : String} (source : Path)
    (hname : (Path.mk path).HasName) :
    (L.withState (Pending s.base)).Step (s.addFile disk path source).run
      (s.addFile disk' path source).run := by
  rw [addFile, addFile]
  apply Lockstep.step_liftM
  · intro dest hdest
    apply (hdisk.isFile source).lift.bind_lift
    intro isFile
    split
    · exact enqueue_step (.copy dest source) (locate_isBelow hname hdest).2
    · exact step_pure _
  · intro _ _
    trivial

theorem refresh_step {dest : Path} (h : disk.Edits L disk' dest) (source : Path) :
    L.Step (refresh disk source dest).run (refresh disk' source dest).run := by
  rw [refresh, refresh]
  apply (h.info source).bind_except
  intro info
  apply (h.info? dest).bind_lift
  intro old
  have hcopy : L.Step (do
      disk.makeParent dest
      disk.copy source dest
      disk.setModified dest info.modified).run (do
      disk'.makeParent dest
      disk'.copy source dest
      disk'.setModified dest info.modified).run := by
    apply h.makeParent.bind_except
    intro _
    apply (h.copy source).bind_except
    intro _
    exact h.setModified _
  cases old with
  | none => exact hcopy
  | some old =>
    dsimp only
    split
    · exact step_pure _
    · exact hcopy

theorem perform_step {w : QueuedWrite} (h : disk.Edits L disk' w.dest) :
    L.Step (perform disk w).run (perform disk' w).run := by
  cases w with
  | text dest content =>
    apply h.makeParent.bind_except
    intro _
    exact h.write _
  | copy dest source => exact refresh_step h source

theorem performAll_step (h : disk.Changes L disk' dir) {queue : Queue} (hqueue : Pending dir queue) :
    L.Step (performAll disk queue) (performAll disk' queue) := by
  induction queue with
  | nil => exact step_pure []
  | cons w queue ih =>
    obtain ⟨hw, hqueue⟩ := List.forall_mem_cons.1 hqueue
    apply (perform_step (h.edits hw)).bind
    intro answer
    apply (ih hqueue).bind
    intro failed
    cases answer <;> exact step_pure _

theorem finalize_step (h : disk.Changes L disk' s.base) (hworld : (Path.mk s.world).isInner) :
    (L.withState (Pending s.base)).Step (s.finalize disk).run (s.finalize disk').run := by
  rw [finalize, finalize]
  apply (h.makeFolders (Path.join_isIn hworld)).lift.bind_lift
  intro answer
  cases answer with
  | error e => exact step_pure _
  | ok =>
    apply Lockstep.bind_lift Lockstep.same_get
    intro queue hqueue
    apply (Lockstep.step_set (List.forall_mem_nil _)).bind_lift
    intro _
    exact (performAll_step h hqueue).lift.unfailing

end FolderSink

end Worldsmith
