import Worldsmith.Files.Disk
import Worldsmith.Proofs.Files.Path
import Worldsmith.Proofs.Lockstep

namespace Worldsmith

open Lockstep (Step step_pure)

variable {m m' : Type → Type} [Monad m] [Monad m'] (L : Lockstep m m') (disk : Disk m)
  (disk' : Disk m')

namespace Disk

/-- What reads two disks goes in step on them. -/
structure Reads : Prop where
  info : ∀ p, L.Step (disk.info p).run (disk'.info p).run
  read : ∀ p, L.Step (disk.read p).run (disk'.read p).run
  entries : ∀ p, L.Step (disk.entries p).run (disk'.entries p).run
  now : L.Step disk.now disk'.now

/-- What changes two disks inside a folder goes in step on them, and the folder itself is not
missing. -/
structure Changes (dir : Path) : Prop extends Reads L disk disk' where
  write : ∀ p content, p.IsIn dir → L.Step (disk.write p content).run (disk'.write p content).run
  makeFolder : ∀ p, p.IsIn dir → L.Same (disk.makeFolder p).run (disk'.makeFolder p).run
    fun answer => p.components = dir.components → answer ≠ .error .notFound
  setModified : ∀ p modified, p.IsIn dir →
    L.Step (disk.setModified p modified).run (disk'.setModified p modified).run

/-- What changes two disks at one path goes in step on them. -/
structure Edits (dest : Path) : Prop extends Reads L disk disk' where
  makeParent : L.Step (disk.makeParent dest).run (disk'.makeParent dest).run
  write : ∀ content, L.Step (disk.write dest content).run (disk'.write dest content).run
  setModified : ∀ modified,
    L.Step (disk.setModified dest modified).run (disk'.setModified dest modified).run

variable {L disk disk'}

namespace Reads

theorem info? (h : Reads L disk disk') (p : Path) : L.Step (disk.info? p) (disk'.info? p) := by
  apply (h.info p).bind
  intro answer
  cases answer <;> exact step_pure _

theorem isFolder (h : Reads L disk disk') (p : Path) : L.Step (disk.isFolder p) (disk'.isFolder p) :=
  (h.info? p).bind fun _ => step_pure _

theorem isFile (h : Reads L disk disk') (p : Path) : L.Step (disk.isFile p) (disk'.isFile p) :=
  (h.info? p).bind fun _ => step_pure _

theorem readText (h : Reads L disk disk') (p : Path) :
    L.Step (disk.readText p).run (disk'.readText p).run := by
  apply (h.read p).bind_except
  intro content
  split <;> exact step_pure _

variable [LawfulMonad m] [LawfulMonad m']

theorem unlessFolder (h : Reads L disk disk') (p : Path) (e : FileError) :
    L.Step (disk.unlessFolder p e).run (disk'.unlessFolder p e).run := by
  apply (h.isFolder p).bind_lift
  intro answer
  cases answer <;> exact step_pure _

/-- Creating folders goes from a place to the one around it while a folder is missing. -/
theorem makeFoldersFrom (h : Reads L disk disk') (Open : Path → Prop)
    (hmake : ∀ p, Open p → L.Same (disk.makeFolder p).run (disk'.makeFolder p).run
      fun answer => answer = .error .notFound → ∀ q, p.parent? = some q → Open q)
    (depth : Nat) {p : Path} (hp : Open p) :
    L.Step (disk.makeFoldersFrom depth p).run (disk'.makeFoldersFrom depth p).run := by
  induction depth generalizing p with
  | zero => exact step_pure _
  | succ depth ih =>
    rw [Disk.makeFoldersFrom, Disk.makeFoldersFrom]
    split
    · exact step_pure _
    · apply Lockstep.step_tryCatch (hmake p hp)
      intro e he
      split
      · next hmissing =>
        subst hmissing
        split
        · next parent hparent =>
          apply (ih (he rfl parent hparent)).bind_except
          intro _
          exact Lockstep.step_tryCatch (hmake p hp) fun e _ => h.unlessFolder p e
        · exact step_pure _
      · exact h.unlessFolder p e

theorem walkFrom (h : Reads L disk disk') (depth : Nat) (here : Found) (kind : FileKind) :
    L.Step (disk.walkFrom depth here kind) (disk'.walkFrom depth here kind) := by
  induction depth generalizing here kind with
  | zero => exact step_pure _
  | succ depth ih =>
    cases kind with
    | file => exact step_pure _
    | other => exact step_pure _
    | folder =>
      apply (h.entries here.path).bind
      intro answer
      cases answer with
      | error e => exact step_pure _
      | ok entries =>
        apply Step.bind (Lockstep.step_mapM (fun e : String × FileKind => ih _ e.2) _)
        intro below
        exact step_pure _

theorem walk (h : Reads L disk disk') (root : Path) : L.Step (disk.walk root) (disk'.walk root) := by
  apply (h.info root).bind
  intro answer
  cases answer with
  | error e => exact step_pure _
  | ok info => exact h.walkFrom _ _ _

end Reads

theorem Edits.copy {dest : Path} (h : Edits L disk disk' dest) (source : Path) :
    L.Step (disk.copy source dest).run (disk'.copy source dest).run := by
  apply (h.info source).bind_except
  intro info
  split
  · apply (h.read source).bind_except
    intro content
    exact h.write content
  · exact step_pure _

namespace Changes

variable {dir p : Path} [LawfulMonad m] [LawfulMonad m']

theorem makeFolders (h : Changes L disk disk' dir) (hp : p.IsIn dir) :
    L.Step (disk.makeFolders p).run (disk'.makeFolders p).run := by
  apply h.makeFoldersFrom (·.IsIn dir) _ _ hp
  intro q hq
  apply Lockstep.imp (h.makeFolder q hq)
  rintro _ hanswer rfl r hr
  exact Path.IsBelow.parent ⟨hq, fun hdir => hanswer hdir rfl⟩ hr

theorem makeParent (h : Changes L disk disk' dir) (hp : p.IsBelow dir) :
    L.Step (disk.makeParent p).run (disk'.makeParent p).run := by
  rw [Disk.makeParent, Disk.makeParent]
  split
  · next hparent => exact h.makeFolders (hp.parent hparent)
  · exact step_pure _

theorem edits (h : Changes L disk disk' dir) (hp : p.IsBelow dir) : Edits L disk disk' p where
  toReads := h.toReads
  makeParent := h.makeParent hp
  write content := h.write p content hp.1
  setModified modified := h.setModified p modified hp.1

end Changes

end Disk

end Worldsmith
