import Worldsmith.Proofs.Files.Operations

namespace Worldsmith

/-- A change that a disk was asked for, whether or not it was made. -/
inductive Change
  | write (p : Path)
  | makeFolder (p : Path)
  | rename (source dest : Path)
  | remove (p : Path)
  | setModified (p : Path)
  deriving DecidableEq, Repr

def Change.paths : Change → List Path
  | write p => [p]
  | makeFolder p => [p]
  | rename source dest => [source, dest]
  | remove p => [p]
  | setModified p => [p]

def Change.IsIn (change : Change) (dir : Path) : Prop := ∀ p ∈ change.paths, p.IsIn dir

variable {σ α β : Type}

/-- Does the same next to a record, which is put on by some changes. -/
def recording (changes : List Change) (x : StateM σ α) : StateM (σ × List Change) α :=
  fun (s, record) =>
    let (a, s') := x.run s
    (a, s', record ++ changes)

namespace Disk

def recorded (disk : Disk (StateM σ)) : Disk (StateM (σ × List Change)) where
  info p := .mk (recording [] (disk.info p).run)
  read p := .mk (recording [] (disk.read p).run)
  write p content := .mk (recording [.write p] (disk.write p content).run)
  makeFolder p := .mk (recording [.makeFolder p] (disk.makeFolder p).run)
  rename source dest := .mk (recording [.rename source dest] (disk.rename source dest).run)
  remove p := .mk (recording [.remove p] (disk.remove p).run)
  setModified p modified := .mk (recording [.setModified p] (disk.setModified p modified).run)
  entries p := .mk (recording [] (disk.entries p).run)
  now := recording [] disk.now

def HasFolder (disk : Disk (StateM σ)) (dir : Path) (s : σ) : Prop :=
  ((disk.isFolder dir).run s).1 = true

end Disk

theorem Disk.hasFolder_iff {disk : Disk (StateM σ)} {dir : Path} {s : σ} : disk.HasFolder dir s ↔
    ∃ info, ((disk.info dir).run.run s).1 = .ok info ∧ info.kind = .folder := by
  rw [HasFolder, isFolder, info?, StateT.run_bind, StateT.run_bind]
  cases (disk.info dir).run.run s with
  | mk answer s' =>
    cases answer with
    | error e =>
      constructor
      · intro h
        cases h
      · rintro ⟨_, h, -⟩
        cases h
    | ok info =>
      constructor
      · exact fun h => ⟨info, rfl, of_decide_eq_true h⟩
      · rintro ⟨_, h, hkind⟩
        cases h
        exact decide_eq_true hkind

def Preserves (I : σ → Prop) (x : StateM σ α) : Prop := ∀ s, I s → I (x.run s).2

/-- From every state that meets a condition, a program does the same with and without a record,
records changes inside a folder only, and ends as described. -/
def Confined (dir : Path) (Pre : σ → Prop) (x : StateM σ α) (x' : StateM (σ × List Change) α)
    (Post : α → σ → Prop) : Prop :=
  ∀ s, Pre s → ∃ a s' changes, x.run s = (a, s') ∧
    (∀ record, x'.run (s, record) = (a, s', record ++ changes)) ∧
    (∀ change ∈ changes, change.IsIn dir) ∧ Post a s'

namespace Confined

variable {dir : Path} {Pre : σ → Prop} {Mid : α → σ → Prop} {Post : β → σ → Prop}

theorem pure {a : α} {Post : α → σ → Prop} (h : ∀ s, Pre s → Post a s) :
    Confined dir Pre (pure a) (pure a) Post := by
  intro s hs
  refine ⟨a, s, [], rfl, ?_, List.forall_mem_nil _, h s hs⟩
  intro record
  rw [List.append_nil]
  rfl

theorem bind {x : StateM σ α} {x' : StateM (σ × List Change) α} {f : α → StateM σ β}
    {f' : α → StateM (σ × List Change) β} (hx : Confined dir Pre x x' Mid)
    (hf : ∀ a, Confined dir (Mid a) (f a) (f' a) Post) :
    Confined dir Pre (x >>= f) (x' >>= f') Post := by
  intro s hs
  obtain ⟨a, s₁, changes, hrun, hrecord, hin, hmid⟩ := hx s hs
  obtain ⟨b, s₂, more, hrun', hrecord', hin', hpost⟩ := hf a s₁ hmid
  refine ⟨b, s₂, changes ++ more, ?_, ?_, ?_, hpost⟩
  · rw [StateT.run_bind, hrun]
    exact hrun'
  · intro record
    rw [StateT.run_bind, hrecord, ← List.append_assoc]
    exact hrecord' (record ++ changes)
  · intro change hchange
    exact (List.mem_append.1 hchange).elim (hin change) (hin' change)

theorem bind_except {ε : Type} {Mid : Except ε α → σ → Prop} {Post : Except ε β → σ → Prop}
    {x : ExceptT ε (StateM σ) α} {x' : ExceptT ε (StateM (σ × List Change)) α}
    {f : α → ExceptT ε (StateM σ) β} {f' : α → ExceptT ε (StateM (σ × List Change)) β}
    (hx : Confined dir Pre x.run x'.run Mid)
    (hf : ∀ a, Confined dir (Mid (.ok a)) (f a).run (f' a).run Post)
    (herror : ∀ e s, Mid (.error e) s → Post (.error e) s) :
    Confined dir Pre (x >>= f).run (x' >>= f').run Post := by
  rw [ExceptT.run_bind, ExceptT.run_bind]
  apply hx.bind
  intro r
  cases r with
  | ok a => exact hf a
  | error e => exact .pure (herror e)

theorem bind_lift {ε : Type} {Post : Except ε β → σ → Prop} {x : StateM σ α}
    {x' : StateM (σ × List Change) α} {f : α → ExceptT ε (StateM σ) β}
    {f' : α → ExceptT ε (StateM (σ × List Change)) β} (hx : Confined dir Pre x x' Mid)
    (hf : ∀ a, Confined dir (Mid a) (f a).run (f' a).run Post) :
    Confined dir Pre (ExceptT.lift x >>= f).run (ExceptT.lift x' >>= f').run Post := by
  rw [ExceptT.run_bind_lift, ExceptT.run_bind_lift]
  exact hx.bind hf

theorem weaken {x : StateM σ β} {x' : StateM (σ × List Change) β} {Pre' : σ → Prop}
    {Post' : β → σ → Prop} (hx : Confined dir Pre x x' Post) (hpre : ∀ s, Pre' s → Pre s)
    (hpost : ∀ b s, Post b s → Post' b s) : Confined dir Pre' x x' Post' := by
  intro s hs
  obtain ⟨b, s', changes, hrun, hrecord, hin, hb⟩ := hx s (hpre s hs)
  exact ⟨b, s', changes, hrun, hrecord, hin, hpost b s' hb⟩

theorem recording {changes : List Change} {x : StateM σ α} {Post : α → σ → Prop}
    (hin : ∀ change ∈ changes, change.IsIn dir)
    (hpost : ∀ s, Pre s → Post (x.run s).1 (x.run s).2) :
    Confined dir Pre x (recording changes x) Post :=
  fun s hs => ⟨_, _, changes, rfl, fun _ => rfl, hin, hpost s hs⟩

end Confined

def confined (dir : Path) (I : σ → Prop) : Lockstep (StateM σ) (StateM (σ × List Change)) where
  Same x x' P := Confined dir I x x' fun a s => I s ∧ P a
  pure h := .pure fun _ hs => ⟨hs, h⟩
  bind hx hf := hx.bind fun a s h => hf a h.2 s h.1

namespace Disk

/-- What a folder can rely on: reading and writing keep it, and as it is there already, it is not
for want of the folders around it that it cannot be created. -/
structure KeepsFolder (disk : Disk (StateM σ)) (dir : Path) : Prop where
  info : ∀ p, Preserves (disk.HasFolder dir) (disk.info p).run
  read : ∀ p, Preserves (disk.HasFolder dir) (disk.read p).run
  entries : ∀ p, Preserves (disk.HasFolder dir) (disk.entries p).run
  now : Preserves (disk.HasFolder dir) disk.now
  write : ∀ p content, Preserves (disk.HasFolder dir) (disk.write p content).run
  makeFolder : ∀ p, Preserves (disk.HasFolder dir) (disk.makeFolder p).run
  setModified : ∀ p modified, Preserves (disk.HasFolder dir) (disk.setModified p modified).run
  notMissing : ∀ p s, disk.HasFolder dir s → p.components = dir.components →
    ((disk.makeFolder p).run.run s).1 ≠ .error .notFound

section Recorded
variable {disk : Disk (StateM σ)} {dir : Path} {I : σ → Prop}

theorem confined_recording {x : StateM σ α} {changes : List Change} (h : Preserves I x)
    (hin : ∀ change ∈ changes, change.IsIn dir) : (confined dir I).Step x (recording changes x) :=
  .recording hin fun s hs => ⟨h s hs, trivial⟩

theorem recorded_reads (hinfo : ∀ p, Preserves I (disk.info p).run)
    (hread : ∀ p, Preserves I (disk.read p).run) (hentries : ∀ p, Preserves I (disk.entries p).run)
    (hnow : Preserves I disk.now) : Reads (confined dir I) disk disk.recorded where
  info p := confined_recording (hinfo p) (List.forall_mem_nil _)
  read p := confined_recording (hread p) (List.forall_mem_nil _)
  entries p := confined_recording (hentries p) (List.forall_mem_nil _)
  now := confined_recording hnow (List.forall_mem_nil _)

theorem reads_recorded (dir : Path) (disk : Disk (StateM σ)) :
    Reads (confined dir fun _ => True) disk disk.recorded :=
  recorded_reads (fun _ _ _ => trivial) (fun _ _ _ => trivial) (fun _ _ _ => trivial)
    fun _ _ => trivial

theorem KeepsFolder.changes (h : disk.KeepsFolder dir) :
    Changes (confined dir (disk.HasFolder dir)) disk disk.recorded dir where
  toReads := recorded_reads h.info h.read h.entries h.now
  write p content hp := confined_recording (h.write p content) (List.forall_mem_singleton.2
    (List.forall_mem_singleton.2 hp))
  makeFolder p hp := .recording (List.forall_mem_singleton.2 (List.forall_mem_singleton.2 hp))
    fun s hs => ⟨h.makeFolder p s hs, h.notMissing p s hs⟩
  setModified p modified hp := confined_recording (h.setModified p modified)
    (List.forall_mem_singleton.2 (List.forall_mem_singleton.2 hp))

theorem KeepsFolder.confined_isFolder (h : disk.KeepsFolder dir) :
    Confined dir (fun _ => True) (disk.isFolder dir) (disk.recorded.isFolder dir) fun answer s =>
      answer = true → disk.HasFolder dir s := by
  intro s _
  by_cases hs : disk.HasFolder dir s
  · obtain ⟨answer, s', changes, hrun, hrecord, hin, hs', -⟩ := h.changes.isFolder dir s hs
    exact ⟨answer, s', changes, hrun, hrecord, hin, fun _ => hs'⟩
  · obtain ⟨answer, s', changes, hrun, hrecord, hin, -, -⟩ :=
      (reads_recorded dir disk).isFolder dir s trivial
    refine ⟨answer, s', changes, hrun, hrecord, hin, ?_⟩
    intro hanswer
    refine absurd ?_ hs
    rw [HasFolder, hrun]
    exact hanswer

end Recorded

end Disk

end Worldsmith
