import Worldsmith.Proofs.Files.Operations

/-!
A file system as a map from paths to what stands there, in which every change may fail at any time. A
write that fails may leave anything in its place. Creating the folders around a path keeps all that
stands somewhere, and puts folders only where nothing stands.
-/

namespace Worldsmith

variable {σ : Type}

/-- What a program may do to a state: nothing, or one thing after the other. -/
structure Effect (σ : Type) where
  May : σ → σ → Prop
  refl : ∀ s, May s s
  trans : ∀ {s₁ s₂ s₃}, May s₁ s₂ → May s₂ s₃ → May s₁ s₃

/-- Programs that stay within an effect. The second program plays no part. -/
def Effect.within (E : Effect σ) : Lockstep (StateM σ) (StateM σ) where
  Same x _ P := ∀ s, E.May s (x.run s).2 ∧ P (x.run s).1
  pure h := fun s => ⟨E.refl s, h⟩
  bind hx hf := fun s =>
    have ⟨hfirst, ha⟩ := hx s
    have ⟨hsecond, hb⟩ := hf _ ha _
    ⟨E.trans hfirst hsecond, hb⟩

theorem Effect.may_of_step {α : Type} {E : Effect σ} {x x' : StateM σ α} {a : α} {s s' : σ}
    (h : E.within.Step x x') (hrun : x.run s = (a, s')) : E.May s s' := by
  have hmay := (h s).1
  rw [hrun] at hmay
  exact hmay

inductive Stored
  | folder
  | file (content : Bytes) (modified : Timestamp)
  deriving DecidableEq, Repr

abbrev View (σ : Type) := σ → Path → Option Stored

/-- A true answer to a question about what stands somewhere. -/
inductive Stored.Told : Option Stored → Except FileError FileInfo → Prop
  | missing (e : FileError) : Told none (.error e)
  | folder (modified : Timestamp) : Told (some .folder) (.ok ⟨.folder, modified⟩)
  | file (content : Bytes) (modified : Timestamp) :
    Told (some (.file content modified)) (.ok ⟨.file, modified⟩)

/-- A file is kept. Where nothing stands, a folder may come to stand if there is room for one. -/
def View.keeps (view : View σ) (p : Path) (room : Prop) : Effect σ where
  May s s' := view s' p = view s p ∨ room ∧ view s p = none ∧ view s' p = some .folder
  refl _ := .inl rfl
  trans := by
    rintro s₁ s₂ s₃ (h | ⟨hroom, hnone, h⟩) (h' | ⟨hroom', hnone', h'⟩)
    · exact .inl (h'.trans h)
    · exact .inr ⟨hroom', h ▸ hnone', h'⟩
    · exact .inr ⟨hroom, hnone, h'.trans h⟩
    · rw [h] at hnone'
      cases hnone'

section Keeps
variable {view : View σ} {p : Path} {room : Prop} {s s' : σ}

theorem View.keeps_of_eq (h : view s' = view s) : (view.keeps p room).May s s' :=
  .inl (congrFun h p)

theorem View.eq_of_keeps (h : (view.keeps p room).May s s') (hroom : ¬ room) :
    view s' p = view s p :=
  h.resolve_right fun hfolder => hroom hfolder.1

theorem View.stays_of_keeps (h : (view.keeps p room).May s s') {stored : Stored}
    (hs : view s p = some stored) : view s' p = some stored := by
  obtain h | ⟨_, hnone, _⟩ := h
  · exact h.trans hs
  · rw [hs] at hnone
    cases hnone

theorem View.stood_of_keeps (h : (view.keeps p room).May s s') {stored : Option Stored}
    (hs' : view s' p = stored) (hfile : stored ≠ some .folder) : view s p = stored := by
  obtain h | ⟨_, _, hfolder⟩ := h
  · exact h.symm.trans hs'
  · exact absurd (hs'.symm.trans hfolder) hfile

end Keeps

def Path.Around (q p : Path) : Prop :=
  q.components <+: p.components ∧ q.components.length < p.components.length

theorem Path.not_around_self (p : Path) : ¬ p.Around p := fun h => Nat.lt_irrefl _ h.2

theorem Path.around_of_parent {p q parent : Path} (hparent : p.parent? = some parent)
    (hq : q.components <+: parent.components) : q.Around p := by
  have hne : p.components ≠ [] := by
    intro hnil
    obtain rfl : p = ⟨""⟩ := congrArg Path.mk
      (String.toList_eq_nil_iff.1 (List.isEmpty_iff.1 (Path.components_eq_nil hnil)))
    cases hparent
  rw [Path.parent?_components hparent] at hq
  have hle := hq.length_le
  have hpos := List.length_pos_iff.2 hne
  rw [List.length_dropLast] at hle
  exact ⟨hq.trans (List.dropLast_prefix _), by omega⟩

namespace Disk

variable {disk : Disk (StateM σ)} {view : View σ}

/-- The disk does to the view what it is asked for, or fails. Nothing is said of what a failed
change leaves at its own path, except that a folder is created or not and a file is moved or not. -/
structure Shows (disk : Disk (StateM σ)) (view : View σ) : Prop where
  info : ∀ {p s answer s'}, (disk.info p).run.run s = (answer, s') →
    view s' = view s ∧ Stored.Told (view s p) answer
  read : ∀ {p s answer s'}, (disk.read p).run.run s = (answer, s') → view s' = view s ∧
    ∀ content, answer = .ok content → ∃ modified, view s p = some (.file content modified)
  entries : ∀ {p s answer s'}, (disk.entries p).run.run s = (answer, s') → view s' = view s
  now : ∀ {s time s'}, disk.now.run s = (time, s') → view s' = view s
  write : ∀ {p content s answer s'}, (disk.write p content).run.run s = (answer, s') →
    (∀ q, q ≠ p → view s' q = view s q) ∧
    (answer = .ok () → view s p ≠ some .folder ∧
      ∃ modified, view s' p = some (.file content modified))
  makeFolder : ∀ {p s answer s'}, (disk.makeFolder p).run.run s = (answer, s') →
    (∀ q, q ≠ p → view s' q = view s q) ∧
    (view s' p = view s p ∨ view s p = none ∧ view s' p = some .folder)
  /-- For plain files only: what is inside a folder moves with it. -/
  rename : ∀ {source dest s answer s' content modified}, source ≠ dest →
    view s source = some (.file content modified) →
    (disk.rename source dest).run.run s = (answer, s') →
    match answer with
    | .ok () => view s' source = none ∧ view s' dest = some (.file content modified) ∧
      ∀ q, q ≠ source → q ≠ dest → view s' q = view s q
    | .error _ => view s' = view s
  remove : ∀ {p s answer s'}, (disk.remove p).run.run s = (answer, s') →
    ∀ q, q ≠ p → view s' q = view s q
  setModified : ∀ {p modified s answer s'},
    (disk.setModified p modified).run.run s = (answer, s') →
    (∀ q, q ≠ p → view s' q = view s q) ∧
    ∀ content old, answer = .ok () → view s p = some (.file content old) →
      view s' p = some (.file content modified)

namespace Shows

variable {p q : Path} {room : Prop}

theorem reads (h : disk.Shows view) (p : Path) (room : Prop) :
    disk.Reads (view.keeps p room).within disk where
  info _ _ := ⟨View.keeps_of_eq (h.info rfl).1, trivial⟩
  read _ _ := ⟨View.keeps_of_eq (h.read rfl).1, trivial⟩
  entries _ _ := ⟨View.keeps_of_eq (h.entries rfl), trivial⟩
  now _ := ⟨View.keeps_of_eq (h.now rfl), trivial⟩

theorem info?_told (h : disk.Shows view) {s s' : σ} {found : Option FileInfo}
    (hrun : (disk.info? p).run s = (found, s')) :
    view s' = view s ∧ ∃ answer, Stored.Told (view s p) answer ∧ found = answer.toOption := by
  rcases hinfo : (disk.info p).run.run s with ⟨answer, s₁⟩
  obtain ⟨hview, htold⟩ := h.info hinfo
  rw [info?, StateT.run_bind, hinfo] at hrun
  cases answer <;> cases hrun <;> exact ⟨hview, _, htold, rfl⟩

theorem isFile_iff (h : disk.Shows view) {s s' : σ} {answer : Bool}
    (hrun : (disk.isFile p).run s = (answer, s')) : view s' = view s ∧
      (answer = true ↔ ∃ content modified, view s p = some (.file content modified)) := by
  rcases hinfo : (disk.info? p).run s with ⟨found, s₁⟩
  obtain ⟨hview, told, htold, rfl⟩ := h.info?_told hinfo
  rw [isFile, StateT.run_bind, hinfo] at hrun
  cases hrun
  refine ⟨hview, ?_⟩
  generalize view s p = stored at htold
  cases htold <;> simp [Except.toOption]

theorem makeFolder_keeps (h : disk.Shows view) (hroom : p = q → room) {s s' : σ}
    {answer : Except FileError Unit} (hrun : (disk.makeFolder q).run.run s = (answer, s')) :
    (view.keeps p room).May s s' := by
  obtain ⟨hothers, hself⟩ := h.makeFolder hrun
  by_cases hpq : p = q
  · subst hpq
    exact hself.imp_right fun hfolder => ⟨hroom rfl, hfolder⟩
  · exact .inl (hothers p hpq)

theorem makeFolders_keeps (h : disk.Shows view) (hroom : p.components <+: q.components → room)
    {s s' : σ} {answer : Except FileError Unit}
    (hrun : (disk.makeFolders q).run.run s = (answer, s')) : (view.keeps p room).May s s' := by
  have hstep : (view.keeps p room).within.Step (disk.makeFolders q).run (disk.makeFolders q).run := by
    apply (h.reads p room).makeFoldersFrom (·.components <+: q.components) _ _ (List.prefix_refl _)
    intro r hr s
    refine ⟨h.makeFolder_keeps (fun hpr : p = r => hroom (hpr ▸ hr)) rfl, fun _ parent hparent => ?_⟩
    rw [Path.parent?_components hparent]
    exact (List.dropLast_prefix _).trans hr
  exact Effect.may_of_step hstep hrun

theorem makeParent_keeps (h : disk.Shows view) (hroom : p.Around q → room) {s s' : σ}
    {answer : Except FileError Unit} (hrun : (disk.makeParent q).run.run s = (answer, s')) :
    (view.keeps p room).May s s' := by
  rw [makeParent] at hrun
  split at hrun
  · next parent hparent =>
    exact h.makeFolders_keeps (fun hp => hroom (Path.around_of_parent hparent hp)) hrun
  · cases hrun
    exact (view.keeps p room).refl s

theorem makeParent_self (h : disk.Shows view) {s s' : σ} {answer : Except FileError Unit}
    (hrun : (disk.makeParent p).run.run s = (answer, s')) : view s' p = view s p :=
  View.eq_of_keeps (h.makeParent_keeps id hrun) p.not_around_self

theorem edits (h : disk.Shows view) (hpq : p ≠ q) :
    disk.Edits (view.keeps p True).within disk q where
  toReads := h.reads p True
  makeParent _ := ⟨h.makeParent_keeps (fun _ => trivial) rfl, trivial⟩
  write _ _ := ⟨.inl ((h.write rfl).1 p hpq), trivial⟩
  setModified _ _ := ⟨.inl ((h.setModified rfl).1 p hpq), trivial⟩

end Shows

end Disk

end Worldsmith
