import Worldsmith.Proofs.Files.Scripted
import Worldsmith.Proofs.Outcome
import Worldsmith.Sink.Archive

namespace Worldsmith.ArchiveSink

variable {σ : Type} {disk : Disk (StateM σ)} {view : View σ} {path q : Path} {queue left : Queue}
  {bytes : Bytes} {s s' : σ} {deflate : Bytes → Option Bytes}

def image (deflate : Bytes → Option Bytes) (queue : Queue) : Except Archive.Overflow Bytes :=
  Archive.build deflate packageComment queue

theorem partialPath_ne (path : Path) : partialPath path ≠ path := by
  intro h
  have hlength := congrArg (fun p => p.text.length) h
  rw [partialPath, String.length_append] at hlength
  exact absurd hlength (by simp)

/-- How far an attempt to store an archive gets. Only its last step is about the place of the
archive. -/
inductive Attempt (deflate : Bytes → Option Bytes) (disk : Disk (StateM σ)) (path : Path)
    (queue : Queue) (s : σ) : Except FileError Unit → σ → Prop
  | unbuilt {overflow : Archive.Overflow} (himage : image deflate queue = .error overflow) :
    Attempt deflate disk path queue s (.error (.other overflow.message)) s
  | outside {e : FileError} {s₁ : σ} (hparent : (disk.makeParent path).run.run s = (.error e, s₁)) :
    Attempt deflate disk path queue s (.error e) s₁
  | unwritten {bytes : Bytes} {e : FileError} {s₁ s₂ : σ}
    (hparent : (disk.makeParent path).run.run s = (.ok (), s₁))
    (hwrite : (disk.write (partialPath path) bytes).run.run s₁ = (.error e, s₂)) :
    Attempt deflate disk path queue s (.error e) s₂
  | unmoved {bytes : Bytes} {e : FileError} {removed : Except FileError Unit} {s₁ s₂ s₃ s₄ : σ}
    (hparent : (disk.makeParent path).run.run s = (.ok (), s₁))
    (hwrite : (disk.write (partialPath path) bytes).run.run s₁ = (.ok (), s₂))
    (hrename : (disk.rename (partialPath path) path).run.run s₂ = (.error e, s₃))
    (hremove : (disk.remove (partialPath path)).run.run s₃ = (removed, s₄)) :
    Attempt deflate disk path queue s (.error e) s₄
  | moved {bytes : Bytes} {s₁ s₂ s₃ : σ} (himage : image deflate queue = .ok bytes)
    (hparent : (disk.makeParent path).run.run s = (.ok (), s₁))
    (hwrite : (disk.write (partialPath path) bytes).run.run s₁ = (.ok (), s₂))
    (hrename : (disk.rename (partialPath path) path).run.run s₂ = (.ok (), s₃)) :
    Attempt deflate disk path queue s (.ok ()) s₃

theorem store_eq_error {overflow : Archive.Overflow} (h : image deflate queue = .error overflow) :
    store deflate disk path queue = throw (.other overflow.message) := by
  rw [image] at h
  rw [store, h]

theorem store_eq_ok (h : image deflate queue = .ok bytes) : store deflate disk path queue = (do
    disk.makeParent path
    disk.write (partialPath path) bytes
    moveInto disk (partialPath path) path) := by
  rw [image] at h
  rw [store, h]

theorem moveInto_ok {source dest : Path} (h : (disk.rename source dest).run.run s = (.ok (), s')) :
    (moveInto disk source dest).run.run s = (.ok (), s') :=
  run_tryCatch_ok h

theorem moveInto_error {source dest : Path} {e : FileError} {removed : Except FileError Unit}
    {s₁ : σ} (hrename : (disk.rename source dest).run.run s = (.error e, s₁))
    (hremove : (disk.remove source).run.run s₁ = (removed, s')) :
    (moveInto disk source dest).run.run s = (.error e, s') := by
  rw [moveInto, run_tryCatch_error hrename]
  cases removed with
  | error e' =>
    rw [run_bind_ok (run_tryCatch_error hremove)]
    rfl
  | ok =>
    rw [run_bind_ok (run_tryCatch_ok hremove)]
    rfl

theorem store_attempt {answer : Except FileError Unit}
    (h : (store deflate disk path queue).run.run s = (answer, s')) :
    Attempt deflate disk path queue s answer s' := by
  cases himage : image deflate queue with
  | error overflow =>
    rw [store_eq_error himage] at h
    cases h
    exact .unbuilt himage
  | ok bytes =>
    rw [store_eq_ok himage] at h
    rcases hparent : (disk.makeParent path).run.run s with ⟨e | _, s₁⟩
    · rw [run_bind_error hparent] at h
      cases h
      exact .outside hparent
    rw [run_bind_ok hparent] at h
    rcases hwrite : (disk.write (partialPath path) bytes).run.run s₁ with ⟨e | _, s₂⟩
    · rw [run_bind_error hwrite] at h
      cases h
      exact .unwritten hparent hwrite
    rw [run_bind_ok hwrite] at h
    rcases hrename : (disk.rename (partialPath path) path).run.run s₂ with ⟨e | _, s₃⟩
    · rcases hremove : (disk.remove (partialPath path)).run.run s₃ with ⟨removed, s₄⟩
      rw [moveInto_error hrename hremove] at h
      cases h
      exact .unmoved hparent hwrite hrename hremove
    · rw [moveInto_ok hrename] at h
      cases h
      exact .moved himage hparent hwrite hrename

/-- The archive was built, the folders around its place are there, and it was written and moved to
its place. -/
def WrittenOut (deflate : Bytes → Option Bytes) (disk : Disk (StateM σ)) (path : Path)
    (queue : Queue) (s s' : σ) : Prop :=
  ∃ bytes s₁ s₂, image deflate queue = .ok bytes ∧ (disk.makeParent path).run.run s = (.ok (), s₁) ∧
    (disk.write (partialPath path) bytes).run.run s₁ = (.ok (), s₂) ∧
    (disk.rename (partialPath path) path).run.run s₂ = (.ok (), s')

theorem store_ok_iff : (store deflate disk path queue).run.run s = (.ok (), s') ↔
    WrittenOut deflate disk path queue s s' := by
  constructor
  · intro h
    cases store_attempt h with
    | moved himage hparent hwrite hrename => exact ⟨_, _, _, himage, hparent, hwrite, hrename⟩
  · rintro ⟨bytes, s₁, s₂, himage, hparent, hwrite, hrename⟩
    rw [store_eq_ok himage, run_bind_ok hparent, run_bind_ok hwrite]
    exact moveInto_ok hrename

/-- The archive of a queue stands in its place, with nothing beside it. -/
def Holds (deflate : Bytes → Option Bytes) (view : View σ) (path : Path) (queue : Queue) (s : σ) :
    Prop :=
  view s (partialPath path) = none ∧
    ∃ bytes modified, image deflate queue = .ok bytes ∧ view s path = some (.file bytes modified)

theorem WrittenOut.holds (hdisk : disk.Shows view) (h : WrittenOut deflate disk path queue s s') :
    Holds deflate view path queue s' := by
  obtain ⟨bytes, s₁, s₂, himage, _, hwrite, hrename⟩ := h
  obtain ⟨_, modified, hpartial⟩ := (hdisk.write hwrite).2 rfl
  obtain ⟨hsource, hdest, _⟩ := hdisk.rename (partialPath_ne path) hpartial hrename
  exact ⟨hsource, bytes, modified, himage, hdest⟩

/-- An attempt changes nothing but the file beside the place of the archive, and this place only if
it succeeds. Folders may come to stand on the way there. -/
theorem Attempt.keeps (hdisk : disk.Shows view) {answer : Except FileError Unit}
    (h : Attempt deflate disk path queue s answer s') (hpartial : q ≠ partialPath path)
    (hdest : q = path → answer ≠ .ok ()) : (view.keeps q (q.Around path)).May s s' := by
  have hwritten {s s₁ s₂ : σ} {bytes : Bytes} {parent written : Except FileError Unit}
      (hparent : (disk.makeParent path).run.run s = (parent, s₁))
      (hwrite : (disk.write (partialPath path) bytes).run.run s₁ = (written, s₂)) :
      (view.keeps q (q.Around path)).May s s₂ :=
    (view.keeps _ _).trans (hdisk.makeParent_keeps id hparent)
      (.inl ((hdisk.write hwrite).1 q hpartial))
  cases h with
  | unbuilt => exact (view.keeps _ _).refl s
  | outside hparent => exact hdisk.makeParent_keeps id hparent
  | unwritten hparent hwrite => exact hwritten hparent hwrite
  | unmoved hparent hwrite hrename hremove =>
    obtain ⟨_, modified, hfile⟩ := (hdisk.write hwrite).2 rfl
    apply (view.keeps _ _).trans (hwritten hparent hwrite)
    have hrenamed := hdisk.rename (partialPath_ne path) hfile hrename
    exact .inl ((hdisk.remove hremove q hpartial).trans (congrFun hrenamed q))
  | moved himage hparent hwrite hrename =>
    obtain ⟨_, modified, hfile⟩ := (hdisk.write hwrite).2 rfl
    apply (view.keeps _ _).trans (hwritten hparent hwrite)
    obtain ⟨_, _, hothers⟩ := hdisk.rename (partialPath_ne path) hfile hrename
    exact .inl (hothers q hpartial fun hq => hdest hq rfl)

theorem finalize_run_ok (h : (store deflate disk path queue).run.run s = (.ok (), s')) :
    ((finalize deflate disk path).run.run queue).run s = ((.ok [], []), s') := by
  rw [finalize, run_get_bind, run_lift_bind _ h]
  rfl

theorem finalize_run_error {e : FileError}
    (h : (store deflate disk path queue).run.run s = (.error e, s')) :
    ((finalize deflate disk path).run.run queue).run s =
      ((.error (.finalize path.text e.message), queue), s') := by
  rw [finalize, run_get_bind, run_lift_bind _ h]
  rfl

/-- A run of `finalize` from a queue and a state, with the answer, the queue and the state it ends
with. -/
structure AllOrNothing (deflate : Bytes → Option Bytes) (disk : Disk (StateM σ)) (view : View σ)
    (path : Path) (queue : Queue) (s : σ) (answer : Except Failure (List FailedWrite))
    (left : Queue) (s' : σ) : Prop where
  ok_iff : (∃ failed, answer = .ok failed) ↔ WrittenOut deflate disk path queue s s'
  /-- Success stores the archive and empties the queue. -/
  all : ∀ failed, answer = .ok failed → failed = [] ∧ left = [] ∧ Holds deflate view path queue s'
  /-- A failure keeps what stands in the archive's place, whatever it is, and the queue. -/
  nothing : ∀ failure, answer = .error failure →
    (∃ text, failure = .finalize path.text text) ∧ left = queue ∧ view s' path = view s path
  /-- What succeeds later on, after a failure, stores the archive that failed before. -/
  again : ∀ failure, answer = .error failure → ∀ later failed left' later',
    ((finalize deflate disk path).run.run left).run later = ((.ok failed, left'), later') →
      Holds deflate view path queue later'
  /-- All other files stay. Only folders on the way to the archive are created. -/
  others : ∀ q, q ≠ path → q ≠ partialPath path →
    view s' q = view s q ∨ q.Around path ∧ view s q = none ∧ view s' q = some .folder

theorem finalize_ok_holds (hdisk : disk.Shows view) {failed : List FailedWrite}
    (h : ((finalize deflate disk path).run.run queue).run s = ((.ok failed, left), s')) :
    Holds deflate view path queue s' := by
  rcases hstore : (store deflate disk path queue).run.run s with ⟨e | _, s₁⟩
  · rw [finalize_run_error hstore] at h
    cases h
  · rw [finalize_run_ok hstore] at h
    cases h
    exact (store_ok_iff.1 hstore).holds hdisk

/-- Whatever fails, an archive is either stored as a whole, or what stands in its place stays there
and what is queued stays queued. -/
theorem finalize_all_or_nothing (deflate : Bytes → Option Bytes) (hdisk : disk.Shows view)
    (path : Path) (queue : Queue) (s : σ) :
    ∃ answer left s', ((finalize deflate disk path).run.run queue).run s = ((answer, left), s') ∧
      AllOrNothing deflate disk view path queue s answer left s' := by
  rcases hstore : (store deflate disk path queue).run.run s with ⟨e | _, s'⟩
  · refine ⟨_, _, _, finalize_run_error hstore, ?_, ?_, ?_, ?_, ?_⟩
    · refine ⟨fun ⟨_, hok⟩ => (nomatch hok), fun hwritten => ?_⟩
      rw [store_ok_iff.2 hwritten] at hstore
      cases hstore
    · rintro _ ⟨⟩
    · rintro _ ⟨⟩
      have hkeeps := (store_attempt hstore).keeps hdisk (partialPath_ne path).symm fun _ h => nomatch h
      exact ⟨⟨_, rfl⟩, rfl, View.eq_of_keeps hkeeps path.not_around_self⟩
    · intro _ _ later failed left' later' hlater
      exact finalize_ok_holds hdisk hlater
    · intro q _ hpartial
      exact (store_attempt hstore).keeps hdisk hpartial fun _ h => nomatch h
  · have hwritten := store_ok_iff.1 hstore
    refine ⟨_, _, _, finalize_run_ok hstore, ?_, ?_, ?_, ?_, ?_⟩
    · exact ⟨fun _ => hwritten, fun _ => ⟨[], rfl⟩⟩
    · rintro _ ⟨⟩
      exact ⟨rfl, rfl, hwritten.holds hdisk⟩
    · rintro _ ⟨⟩
    · rintro _ ⟨⟩
    · intro q hq hpartial
      exact (store_attempt hstore).keeps hdisk hpartial fun hpath => absurd hpath hq

def notes : Queue := [⟨"notes.txt", [104, 105], true, ⟨2024, 5, 17, 12, 30, 8⟩⟩]

/-- An archive is there, but the disk is full: writing it anew stops after two bytes. -/
def fullDisk : Scripted where
  stored p := if p = ⟨"depot.apworld"⟩ then some (.file [80, 75, 5, 6] ⟨7, 0⟩) else none
  clock := ⟨9, 0⟩
  script := [some ⟨.other "No space left on device (os error 28)", some (.file [80, 75] ⟨9, 0⟩)⟩]

theorem finalize_all_or_nothing_full :
    let deflate : Bytes → Option Bytes := fun data => some (Deflate.compress data)
    Scripted.disk.Shows Scripted.stored ∧
    ((store deflate Scripted.disk ⟨"depot.apworld"⟩ notes).run.run fullDisk).1 =
      .error (.other "No space left on device (os error 28)") ∧
    ∃ answer left s',
      ((finalize deflate Scripted.disk ⟨"depot.apworld"⟩).run.run notes).run fullDisk =
        ((answer, left), s') ∧
      AllOrNothing deflate Scripted.disk Scripted.stored ⟨"depot.apworld"⟩ notes fullDisk answer
        left s' := by
  intro deflate
  exact ⟨Scripted.disk_shows, by decide +kernel,
    finalize_all_or_nothing deflate Scripted.disk_shows ⟨"depot.apworld"⟩ notes fullDisk⟩

end Worldsmith.ArchiveSink
