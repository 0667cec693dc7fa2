import Worldsmith.Proofs.Files.Scripted
import Worldsmith.Proofs.Outcome
import Worldsmith.Proofs.Sink.Folder

namespace Worldsmith.FolderSink

variable {σ : Type} {disk : Disk (StateM σ)} {view : View σ} {sink : FolderSink} {queue : Queue}
  {outcomes : List (Except FileError Unit)} {dest source p : Path} {s s' : σ}

inductive Addition
  | text (path content : String)
  | file (path : String) (source : Path)
  deriving DecidableEq, Repr

namespace Addition

def path : Addition → String
  | text path _ => path
  | file path _ => path

def write (sink : FolderSink) : Addition → QueuedWrite
  | text path content => .text (sink.base.join path) content
  | file path source => .copy (sink.base.join path) source

/-- The place of the file is not outside of the folder, and what is to be copied is a file. -/
def Acceptable (stored : Path → Option Stored) (a : Addition) : Prop :=
  (Path.mk a.path).isInner ∧
    ∀ path source, a = file path source →
      ∃ content modified, stored source = some (.file content modified)

end Addition

def add (sink : FolderSink) (disk : Disk (StateM σ)) : Addition → Action (StateM σ) Unit
  | .text path content => sink.addText path content
  | .file path source => sink.addFile disk path source

def addAll (sink : FolderSink) (disk : Disk (StateM σ)) (additions : List Addition) :
    StateT Queue (StateM σ) (List (Except Failure Unit)) :=
  additions.mapM fun a => (sink.add disk a).run

def accepted (sink : FolderSink) (additions : List Addition) (answers : List (Except Failure Unit)) :
    Queue :=
  (additions.zip answers).filterMap fun
    | (a, .ok ()) => some (a.write sink)
    | (_, .error _) => none

theorem locate_ok {path : String} (h : (Path.mk path).isInner) :
    sink.locate path = .ok (sink.base.join path) :=
  if_pos h

theorem locate_error {path : String} (h : ¬ (Path.mk path).isInner) :
    sink.locate path = .error (.config (.outside path)) :=
  if_neg h

theorem add_acceptable (hdisk : disk.Shows view) {a : Addition} (h : a.Acceptable (view s))
    (queue : Queue) : ∃ s',
      ((sink.add disk a).run.run queue).run s = ((.ok (), queue ++ [a.write sink]), s') ∧
        view s' = view s := by
  cases a with
  | text path content => exact ⟨s, run_except_ok _ (locate_ok h.1), rfl⟩
  | file path source =>
    rcases hfile : (disk.isFile source).run s with ⟨isFile, s'⟩
    obtain ⟨hview, hiff⟩ := hdisk.isFile_iff hfile
    obtain rfl := hiff.2 (h.2 path source rfl)
    exact ⟨s', (run_except_ok _ (locate_ok h.1)).trans (run_lift_bind _ hfile), hview⟩

theorem add_rejected (hdisk : disk.Shows view) {a : Addition} (h : ¬ a.Acceptable (view s))
    (queue : Queue) : ∃ failure s',
      ((sink.add disk a).run.run queue).run s = ((.error failure, queue), s') ∧
        view s' = view s := by
  cases a with
  | text path content =>
    have hinner : ¬ (Path.mk path).isInner := fun hinner => h ⟨hinner, fun _ _ h => nomatch h⟩
    exact ⟨_, s, run_except_error _ (locate_error hinner), rfl⟩
  | file path source =>
    by_cases hinner : (Path.mk path).isInner
    · rcases hfile : (disk.isFile source).run s with ⟨isFile, s'⟩
      obtain ⟨hview, hiff⟩ := hdisk.isFile_iff hfile
      have hrun : ((sink.add disk (.file path source)).run.run queue).run s = _ :=
        (run_except_ok _ (locate_ok hinner)).trans (run_lift_bind _ hfile)
      cases isFile with
      | true => exact absurd ⟨hinner, by rintro _ _ ⟨⟩; exact hiff.1 rfl⟩ h
      | false => exact ⟨_, s', hrun, hview⟩
    · exact ⟨_, s, run_except_error _ (locate_error hinner), rfl⟩

theorem addAll_cons {a : Addition} {additions : List Addition} {answer : Except Failure Unit}
    {answers : List (Except Failure Unit)} {queue₁ queue' : Queue} {s₁ : σ}
    (ha : ((sink.add disk a).run.run queue).run s = ((answer, queue₁), s₁))
    (hothers : ((sink.addAll disk additions).run queue₁).run s₁ = ((answers, queue'), s')) :
    ((sink.addAll disk (a :: additions)).run queue).run s = ((answer :: answers, queue'), s') := by
  rw [addAll, List.mapM_cons, StateT.run_bind, StateT.run_bind, ha]
  change (fun r : (List (Except Failure Unit) × Queue) × σ => ((answer :: r.1.1, r.1.2), r.2))
    (((sink.addAll disk additions).run queue₁).run s₁) = _
  rw [hothers]

/-- Asking for files changes nothing on the disk, and the sink takes exactly those it may take. -/
theorem addAll_run (hdisk : disk.Shows view) (sink : FolderSink) (additions : List Addition)
    (queue : Queue) (s : σ) : ∃ answers s',
      ((sink.addAll disk additions).run queue).run s =
        ((answers, queue ++ sink.accepted additions answers), s') ∧
      view s' = view s ∧
      List.Forall₂ (fun a answer => answer = .ok () ↔ a.Acceptable (view s)) additions answers := by
  induction additions generalizing queue s with
  | nil =>
    refine ⟨[], s, ?_, rfl, .nil⟩
    rw [accepted, List.zip_nil_left, List.filterMap_nil, List.append_nil]
    rfl
  | cons a additions ih =>
    by_cases hacceptable : a.Acceptable (view s)
    · obtain ⟨s₁, ha, hview⟩ := add_acceptable hdisk hacceptable queue
      obtain ⟨answers, s', hothers, hview', hanswers⟩ := ih (queue ++ [a.write sink]) s₁
      refine ⟨.ok () :: answers, s', ?_, hview'.trans hview, .cons ?_ ?_⟩
      · rw [addAll_cons ha hothers, List.append_assoc]
        rfl
      · exact ⟨fun _ => hacceptable, fun _ => rfl⟩
      · rw [hview] at hanswers
        exact hanswers
    · obtain ⟨failure, s₁, ha, hview⟩ := add_rejected hdisk hacceptable queue
      obtain ⟨answers, s', hothers, hview', hanswers⟩ := ih queue s₁
      refine ⟨.error failure :: answers, s', addAll_cons ha hothers, hview'.trans hview, .cons ?_ ?_⟩
      · exact ⟨fun h => (nomatch h), fun h => absurd h hacceptable⟩
      · rw [hview] at hanswers
        exact hanswers

/-- What comes to stand where a file is copied to: a file that is newer than what stands there. -/
def refreshed : Option Stored → Option Stored → Option Stored
  | some (.file content modified), none => some (.file content modified)
  | some (.file content modified), some (.file old dated) =>
    if dated.notBefore modified then some (.file old dated) else some (.file content modified)
  | _, stored => stored

theorem refreshed_folder (found : Option Stored) : refreshed found (some .folder) = some .folder := by
  rcases found with _ | ⟨_ | _⟩ <;> rfl

theorem eq_none_of_refreshed {found stored : Option Stored} (h : refreshed found stored = none) :
    stored = none := by
  cases stored with
  | none => rfl
  | some stored =>
    rcases found with _ | ⟨_ | ⟨content, modified⟩⟩
    · cases h
    · cases h
    · cases stored <;> grind [refreshed]

theorem refreshed_current {found stored : Option Stored} {new old : FileInfo}
    (hsource : Stored.Told found (.ok new)) (hstored : Stored.Told stored (.ok old))
    (h : old.modified.notBefore new.modified) : refreshed found stored = stored := by
  cases hsource with
  | folder => rfl
  | file content modified =>
    cases hstored with
    | folder => rfl
    | file old dated => exact if_pos h

theorem refreshed_stale {stored : Option Stored} {content : Bytes} {modified : Timestamp}
    (hfolder : stored ≠ some .folder)
    (h : ∀ old dated, stored = some (.file old dated) → ¬ dated.notBefore modified) :
    refreshed (some (.file content modified)) stored = some (.file content modified) := by
  cases stored with
  | none => rfl
  | some stored =>
    cases stored with
    | folder => exact absurd rfl hfolder
    | file old dated => exact if_neg (h old dated rfl)

theorem perform_text (hdisk : disk.Shows view) {content : String}
    (h : (perform disk (.text dest content)).run.run s = (.ok (), s')) :
    ∃ modified, view s' dest = some (.file (Text.toBytes content) modified) := by
  obtain ⟨_, s₁, _, hwrite⟩ := exists_ok_of_run_bind h
  exact ((hdisk.write hwrite).2 rfl).2

theorem copy_ok (hdisk : disk.Shows view) (h : (disk.copy source dest).run.run s = (.ok (), s')) :
    ∃ content modified, view s source = some (.file content modified) ∧ view s dest ≠ some .folder ∧
      ∃ dated, view s' dest = some (.file content dated) := by
  obtain ⟨info, s₁, hinfo, h⟩ := exists_ok_of_run_bind h
  split at h
  · obtain ⟨content, s₂, hread, hwrite⟩ := exists_ok_of_run_bind h
    have hinfo := (hdisk.info hinfo).1
    obtain ⟨hview, hcontent⟩ := hdisk.read hread
    obtain ⟨modified, hsource⟩ := hcontent content rfl
    obtain ⟨hfolder, hdest⟩ := (hdisk.write hwrite).2 rfl
    rw [hinfo] at hsource hview
    rw [hview] at hfolder
    exact ⟨content, modified, hsource, hfolder, hdest⟩
  · cases h

theorem renew_ok (hdisk : disk.Shows view) {info : FileInfo}
    (hsource : Stored.Told (view s source) (.ok info))
    (hstale : ∀ old dated, view s dest = some (.file old dated) → ¬ dated.notBefore info.modified)
    (h : (do
      disk.makeParent dest
      disk.copy source dest
      disk.setModified dest info.modified : ExceptT FileError (StateM σ) Unit).run.run s =
        (.ok (), s')) : view s' dest = refreshed (view s source) (view s dest) := by
  obtain ⟨_, s₁, hparent, h⟩ := exists_ok_of_run_bind h
  obtain ⟨_, s₂, hcopy, hset⟩ := exists_ok_of_run_bind h
  obtain ⟨content, modified, hfile, hfolder, dated, hdest⟩ := copy_ok hdisk hcopy
  have hfile' : view s source = some (.file content modified) :=
    View.stood_of_keeps (hdisk.makeParent_keeps (fun _ => trivial) hparent) hfile (by simp)
  rw [hdisk.makeParent_self hparent] at hfolder
  rw [hfile'] at hsource ⊢
  cases hsource
  rw [refreshed_stale hfolder hstale]
  exact (hdisk.setModified hset).2 content dated rfl hdest

theorem perform_copy (hdisk : disk.Shows view)
    (h : (perform disk (.copy dest source)).run.run s = (.ok (), s')) :
    view s' dest = refreshed (view s source) (view s dest) := by
  obtain ⟨info, s₁, hinfo, h⟩ := exists_ok_of_run_bind h
  rcases hfound : (disk.info? dest).run s₁ with ⟨found, s₂⟩
  replace h := (run_bind_unfailing _ hfound).symm.trans h
  obtain ⟨hview, hsource⟩ := hdisk.info hinfo
  obtain ⟨hview', answer, hdest, rfl⟩ := hdisk.info?_told hfound
  rw [← hview, ← hview'] at hsource ⊢
  rw [← hview'] at hdest
  cases answer with
  | error e =>
    apply renew_ok hdisk hsource _ h
    intro old dated hstored
    rw [hstored] at hdest
    cases hdest
  | ok old =>
    change (ite (old.modified.notBefore info.modified) _ _ : ExceptT FileError (StateM σ) Unit).run.run
      s₂ = _ at h
    split at h
    · next hcurrent =>
      cases h
      exact (refreshed_current hsource hdest hcurrent).symm
    · next hstale =>
      apply renew_ok hdisk hsource _ h
      intro stored dated hstored
      rw [hstored] at hdest
      cases hdest
      exact hstale

theorem perform_keeps (hdisk : disk.Shows view) {w : QueuedWrite} (hw : p ≠ w.dest)
    {outcome : Except FileError Unit} (h : (perform disk w).run.run s = (outcome, s')) :
    (view.keeps p True).May s s' :=
  Effect.may_of_step (perform_step (hdisk.edits hw)) h

def attempts (disk : Disk (StateM σ)) (queue : Queue) : StateM σ (List (Except FileError Unit)) :=
  queue.mapM fun w => (perform disk w).run

def failures (queue : Queue) (outcomes : List (Except FileError Unit)) : List FailedWrite :=
  (queue.zip outcomes).filterMap fun
    | (_, .ok ()) => none
    | (w, .error e) => some ⟨w.dest.text, e.message⟩

theorem performAll_run (h : (attempts disk queue).run s = (outcomes, s')) :
    (performAll disk queue).run s = (failures queue outcomes, s') := by
  induction queue generalizing s outcomes with
  | nil =>
    cases h
    rfl
  | cons w queue ih =>
    obtain ⟨outcome, s₁, outcomes', hw, hqueue, rfl⟩ := exists_of_run_mapM_cons h
    rw [performAll, StateT.run_bind, hw]
    change StateT.run (performAll disk queue >>= _) s₁ = _
    rw [StateT.run_bind, ih hqueue]
    cases outcome <;> rfl

theorem attempts_keeps (hdisk : disk.Shows view) (hqueue : ∀ w ∈ queue, w.dest ≠ p)
    (h : (attempts disk queue).run s = (outcomes, s')) : (view.keeps p True).May s s' := by
  induction queue generalizing s outcomes with
  | nil =>
    cases h
    exact (view.keeps p True).refl _
  | cons w queue ih =>
    obtain ⟨hw, hqueue⟩ := List.forall_mem_cons.1 hqueue
    obtain ⟨outcome, s₁, outcomes', hperform, hothers, rfl⟩ := exists_of_run_mapM_cons h
    exact (view.keeps p True).trans (perform_keeps hdisk hw.symm hperform) (ih hqueue hothers)

/-- One of the writes, with those before and those after it. -/
theorem attempts_split {before after : Queue} {w : QueuedWrite}
    (h : (attempts disk (before ++ w :: after)).run s = (outcomes, s')) :
    ∃ s₁ outcome s₂ earlier later, (attempts disk before).run s = (earlier, s₁) ∧
      (perform disk w).run.run s₁ = (outcome, s₂) ∧ (attempts disk after).run s₂ = (later, s') ∧
      outcomes[before.length]? = some outcome := by
  obtain ⟨earlier, s₁, rest, hbefore, hlength, hrest, rfl⟩ := exists_of_run_mapM_append h
  obtain ⟨outcome, s₂, later, hw, hafter, rfl⟩ := exists_of_run_mapM_cons hrest
  refine ⟨s₁, outcome, s₂, earlier, later, hbefore, hw, hafter, ?_⟩
  rw [← hlength, List.getElem?_append_right (Nat.le_refl _), Nat.sub_self]
  rfl

/-- A text stands in the end where the last write that is queued for a path is a text, if that write
succeeded. -/
def TextsStand (view : View σ) (queue : Queue) (outcomes : List (Except FileError Unit)) (s' : σ) :
    Prop :=
  ∀ before dest content after, queue = before ++ .text dest content :: after →
    (∀ w ∈ after, w.dest ≠ dest) → outcomes[before.length]? = some (.ok ()) →
    ∃ modified, view s' dest = some (.file (Text.toBytes content) modified)

/-- A copy that succeeded leaves the newer of the two files, if no other write is about them. Its
destination names a file: it is no folder that had to be created on the way to another one. -/
def CopiesStand (view : View σ) (queue : Queue) (outcomes : List (Except FileError Unit)) (s s' : σ) :
    Prop :=
  ∀ before dest source after, queue = before ++ .copy dest source :: after →
    (∀ w ∈ before ++ after, w.dest ≠ dest ∧ w.dest ≠ source) →
    outcomes[before.length]? = some (.ok ()) →
    (view s dest = none → view s' dest ≠ some .folder) →
    view s' dest = refreshed (view s source) (view s dest)

theorem attempts_texts (hdisk : disk.Shows view) (h : (attempts disk queue).run s = (outcomes, s')) :
    TextsStand view queue outcomes s' := by
  rintro before dest content after rfl hafter houtcome
  obtain ⟨s₁, outcome, s₂, earlier, later, _, hw, hlater, hget⟩ := attempts_split h
  rw [houtcome] at hget
  cases hget
  obtain ⟨modified, hfile⟩ := perform_text hdisk hw
  exact ⟨modified, View.stays_of_keeps (attempts_keeps hdisk hafter hlater) hfile⟩

theorem attempts_copies (hdisk : disk.Shows view) {s₀ : σ}
    (hworld : ∀ p, (view.keeps p True).May s₀ s)
    (h : (attempts disk queue).run s = (outcomes, s')) : CopiesStand view queue outcomes s₀ s' := by
  rintro before dest source after rfl hothers houtcome hplace
  obtain ⟨s₁, outcome, s₂, earlier, later, hbefore, hw, hlater, hget⟩ := attempts_split h
  rw [houtcome] at hget
  cases hget
  obtain ⟨hothers, hothers'⟩ := List.forall_mem_append.1 hothers
  have hcopy := perform_copy hdisk hw
  have hlast := attempts_keeps hdisk (fun w hw => (hothers' w hw).1) hlater
  -- Until the copy, and after it, no more than a new folder can come to stand at either path.
  have hdest : view s₁ dest = view s₀ dest := by
    have hkeeps := (view.keeps dest True).trans (hworld dest)
      (attempts_keeps hdisk (fun w hw => (hothers w hw).1) hbefore)
    rcases hkeeps with hsame | ⟨_, hnone, hfolder⟩
    · exact hsame
    · rw [hfolder, refreshed_folder] at hcopy
      exact absurd (View.stays_of_keeps hlast hcopy) (hplace hnone)
  have hsource : refreshed (view s₁ source) (view s₀ dest) =
      refreshed (view s₀ source) (view s₀ dest) := by
    have hkeeps := (view.keeps source True).trans (hworld source)
      (attempts_keeps hdisk (fun w hw => (hothers w hw).2) hbefore)
    rcases hkeeps with hsame | ⟨_, hnone, hfolder⟩
    · rw [hsame]
    · rw [hnone, hfolder]
      rfl
  rw [hdest, hsource] at hcopy
  rcases hlast with hsame | ⟨_, hnone, hfolder⟩
  · exact hsame.trans hcopy
  · exact absurd hfolder (hplace (eq_none_of_refreshed (hcopy.symm.trans hnone)))

theorem finalize_run_error {e : FileError}
    (h : (disk.makeFolders sink.worldPath).run.run s = (.error e, s')) :
    ((sink.finalize disk).run.run queue).run s =
      ((.error (.finalize sink.worldPath.text e.message), queue), s') := by
  rw [finalize, run_lift_bind _ h]
  rfl

theorem finalize_run_ok {s₁ : σ} (hworld : (disk.makeFolders sink.worldPath).run.run s = (.ok (), s₁))
    (h : (attempts disk queue).run s₁ = (outcomes, s')) :
    ((sink.finalize disk).run.run queue).run s = ((.ok (failures queue outcomes), []), s') := by
  rw [finalize, run_lift_bind _ hworld]
  exact run_lift (performAll_run h)

/-- A run of `finalize` from a queue and a state, with the answer, the queue and the state it ends
with. -/
structure EachTried (disk : Disk (StateM σ)) (view : View σ) (sink : FolderSink) (queue : Queue)
    (s : σ) (answer : Except Failure (List FailedWrite)) (left : Queue) (s' : σ) : Prop where
  /-- What makes the run as a whole fail is that the folder of the package cannot be created. -/
  error_iff : (∃ failure, answer = .error failure) ↔
    ∃ e s₁, (disk.makeFolders sink.worldPath).run.run s = (.error e, s₁)
  /-- Then nothing else was done, and all stays queued. Every file is as before. -/
  refused : ∀ failure, answer = .error failure →
    (∃ e, (disk.makeFolders sink.worldPath).run.run s = (.error e, s') ∧
      failure = .finalize sink.worldPath.text e.message) ∧
    left = queue ∧
    ∀ p, view s' p = view s p ∨
      p.components <+: sink.worldPath.components ∧ view s p = none ∧ view s' p = some .folder
  /-- Else all that was queued is tried once and in order, and what failed is returned. -/
  tried : ∀ failed, answer = .ok failed → left = [] ∧ ∃ outcomes s₁,
    (disk.makeFolders sink.worldPath).run.run s = (.ok (), s₁) ∧
    (queue.mapM fun w => (perform disk w).run).run s₁ = (outcomes, s') ∧
    failed = failures queue outcomes ∧
    TextsStand view queue outcomes s' ∧ CopiesStand view queue outcomes s s'

theorem finalize_eachTried (hdisk : disk.Shows view) (sink : FolderSink) (queue : Queue) (s : σ) :
    ∃ answer left s', ((sink.finalize disk).run.run queue).run s = ((answer, left), s') ∧
      EachTried disk view sink queue s answer left s' := by
  rcases hworld : (disk.makeFolders sink.worldPath).run.run s with ⟨e | _, s₁⟩
  · refine ⟨_, _, _, finalize_run_error hworld, ?_, ?_, ?_⟩
    · exact ⟨fun _ => ⟨e, s₁, hworld⟩, fun _ => ⟨_, rfl⟩⟩
    · rintro _ ⟨⟩
      exact ⟨⟨e, hworld, rfl⟩, rfl, fun p => hdisk.makeFolders_keeps id hworld⟩
    · rintro _ ⟨⟩
  · rcases hattempts : (attempts disk queue).run s₁ with ⟨outcomes, s'⟩
    refine ⟨_, _, _, finalize_run_ok hworld hattempts, ?_, ?_, ?_⟩
    · refine ⟨fun ⟨_, h⟩ => (nomatch h), fun ⟨e, s₂, h⟩ => ?_⟩
      rw [hworld] at h
      cases h
    · rintro _ ⟨⟩
    · rintro _ ⟨⟩
      have hkeeps : ∀ p, (view.keeps p True).May s s₁ :=
        fun p => hdisk.makeFolders_keeps (fun _ => trivial) hworld
      exact ⟨rfl, outcomes, s₁, hworld, hattempts, rfl, attempts_texts hdisk hattempts,
        attempts_copies hdisk hkeeps hattempts⟩

/-- Whatever the sink was asked to take and whatever fails, it writes what it took: all of it is
tried, or none of it if the folder of the package cannot be created. The disk may change between
asking and finalizing. -/
theorem finalize_tries_accepted (hdisk : disk.Shows view) (sink : FolderSink)
    (additions : List Addition) (queue₀ : Queue) (s₀ : σ) :
    ∃ answers queue s₁, ((sink.addAll disk additions).run queue₀).run s₀ = ((answers, queue), s₁) ∧
      view s₁ = view s₀ ∧
      List.Forall₂ (fun a answer => answer = .ok () ↔ a.Acceptable (view s₀)) additions answers ∧
      queue = queue₀ ++ sink.accepted additions answers ∧
      ∀ s, ∃ answer left s', ((sink.finalize disk).run.run queue).run s = ((answer, left), s') ∧
        EachTried disk view sink queue s answer left s' := by
  obtain ⟨answers, s₁, hrun, hview, hanswers⟩ := addAll_run hdisk sink additions queue₀ s₀
  refine ⟨answers, _, s₁, hrun, hview, hanswers, rfl, fun s => ?_⟩
  exact finalize_eachTried hdisk sink _ s

/-- A folder of worlds with a package that is written anew. The second file finds the disk full. -/
def crowdedDisk : Scripted where
  stored p :=
    if p = ⟨"worlds"⟩ ∨ p = ⟨"worlds/doom"⟩ then some .folder
    else if p = ⟨"depot.wad"⟩ then some (.file [80, 87] ⟨5, 0⟩)
    else if p = ⟨"worlds/doom/depot.wad"⟩ then some (.file [73, 87] ⟨4, 0⟩)
    else none
  clock := ⟨9, 0⟩
  script := [none, none, none, none, some ⟨.other "No space left on device (os error 28)", none⟩]

/-- The files of a package, with one that is outside of it. -/
def depotFiles : List Addition :=
  [.text "doom/a.py" "a = 1\n", .text "../b.py" "b = 0\n", .text "doom/b.py" "b = 1\n",
    .file "doom/depot.wad" ⟨"depot.wad"⟩]

def depotSink : FolderSink := ⟨⟨"worlds"⟩, "doom"⟩

theorem finalize_tries_accepted_depot : Scripted.disk.Shows Scripted.stored ∧
    (let added := ((depotSink.addAll Scripted.disk depotFiles).run []).run crowdedDisk
      let final := ((depotSink.finalize Scripted.disk).run.run added.1.2).run added.2
      final.1.1 = .ok [⟨"worlds/doom/b.py", "No space left on device (os error 28)"⟩] ∧
        final.2.stored ⟨"worlds/doom/a.py"⟩ = some (.file (Text.toBytes "a = 1\n") ⟨9, 0⟩) ∧
        final.2.stored ⟨"worlds/doom/depot.wad"⟩ = some (.file [80, 87] ⟨5, 0⟩)) ∧
    ∃ answers queue s₁, ((depotSink.addAll Scripted.disk depotFiles).run []).run crowdedDisk =
        ((answers, queue), s₁) ∧
      s₁.stored = crowdedDisk.stored ∧
      List.Forall₂ (fun a answer => answer = .ok () ↔ a.Acceptable crowdedDisk.stored) depotFiles
        answers ∧
      queue = [] ++ depotSink.accepted depotFiles answers ∧
      ∀ s, ∃ answer left s', ((depotSink.finalize Scripted.disk).run.run queue).run s =
          ((answer, left), s') ∧
        EachTried Scripted.disk Scripted.stored depotSink queue s answer left s' :=
  ⟨Scripted.disk_shows, by decide +kernel,
    finalize_tries_accepted Scripted.disk_shows depotSink depotFiles [] crowdedDisk⟩

end Worldsmith.FolderSink
