import Worldsmith.Proofs.Files.Faults

namespace Worldsmith

structure Fault where
  error : FileError
  left : Option Stored
  deriving DecidableEq, Repr

structure Scripted where
  stored : Path → Option Stored
  /-- What all that is written is dated with. -/
  clock : Timestamp
  /-- How the changes to come fail, if they do. After the end of the script, none is made to. -/
  script : List (Option Fault)

namespace Scripted

def put (s : Scripted) (p : Path) (new : Option Stored) : Scripted :=
  { s with stored := fun q => if q = p then new else s.stored q }

@[simp]
theorem put_self (s : Scripted) (p : Path) (new : Option Stored) : (s.put p new).stored p = new :=
  if_pos rfl

@[simp]
theorem put_of_ne (s : Scripted) {p q : Path} (h : q ≠ p) (new : Option Stored) :
    (s.put p new).stored q = s.stored q :=
  if_neg h

abbrev Action := ExceptT FileError (StateM Scripted)

def query {α : Type} (f : Scripted → Except FileError α) : Action α := fun s => (f s, s)

def change (f : Scripted → Except FileError Scripted) (torn : Option Stored → Scripted → Scripted) :
    Action Unit := fun s =>
  let next := { s with script := s.script.tail }
  match s.script.head? with
  | some (some fault) => (.error fault.error, torn fault.left next)
  | _ =>
    match f next with
    | .ok s' => (.ok (), s')
    | .error e => (.error e, next)

def hasRoom (s : Scripted) (p : Path) : Bool :=
  match p.parent? with
  | some parent => parent.isEmpty || s.stored parent = some .folder
  | none => true

def info (s : Scripted) (p : Path) : Except FileError FileInfo :=
  match s.stored p with
  | some (.file _ modified) => .ok ⟨.file, modified⟩
  | some .folder => .ok ⟨.folder, s.clock⟩
  | none => .error .notFound

def file (s : Scripted) (p : Path) : Except FileError (Bytes × Timestamp) :=
  match s.stored p with
  | some (.file content modified) => .ok (content, modified)
  | some .folder => .error .isDirectory
  | none => .error .notFound

def write (s : Scripted) (p : Path) (content : Bytes) : Except FileError Scripted :=
  if s.stored p = some .folder then .error .isDirectory
  else if s.hasRoom p then .ok (s.put p (some (.file content s.clock)))
  else .error .notFound

/-- What a failed write leaves. A folder is not replaced. -/
def tear (s : Scripted) (p : Path) (left : Option Stored) : Scripted :=
  if s.stored p = some .folder then s else s.put p left

def makeFolder (s : Scripted) (p : Path) : Except FileError Scripted :=
  if s.stored p ≠ none then .error .alreadyExists
  else if s.hasRoom p then .ok (s.put p (some .folder))
  else .error .notFound

def rename (s : Scripted) (source dest : Path) : Except FileError Scripted := do
  let (content, modified) ← s.file source
  if s.stored dest = some .folder then throw .isDirectory
  else if s.hasRoom dest then return (s.put source none).put dest (some (.file content modified))
  else throw .notFound

def remove (s : Scripted) (p : Path) : Except FileError Scripted := do
  let _ ← s.file p
  return s.put p none

def setModified (s : Scripted) (p : Path) (modified : Timestamp) : Except FileError Scripted := do
  let (content, _) ← s.file p
  return s.put p (some (.file content modified))

def disk : Disk (StateM Scripted) where
  info p := query (·.info p)
  read p := query fun s => (s.file p).map (·.1)
  write p content := change (·.write p content) fun left s => s.tear p left
  makeFolder p := change (·.makeFolder p) fun _ s => s
  rename source dest := change (·.rename source dest) fun _ s => s
  remove p := change (·.remove p) fun _ s => s
  setModified p modified := change (·.setModified p modified) fun _ s => s
  entries _ := query fun _ => .error .notFound
  now := fun s => (s.clock, s)

section Laws
variable {s s' : Scripted} {p q : Path} {content : Bytes} {modified : Timestamp}

theorem told_info (s : Scripted) (p : Path) : Stored.Told (s.stored p) (s.info p) := by
  rw [info]
  cases s.stored p with
  | none => exact .missing _
  | some stored =>
    cases stored with
    | folder => exact .folder _
    | file content modified => exact .file _ _

theorem file_eq_ok_iff : s.file p = .ok (content, modified) ↔
    s.stored p = some (.file content modified) := by
  rw [file]
  cases s.stored p with
  | none => simp
  | some stored => cases stored <;> simp

theorem change_cases (f : Scripted → Except FileError Scripted)
    (torn : Option Stored → Scripted → Scripted) {answer : Except FileError Unit}
    (h : (change f torn).run.run s = (answer, s')) : ∃ next, next.stored = s.stored ∧
      (f next = .ok s' ∧ answer = .ok () ∨
        (∃ e, answer = .error e) ∧ (s' = next ∨ ∃ left, s' = torn left next)) := by
  refine ⟨{ s with script := s.script.tail }, rfl, ?_⟩
  change change f torn s = _ at h
  rw [change] at h
  split at h
  · next fault _ =>
    cases h
    exact .inr ⟨⟨_, rfl⟩, .inr ⟨_, rfl⟩⟩
  · split at h
    · next hf =>
      cases h
      exact .inl ⟨hf, rfl⟩
    · cases h
      exact .inr ⟨⟨_, rfl⟩, .inl rfl⟩

/-- Where a change leaves all that it does not make, a failure leaves everything. -/
theorem change_whole (f : Scripted → Except FileError Scripted) {answer : Except FileError Unit}
    (h : (change f fun _ s => s).run.run s = (answer, s')) : ∃ next, next.stored = s.stored ∧
      (f next = .ok s' ∧ answer = .ok () ∨ (∃ e, answer = .error e) ∧ s'.stored = s.stored) := by
  obtain ⟨next, hnext, hmade | ⟨hfailed, hleft⟩⟩ := change_cases f _ h
  · exact ⟨next, hnext, .inl hmade⟩
  · refine ⟨next, hnext, .inr ⟨hfailed, ?_⟩⟩
    obtain rfl | ⟨_, rfl⟩ := hleft <;> exact hnext

theorem write_ok (h : s.write p content = .ok s') : s.stored p ≠ some .folder ∧
    s' = s.put p (some (.file content s.clock)) := by
  rw [write] at h
  split at h
  · cases h
  · next hfolder =>
    split at h
    · cases h
      exact ⟨hfolder, rfl⟩
    · cases h

theorem makeFolder_ok (h : s.makeFolder p = .ok s') : s.stored p = none ∧
    s' = s.put p (some .folder) := by
  rw [makeFolder] at h
  split at h
  · cases h
  · next hnone =>
    split at h
    · cases h
      exact ⟨not_not.1 hnone, rfl⟩
    · cases h

theorem rename_ok (hp : s.stored p = some (.file content modified)) (h : s.rename p q = .ok s') :
    s' = (s.put p none).put q (some (.file content modified)) := by
  rw [rename, file_eq_ok_iff.2 hp] at h
  simp only [bind, Except.bind] at h
  split at h
  · cases h
  · split at h
    · cases h
      rfl
    · cases h

theorem remove_ok (h : s.remove p = .ok s') : s' = s.put p none := by
  rw [remove] at h
  cases hfile : s.file p with
  | error e =>
    rw [hfile] at h
    cases h
  | ok found =>
    rw [hfile] at h
    cases h
    rfl

theorem setModified_ok (h : s.setModified p modified = .ok s') : ∃ content old,
    s.stored p = some (.file content old) ∧ s' = s.put p (some (.file content modified)) := by
  rw [setModified] at h
  cases hfile : s.file p with
  | error e =>
    rw [hfile] at h
    cases h
  | ok found =>
    rw [hfile] at h
    cases h
    exact ⟨found.1, found.2, file_eq_ok_iff.1 hfile, rfl⟩

end Laws

/-- Whatever the script has fail, the file system is what it holds at each path. -/
theorem disk_shows : disk.Shows Scripted.stored where
  info := by
    rintro p s _ _ ⟨⟩
    exact ⟨rfl, told_info s p⟩
  read := by
    rintro p s _ _ ⟨⟩
    refine ⟨rfl, fun content h => ?_⟩
    change (s.file p).map (·.1) = .ok content at h
    cases hfile : s.file p with
    | error e =>
      rw [hfile] at h
      cases h
    | ok found =>
      rw [hfile] at h
      cases h
      exact ⟨found.2, file_eq_ok_iff.1 hfile⟩
  entries := by
    rintro p s _ _ ⟨⟩
    rfl
  now := by
    rintro s _ _ ⟨⟩
    rfl
  write := by
    intro p content s answer s' h
    obtain ⟨next, hnext, ⟨hmade, rfl⟩ | ⟨⟨e, rfl⟩, hleft⟩⟩ :=
      change_cases (·.write p content) (fun left s => s.tear p left) h
    · obtain ⟨hfolder, rfl⟩ := write_ok hmade
      rw [← hnext]
      exact ⟨fun q hq => put_of_ne _ hq _, fun _ => ⟨hfolder, _, put_self _ _ _⟩⟩
    · refine ⟨fun q hq => ?_, fun hok => nomatch hok⟩
      rw [← hnext]
      -- A failed write may have left a part of the content, but nowhere else.
      obtain rfl | ⟨left, rfl⟩ := hleft
      · rfl
      · rw [tear]
        split
        · rfl
        · exact put_of_ne _ hq _
  makeFolder := by
    intro p s answer s' h
    obtain ⟨next, hnext, ⟨hmade, rfl⟩ | ⟨_, hleft⟩⟩ := change_whole (·.makeFolder p) h
    · obtain ⟨hnone, rfl⟩ := makeFolder_ok hmade
      rw [← hnext]
      exact ⟨fun q hq => put_of_ne _ hq _, .inr ⟨hnone, put_self _ _ _⟩⟩
    · exact ⟨fun q _ => congrFun hleft q, .inl (congrFun hleft p)⟩
  rename := by
    intro source dest s answer s' content modified hne hsource h
    obtain ⟨next, hnext, ⟨hmade, rfl⟩ | ⟨⟨e, rfl⟩, hleft⟩⟩ :=
      change_whole (·.rename source dest) h
    · rw [← hnext] at hsource ⊢
      obtain rfl := rename_ok hsource hmade
      refine ⟨?_, put_self _ _ _, fun q hq hq' => ?_⟩
      · rw [put_of_ne _ hne, put_self]
      · rw [put_of_ne _ hq', put_of_ne _ hq]
    · exact hleft
  remove := by
    intro p s answer s' h q hq
    obtain ⟨next, hnext, ⟨hmade, -⟩ | ⟨-, hleft⟩⟩ := change_whole (·.remove p) h
    · rw [← hnext, remove_ok hmade, put_of_ne _ hq]
    · exact congrFun hleft q
  setModified := by
    intro p modified s answer s' h
    obtain ⟨next, hnext, ⟨hmade, rfl⟩ | ⟨⟨e, rfl⟩, hleft⟩⟩ :=
      change_whole (·.setModified p modified) h
    · obtain ⟨content, old, hfile, rfl⟩ := setModified_ok hmade
      rw [← hnext]
      refine ⟨fun q hq => put_of_ne _ hq _, fun content' old' _ hstored => ?_⟩
      rw [hfile] at hstored
      cases hstored
      exact put_self _ _ _
    · exact ⟨fun q _ => congrFun hleft q, fun _ _ hok => nomatch hok⟩

end Scripted

end Worldsmith
