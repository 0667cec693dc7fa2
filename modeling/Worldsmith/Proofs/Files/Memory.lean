import Mathlib.Data.List.Forall2
import Worldsmith.Files.Memory
import Worldsmith.Proofs.Files.Recorded
import Worldsmith.Proofs.Outcome

namespace Worldsmith

variable {names : List String} {name : String}

namespace Node

variable {node new : Node}

def FolderAt : List String → Node → Prop
  | [], node => node.kind = .folder
  | name :: rest, node => ∃ inner, node.entries.lookup name = some inner ∧ FolderAt rest inner

def FoldersKept (old new : Node) : Prop := ∀ names, FolderAt names old → FolderAt names new

theorem FolderAt.kind (h : FolderAt names node) : node.kind = .folder := by
  cases names with
  | nil => exact h
  | cons name rest =>
    obtain ⟨inner, hinner, -⟩ := h
    cases node with
    | folder entries => rfl
    | file content modified => cases hinner

theorem exists_entries (h : node.kind = .folder) : ∃ entries, node = folder entries := by
  cases node with
  | folder entries => exact ⟨entries, rfl⟩
  | file content modified => cases h

theorem lookup_set_self (entries : Entries) (name : String) (new : Node) :
    (Entries.set entries name (some new)).lookup name = some new := by
  rw [Entries.set, List.lookup_cons, beq_self_eq_true]

theorem lookup_filter_ne {other : String} (h : other ≠ name) (entries : Entries) :
    (entries.filter (·.1 != name)).lookup other = entries.lookup other := by
  induction entries with
  | nil => rfl
  | cons entry entries ih =>
    obtain ⟨key, node⟩ := entry
    by_cases hkey : key = name
    · subst hkey
      rw [List.filter_cons_of_neg (by simp), List.lookup_cons, beq_false_of_ne h]
      exact ih
    · rw [List.filter_cons_of_pos (by simpa using hkey), List.lookup_cons, List.lookup_cons, ih]

theorem lookup_set_of_ne {other : String} (h : other ≠ name) (entries : Entries) :
    (Entries.set entries name (some new)).lookup other = entries.lookup other := by
  rw [Entries.set, List.lookup_cons, beq_false_of_ne h]
  exact lookup_filter_ne h entries

theorem foldersKept_set (h : ∀ old, node.entries.lookup name = some old → FoldersKept old new) :
    FoldersKept node (folder (Entries.set node.entries name (some new))) := by
  intro names hnames
  cases names with
  | nil => rfl
  | cons first rest =>
    obtain ⟨inner, hinner, hrest⟩ := hnames
    by_cases hname : first = name
    · subst hname
      exact ⟨new, lookup_set_self _ _ _, h inner hinner rest hrest⟩
    · exact ⟨inner, (lookup_set_of_ne hname _).trans hinner, hrest⟩

theorem foldersKept_of_set (h : ¬ FolderAt names node) :
    FoldersKept node (node.set (some new) names) := by
  induction names generalizing node with
  | nil => exact fun _ hnames => hnames
  | cons name rest ih =>
    cases rest with
    | nil =>
      apply foldersKept_set
      intro old hold names hnames
      exact absurd ⟨old, hold, hnames.kind⟩ h
    | cons second rest =>
      rw [Node.set]
      · split
        · next inner hinner =>
          apply foldersKept_set
          intro old hold
          obtain rfl := Option.some.inj (hold.symm.trans hinner)
          apply ih
          exact fun hfolder => h ⟨old, hold, hfolder⟩
        · exact fun _ hnames => hnames
      · exact fun hnil => nomatch hnil

end Node

namespace Memory

open Node (FolderAt FoldersKept)

namespace Trail

variable {root : Node} {trail trail' : Trail}

/-- A trail that leads from a root by folders that are in it, or would be. -/
inductive From (root : Node) : Trail → Prop
  | root : From root [("", root.entries)]
  | step {trail : Trail} {name : String} {entries : Entries} (h : From root trail)
    (hentries : ∀ names, FolderAt (name :: names) (.folder trail.entries) →
      FolderAt names (.folder entries)) : From root ((name, entries) :: trail)

theorem folderAt_entries {node : Node} (h : FolderAt names node) :
    FolderAt names (.folder node.entries) := by
  cases names with
  | nil => rfl
  | cons name rest => exact h

theorem From.names_cons {entries : Entries} (h : From root trail) :
    Trail.names ((name, entries) :: trail) = trail.names ++ [name] := by
  cases h <;> simp [Trail.names]

theorem From.folderAt (h : From root trail) (hfolder : FolderAt (trail.names ++ names) root) :
    FolderAt names (.folder trail.entries) := by
  induction h generalizing names with
  | root => exact folderAt_entries hfolder
  | step h hentries ih =>
    rw [h.names_cons, List.append_assoc] at hfolder
    exact hentries names (ih hfolder)

theorem From.outward (h : From root trail) : From root trail.outward := by
  cases h with
  | root => exact .root
  | step h _ =>
    cases h with
    | root => exact .root
    | step h hentries => exact .step h hentries

theorem From.extend (h : From root trail) (names : List String) :
    From root (trail.extend names) := by
  induction names generalizing trail with
  | nil => exact h
  | cons name names ih =>
    apply ih
    apply From.step h
    rintro rest ⟨inner, hinner, hrest⟩
    change trail.entries.lookup name = some inner at hinner
    rw [hinner]
    exact folderAt_entries hrest

/-- Two trails by the same names, the folders of the first of which are in the second. -/
def Kept (trail trail' : Trail) : Prop :=
  List.Forall₂ (fun a b => a.1 = b.1 ∧ FoldersKept (.folder a.2) (.folder b.2)) trail trail'

theorem Kept.entries (h : Kept trail trail') :
    FoldersKept (.folder trail.entries) (.folder trail'.entries) := by
  cases h with
  | nil => exact fun _ hnames => hnames
  | cons h _ => exact h.2

theorem Kept.outward (h : Kept trail trail') : Kept trail.outward trail'.outward := by
  cases h with
  | nil => exact .nil
  | cons h hrest =>
    cases hrest with
    | nil => exact .cons h .nil
    | cons h' hrest => exact .cons h' hrest

theorem foldersKept_inner {old new : Node} (h : FoldersKept old new) {inner : Node}
    (hinner : old.entries.lookup name = some inner) (hfolder : inner.kind = .folder) :
    ∃ inner', new.entries.lookup name = some inner' ∧ FoldersKept inner inner' := by
  obtain ⟨inner', hinner', -⟩ := h [name] ⟨inner, hinner, hfolder⟩
  refine ⟨inner', hinner', ?_⟩
  intro names hnames
  obtain ⟨same, hsame, hrest⟩ := h (name :: names) ⟨inner, hinner, hnames⟩
  obtain rfl := Option.some.inj (hsame.symm.trans hinner')
  exact hrest

theorem Kept.extend (h : Kept trail trail') (names : List String) :
    Kept (trail.extend names) (trail'.extend names) := by
  induction names generalizing trail trail' with
  | nil => exact h
  | cons name names ih =>
    apply ih
    refine .cons ⟨rfl, ?_⟩ h
    intro rest hrest
    cases rest with
    | nil => rfl
    | cons first rest =>
      cases hinner : trail.entries.lookup name with
      | none =>
        rw [hinner] at hrest
        obtain ⟨_, hnone, -⟩ := hrest
        cases hnone
      | some inner =>
        rw [hinner] at hrest
        change FolderAt (first :: rest) inner at hrest
        obtain ⟨inner', hinner', hkept⟩ := foldersKept_inner h.entries hinner hrest.kind
        change trail'.entries.lookup name = some inner' at hinner'
        rw [hinner']
        exact hkept _ hrest

def enter? (trail : Trail) : List Path.Component → Option Trail
  | [] => some trail
  | .root :: rest => enter? trail rest
  | .current :: rest => enter? trail rest
  | .parent :: rest => enter? trail.outward rest
  | .name s :: rest =>
    match entry? trail s with
    | .ok (some (.folder entries)) => enter? ((s, entries) :: trail) rest
    | _ => none

theorem entry_eq_ok_iff {s : String} {node : Option Node} : entry? trail s = .ok node ↔
    ¬ longestName < s.utf8ByteSize ∧ trail.entries.lookup s = node := by
  unfold entry?
  split
  · next hlong => exact iff_of_false (fun h => nomatch h) fun h => h.1 hlong
  · next hshort => exact ⟨fun h => ⟨hshort, Except.ok.inj h⟩, fun h => congrArg Except.ok h.2⟩

theorem isSome_enter?_name {s : String} {rest : List Path.Component} :
    (trail.enter? (.name s :: rest)).isSome ↔
      ∃ entries, entry? trail s = .ok (some (.folder entries)) ∧
        (enter? ((s, entries) :: trail) rest).isSome := by
  rw [enter?]
  split
  · next entries hentry =>
    constructor
    · exact fun h => ⟨entries, hentry, h⟩
    · rintro ⟨_, hentry', h⟩
      cases hentry.symm.trans hentry'
      exact h
  · next hother =>
    constructor
    · exact fun h => nomatch h
    · rintro ⟨entries, hentry, -⟩
      exact absurd hentry (hother entries)

theorem Kept.inward {s : String} {entries : Entries} (h : Kept trail trail')
    (hentry : entry? trail s = .ok (some (.folder entries))) :
    ∃ entries', entry? trail' s = .ok (some (.folder entries')) ∧
      Kept ((s, entries) :: trail) ((s, entries') :: trail') := by
  obtain ⟨hshort, hlookup⟩ := entry_eq_ok_iff.1 hentry
  obtain ⟨inner, hinner, hkept⟩ := foldersKept_inner h.entries hlookup rfl
  obtain ⟨entries', rfl⟩ := Node.exists_entries (hkept [] rfl)
  exact ⟨entries', entry_eq_ok_iff.2 ⟨hshort, hinner⟩, .cons ⟨rfl, hkept⟩ h⟩

theorem Kept.enter? (h : Kept trail trail') (components : List Path.Component)
    (hold : (trail.enter? components).isSome) : (trail'.enter? components).isSome := by
  induction components generalizing trail trail' with
  | nil => rfl
  | cons c rest ih =>
    cases c with
    | root => exact ih h hold
    | current => exact ih h hold
    | parent => exact ih h.outward hold
    | name s =>
      obtain ⟨entries, hentry, hrest⟩ := isSome_enter?_name.1 hold
      obtain ⟨entries', hentry', hkept⟩ := h.inward hentry
      exact isSome_enter?_name.2 ⟨entries', hentry', ih hkept hrest⟩

end Trail

def Place.IsFolder (place : Place) : Prop := ∃ entries, place.node = .ok (.folder entries)

theorem self_isFolder (trail : Trail) : (Place.mk trail .self).IsFolder := ⟨trail.entries, rfl⟩

theorem entry_of_node {place : Place} {s : String} {slash : Bool} {node : Node}
    (hgoal : place.goal = .name s slash) (h : place.node = .ok node) :
    entry? place.trail s = .ok (some node) := by
  rw [Place.node, hgoal] at h
  obtain ⟨node?, hentry, h⟩ := exists_ok_of_bind h
  cases node? with
  | none => cases h
  | some found =>
    dsimp only at h
    split at h
    · cases h
    · cases h
      exact hentry

theorem name_isFolder_iff {trail : Trail} {s : String} {slash : Bool} :
    (Place.mk trail (.name s slash)).IsFolder ↔
      ∃ entries, entry? trail s = .ok (some (.folder entries)) := by
  constructor
  · rintro ⟨entries, h⟩
    exact ⟨entries, entry_of_node rfl h⟩
  · rintro ⟨entries, hentry⟩
    refine ⟨entries, ?_⟩
    rw [Place.node]
    dsimp only
    rw [hentry]
    cases slash <;> rfl

theorem through_isFolder_iff {trail : Trail} {s : String} {rest : List String}
    (hloud : ¬ (s = "" || s = ".")) (hparent : s ≠ "..") (hmore : ¬ rest.all (· = "")) :
    (∃ place, follow trail (s :: rest) = .ok place ∧ place.IsFolder) ↔
      ∃ entries, entry? trail s = .ok (some (.folder entries)) ∧
        ∃ place, follow ((s, entries) :: trail) rest = .ok place ∧ place.IsFolder := by
  rw [follow, if_neg hloud, if_neg hparent, if_neg hmore]
  constructor
  · rintro ⟨place, hplace, hfolder⟩
    split at hplace
    · cases hplace
    · cases hplace
    · cases hplace
    · next entries hentry => exact ⟨entries, hentry, place, hplace, hfolder⟩
  · rintro ⟨entries, hentry, place, hplace, hfolder⟩
    rw [hentry]
    exact ⟨place, hplace, hfolder⟩

theorem steps_empty {segs : List String} (h : segs.all (· = "")) : Path.steps segs = [] := by
  apply List.filterMap_eq_nil_iff.2
  intro s hs
  rw [of_decide_eq_true (List.all_eq_true.1 h s hs)]
  rfl

/-- Segments lead to a folder exactly if all that they name can be followed. -/
theorem follow_isFolder_iff (trail : Trail) (segs : List String) :
    (∃ place, follow trail segs = .ok place ∧ place.IsFolder) ↔
      (trail.enter? (Path.steps segs)).isSome := by
  induction segs generalizing trail with
  | nil => exact iff_of_true ⟨⟨trail, .self⟩, rfl, self_isFolder trail⟩ rfl
  | cons s rest ih =>
    by_cases hloud : s = "" || s = "."
    · have hsteps : Path.steps (s :: rest) = Path.steps rest := by
        rw [← List.singleton_append, Path.steps_append, Path.steps_silent hloud, List.nil_append]
      rw [follow, if_pos hloud, hsteps]
      exact ih trail
    · by_cases hparent : s = ".."
      · subst hparent
        exact ih trail.outward
      · have hsteps : Path.steps (s :: rest) = .name s :: Path.steps rest := by
          rw [Path.steps_cons]
          grind [Path.component?]
        rw [hsteps, Trail.isSome_enter?_name]
        by_cases hmore : rest.all (· = "")
        · rw [follow, if_neg hloud, if_neg hparent, if_pos hmore, steps_empty hmore]
          constructor
          · rintro ⟨place, hplace, hfolder⟩
            cases hplace
            obtain ⟨entries, hentry⟩ := name_isFolder_iff.1 hfolder
            exact ⟨entries, hentry, rfl⟩
          · rintro ⟨entries, hentry, -⟩
            exact ⟨_, rfl, name_isFolder_iff.2 ⟨entries, hentry⟩⟩
        · rw [through_isFolder_iff hloud hparent hmore]
          apply exists_congr
          intro entries
          rw [ih]

variable {mem mem' : Memory} {p dir : Path}

def Lookable (p : Path) : Prop :=
  ¬ p.isEmpty ∧ ¬ p.hasZeroByte ∧ ¬ Disk.longestPath < p.text.utf8ByteSize

def start (mem : Memory) (p : Path) : Trail :=
  if p.isAbsolute then [("", mem.root.entries)] else Trail.extend [("", mem.root.entries)] mem.here

theorem start_from (mem : Memory) (p : Path) : Trail.From mem.root (mem.start p) := by
  rw [start]
  split
  · exact .root
  · exact Trail.From.root.extend mem.here

theorem place_eq (h : Lookable p) : mem.place p = follow (mem.start p) p.segments := by
  obtain ⟨hempty, hzero, hlong⟩ := h
  rw [place, if_neg hempty, if_neg hzero, if_neg hlong]
  rfl

theorem place_eq_ok {place : Place} (h : mem.place p = .ok place) :
    Lookable p ∧ follow (mem.start p) p.segments = .ok place := by
  have hlookable : Lookable p := by
    rw [Memory.place] at h
    split at h
    · cases h
    · next hempty =>
      split at h
      · cases h
      · next hzero =>
        split at h
        · cases h
        · next hlong => exact ⟨hempty, hzero, hlong⟩
  exact ⟨hlookable, place_eq hlookable ▸ h⟩

theorem enter?_ofParts (trail : Trail) (segs : List String) :
    trail.enter? (Path.ofParts segs) = trail.enter? (Path.steps segs) := by
  cases segs with
  | nil => rfl
  | cons s rest =>
    by_cases hs : Path.isSilent s
    · have hcases : s = "" ∨ s = "." := by simpa [Path.isSilent] using hs
      rcases hcases with rfl | rfl
      · cases rest <;> rfl
      · rfl
    · rw [Path.ofParts_eq_steps hs]

def Leads (mem : Memory) (p : Path) : Prop :=
  Lookable p ∧ ((mem.start p).enter? p.components).isSome

theorem leads_iff : mem.Leads p ↔ ∃ place, mem.place p = .ok place ∧ place.IsFolder := by
  rw [Leads, Path.components_eq, enter?_ofParts, ← follow_isFolder_iff]
  constructor
  · rintro ⟨hlookable, place, hplace, hfolder⟩
    exact ⟨place, place_eq hlookable ▸ hplace, hfolder⟩
  · rintro ⟨place, hplace, hfolder⟩
    obtain ⟨hlookable, hplace⟩ := place_eq_ok hplace
    exact ⟨hlookable, place, hplace, hfolder⟩

theorem find_eq_ok_iff {node : Node} :
    mem.find p = .ok node ↔ ∃ place, mem.place p = .ok place ∧ place.node = .ok node := by
  constructor
  · exact fun h => exists_ok_of_bind h
  · rintro ⟨place, hplace, h⟩
    rw [find, hplace]
    exact h

theorem info_folder_iff : (∃ found, mem.info p = .ok found ∧ found.kind = .folder) ↔
    ∃ entries, mem.find p = .ok (.folder entries) := by
  constructor
  · rintro ⟨found, h, hkind⟩
    obtain ⟨node, hnode, h⟩ := exists_ok_of_bind h
    cases node with
    | folder entries => exact ⟨entries, hnode⟩
    | file content modified =>
      cases h
      cases hkind
  · rintro ⟨entries, h⟩
    refine ⟨⟨.folder, ⟨mem.clock, 0⟩⟩, ?_, rfl⟩
    rw [info, h]
    rfl

theorem hasFolder_iff : disk.HasFolder dir mem ↔ mem.Leads dir := by
  have hinfo : ((disk.info dir).run.run mem).1 = mem.info dir := rfl
  rw [Disk.hasFolder_iff, hinfo, info_folder_iff, leads_iff]
  constructor
  · rintro ⟨entries, h⟩
    obtain ⟨place, hplace, hnode⟩ := find_eq_ok_iff.1 h
    exact ⟨place, hplace, entries, hnode⟩
  · rintro ⟨place, hplace, entries, hnode⟩
    exact ⟨entries, find_eq_ok_iff.2 ⟨place, hplace, hnode⟩⟩

theorem Trail.From.follow {root : Node} {trail : Trail} {segs : List String} {place : Place}
    (h : From root trail) (hplace : Memory.follow trail segs = .ok place) :
    From root place.trail := by
  induction segs generalizing trail with
  | nil =>
    cases hplace
    exact h
  | cons s rest ih =>
    rw [Memory.follow] at hplace
    split at hplace
    · exact ih h hplace
    · split at hplace
      · exact ih h.outward hplace
      · split at hplace
        · cases hplace
          exact h
        · split at hplace
          · cases hplace
          · cases hplace
          · cases hplace
          · next entries hentry =>
            apply ih (.step h ?_) hplace
            rintro names ⟨inner, hinner, hnames⟩
            obtain rfl := Option.some.inj ((entry_eq_ok_iff.1 hentry).2.symm.trans hinner)
            exact hnames

theorem place_from {place : Place} (h : mem.place p = .ok place) :
    Trail.From mem.root place.trail :=
  (mem.start_from p).follow (place_eq_ok h).2

def Adds (mem mem' : Memory) : Prop :=
  ∃ names node, mem' = mem.put names (some node) ∧ ¬ FolderAt names mem.root

theorem adds_put {place : Place} {s : String} {slash : Bool} {old : Option Node}
    (hplace : mem.place p = .ok place) (hgoal : place.goal = .name s slash)
    (hold : entry? place.trail s = .ok old) (hfile : ∀ entries, old ≠ some (.folder entries))
    (node : Node) : Adds mem (mem.put place.names (some node)) := by
  refine ⟨place.names, node, rfl, ?_⟩
  rw [Place.names, hgoal]
  intro hfolder
  obtain ⟨inner, hinner, hkind⟩ := (place_from hplace).folderAt hfolder
  obtain ⟨entries, rfl⟩ := Node.exists_entries hkind
  exact hfile entries ((Trail.entry_eq_ok_iff.1 hold).2.symm.trans hinner)

theorem start_kept (h : FoldersKept mem.root mem'.root) (hhere : mem.here = mem'.here)
    (p : Path) : Trail.Kept (mem.start p) (mem'.start p) := by
  have hroot : Trail.Kept [("", mem.root.entries)] [("", mem'.root.entries)] := by
    refine .cons ⟨rfl, ?_⟩ .nil
    intro names hnames
    cases names with
    | nil => rfl
    | cons name rest => exact h (name :: rest) hnames
  rw [start, start, ← hhere]
  split
  · exact hroot
  · exact hroot.extend mem.here

theorem leads_of_adds (h : Adds mem mem') (hdir : mem.Leads dir) : mem'.Leads dir := by
  obtain ⟨names, node, rfl, hnames⟩ := h
  have hkept : FoldersKept mem.root (mem.put names (some node)).root :=
    Node.foldersKept_of_set hnames
  exact ⟨hdir.1, (start_kept hkept rfl dir).enter? _ hdir.2⟩

theorem write_adds {content : Bytes} (h : mem.write p content = .ok mem') : Adds mem mem' := by
  obtain ⟨place, hplace, h⟩ := exists_ok_of_bind h
  cases hgoal : place.goal with
  | self =>
    rw [hgoal] at h
    cases h
  | name s slash =>
    rw [hgoal] at h
    dsimp only at h
    split at h
    · cases h
    · obtain ⟨old, hold, h⟩ := exists_ok_of_bind h
      split at h
      · cases h
      · next hfile =>
        cases h
        exact adds_put hplace hgoal hold (fun entries he => hfile entries he) _

theorem makeFolder_adds (h : mem.makeFolder p = .ok mem') : Adds mem mem' := by
  obtain ⟨place, hplace, h⟩ := exists_ok_of_bind h
  cases hgoal : place.goal with
  | self =>
    rw [hgoal] at h
    cases h
  | name s slash =>
    rw [hgoal] at h
    obtain ⟨old, hold, h⟩ := exists_ok_of_bind h
    cases old with
    | some node => cases h
    | none =>
      cases h
      exact adds_put hplace hgoal hold (fun _ he => nomatch he) _

theorem setModified_adds {modified : Timestamp} (h : mem.setModified p modified = .ok mem') :
    Adds mem mem' := by
  obtain ⟨place, hplace, h⟩ := exists_ok_of_bind h
  obtain ⟨node, hnode, h⟩ := exists_ok_of_bind h
  cases node with
  | folder entries => cases h
  | file content dated =>
    cases h
    cases hgoal : place.goal with
    | self =>
      rw [Place.node, hgoal] at hnode
      cases hnode
    | name s slash =>
      exact adds_put hplace hgoal (entry_of_node hgoal hnode) (fun _ he => nomatch he) _

theorem preserves_query {α : Type} (f : Memory → Except FileError α) :
    Preserves (disk.HasFolder dir) (query f).run :=
  fun _ h => h

theorem run_change (f : Memory → Except FileError Memory) (mem : Memory) :
    (change f).run.run mem = match f mem with
      | .ok mem' => (.ok (), { mem' with clock := mem'.clock + 1 })
      | .error e => (.error e, mem) := rfl

theorem preserves_change {f : Memory → Except FileError Memory}
    (hf : ∀ mem mem', f mem = .ok mem' → Adds mem mem') :
    Preserves (disk.HasFolder dir) (change f).run := by
  intro mem h
  rw [run_change]
  cases hmem : f mem with
  | error e => exact h
  | ok mem' =>
    have hleads := leads_of_adds (hf mem mem' hmem) (hasFolder_iff.1 h)
    rw [hasFolder_iff]
    exact hleads

theorem leads_congr (hdir : mem.Leads dir) (h : p.components = dir.components) (hp : Lookable p) :
    mem.Leads p := by
  refine ⟨hp, ?_⟩
  have habsolute : p.isAbsolute = dir.isAbsolute := by
    rw [Bool.eq_iff_iff, Path.isAbsolute_iff_root, Path.isAbsolute_iff_root, h]
  rw [start, habsolute, h]
  exact hdir.2

theorem makeFolder_ne_notFound (hdir : mem.Leads dir) (h : p.components = dir.components) :
    mem.makeFolder p ≠ .error .notFound := by
  intro hmissing
  by_cases hp : Lookable p
  · obtain ⟨place, hplace, entries, hnode⟩ := leads_iff.1 (leads_congr hdir h hp)
    cases hgoal : place.goal with
    | self =>
      simp only [makeFolder, hplace, hgoal, bind, Except.bind] at hmissing
      cases hmissing
    | name s slash =>
      simp only [makeFolder, hplace, hgoal, entry_of_node hgoal hnode, bind, Except.bind] at hmissing
      cases hmissing
  · have hempty : ¬ p.isEmpty := by
      intro hempty
      obtain rfl : p = ⟨""⟩ :=
        congrArg Path.mk (String.toList_eq_nil_iff.1 (List.isEmpty_iff.1 hempty))
      exact hdir.1.1 (Path.components_eq_nil h.symm)
    rw [makeFolder, place, if_neg hempty] at hmissing
    split at hmissing
    · cases hmissing
    · next hzero =>
      split at hmissing
      · cases hmissing
      · next hlong => exact hp ⟨hempty, hzero, hlong⟩

/-- A file system in memory keeps all of its folders. -/
theorem disk_keepsFolder (dir : Path) : disk.KeepsFolder dir where
  info p := preserves_query (·.info p)
  read p := preserves_query (·.read p)
  entries p := preserves_query (·.entries p)
  now := fun _ h => h
  write p content := preserves_change fun _ _ h => write_adds h
  makeFolder p := preserves_change fun _ _ h => makeFolder_adds h
  setModified p modified := preserves_change fun _ _ h => setModified_adds h
  notMissing p mem h hp := by
    have hrun : (disk.makeFolder p).run.run mem = _ := run_change (·.makeFolder p) mem
    rw [hrun]
    intro hmissing
    cases hmem : mem.makeFolder p with
    | ok mem' =>
      rw [hmem] at hmissing
      cases hmissing
    | error e =>
      rw [hmem] at hmissing
      cases hmissing
      exact makeFolder_ne_notFound (hasFolder_iff.1 h) hp hmem

end Memory

end Worldsmith
