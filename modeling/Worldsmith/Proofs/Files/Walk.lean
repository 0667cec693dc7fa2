import Mathlib.Data.List.Forall2
import Mathlib.Data.List.Nodup
import Worldsmith.Files.Disk
import Worldsmith.Proofs.Files.Path

namespace Worldsmith.Disk

variable {σ : Type}

def IsName (s : String) : Prop := s ≠ "" ∧ '/' ∉ s.toList

instance : DecidablePred IsName := fun s => inferInstanceAs (Decidable (s ≠ "" ∧ '/' ∉ s.toList))

def ListsNames (disk : Disk (StateM σ)) : Prop :=
  ∀ p s entries s', (disk.entries p).run.run s = (.ok entries, s') →
    (entries.map (·.1)).Nodup ∧ ∀ e ∈ entries, IsName e.1

def names? : Step → Option (List String)
  | .ok found => some found.names
  | .error _ => none

/-- Different files are found below the names that led to a place. -/
structure Spread (before : List String) (steps : List Step) : Prop where
  nodup : (steps.filterMap names?).Nodup
  below : ∀ names ∈ steps.filterMap names?, ∃ rest, names = before ++ rest ∧ ∀ s ∈ rest, IsName s

namespace Spread

variable {before : List String} {steps : List Step}

theorem nil (before : List String) : Spread before [] := ⟨.nil, fun _ h => nomatch h⟩

theorem failed (before : List String) (text : String) : Spread before [.error text] :=
  ⟨.nil, fun _ h => nomatch h⟩

theorem file (here : Found) : Spread here.names [.ok here] := by
  refine ⟨List.nodup_singleton _, ?_⟩
  intro names h
  cases List.mem_singleton.1 h
  exact ⟨[], (List.append_nil _).symm, fun _ h => nomatch h⟩

theorem append {e : String × FileKind} {more : List Step}
    (h : Spread (before ++ [e.1]) steps) (hname : IsName e.1) (hmore : Spread before more)
    (hother : ∀ found ∈ more.filterMap names?, ∀ rest, found ≠ before ++ e.1 :: rest) :
    Spread before (steps ++ more) := by
  constructor
  · rw [List.filterMap_append]
    apply List.nodup_append.2
    refine ⟨h.nodup, hmore.nodup, ?_⟩
    rintro found hfound _ hfound' rfl
    obtain ⟨rest, hrest, -⟩ := h.below found hfound
    apply hother found hfound' rest
    rw [hrest, List.append_assoc]
    rfl
  · intro found hfound
    rw [List.filterMap_append] at hfound
    rcases List.mem_append.1 hfound with hfound | hfound
    · obtain ⟨rest, hrest, hnames⟩ := h.below found hfound
      refine ⟨e.1 :: rest, ?_, List.forall_mem_cons.2 ⟨hname, hnames⟩⟩
      rw [hrest, List.append_assoc]
      rfl
    · exact hmore.below found hfound

theorem flatten {entries : List (String × FileKind)} {below : List (List Step)}
    (h : List.Forall₂ (fun e steps => Spread (before ++ [e.1]) steps) entries below)
    (hnodup : (entries.map (·.1)).Nodup) (hnames : ∀ e ∈ entries, IsName e.1) :
    Spread before below.flatten ∧ ∀ found ∈ below.flatten.filterMap names?,
      ∃ e ∈ entries, ∃ rest, found = before ++ e.1 :: rest := by
  induction h with
  | nil => exact ⟨nil before, fun _ h => nomatch h⟩
  | @cons e steps entries below he _ ih =>
    rw [List.map_cons, List.nodup_cons] at hnodup
    obtain ⟨hname, hnames⟩ := List.forall_mem_cons.1 hnames
    obtain ⟨hrest, hfirst⟩ := ih hnodup.2 hnames
    rw [List.flatten_cons]
    constructor
    · apply he.append hname hrest
      intro found hfound rest heq
      -- Names below two entries differ where the entries do.
      obtain ⟨e', he', rest', heq'⟩ := hfirst found hfound
      have hcons := List.append_cancel_left (heq.symm.trans heq')
      apply hnodup.1
      rw [(List.cons.inj hcons).1]
      exact List.mem_map_of_mem he'
    · intro found hfound
      rw [List.filterMap_append] at hfound
      rcases List.mem_append.1 hfound with hfound | hfound
      · obtain ⟨rest, hfound, -⟩ := he.below found hfound
        refine ⟨e, List.mem_cons_self, rest, ?_⟩
        rw [hfound, List.append_assoc]
        rfl
      · obtain ⟨e', he', hrest'⟩ := hfirst found hfound
        exact ⟨e', List.mem_cons_of_mem e he', hrest'⟩

end Spread

theorem run_mapM {α β : Type} {f : α → StateM σ β} {P : α → β → Prop}
    (h : ∀ a s, P a ((f a).run s).1) (l : List α) (s : σ) :
    List.Forall₂ P l ((l.mapM f).run s).1 := by
  induction l generalizing s with
  | nil => exact .nil
  | cons a l ih =>
    rw [List.mapM_cons]
    exact .cons (h a s) (ih _)

variable {disk : Disk (StateM σ)}

theorem walkFrom_spread (hdisk : disk.ListsNames) (depth : Nat) (here : Found) (kind : FileKind)
    (s : σ) : Spread here.names ((disk.walkFrom depth here kind).run s).1 := by
  induction depth generalizing here kind s with
  | zero => exact .nil _
  | succ depth ih =>
    cases kind with
    | file => exact .file here
    | other => exact .nil _
    | folder =>
      rw [walkFrom, StateT.run_bind]
      cases hrun : (disk.entries here.path).run.run s with
      | mk answer s' =>
        cases answer with
        | error e => exact .failed _ _
        | ok entries =>
          obtain ⟨hnodup, hnames⟩ := hdisk _ _ _ _ hrun
          have hperm : (sortedByName entries).Perm entries := List.mergeSort_perm _ _
          have hbelow := run_mapM (P := fun e steps => Spread (here.names ++ [e.1]) steps)
            (fun e s => ih ⟨here.path.join e.1, here.names ++ [e.1]⟩ e.2 s) (sortedByName entries) s'
          exact (Spread.flatten hbelow ((hperm.map (·.1)).nodup_iff.2 hnodup)
            fun e he => hnames e (hperm.mem_iff.1 he)).1

theorem walk_spread (hdisk : disk.ListsNames) (root : Path) (s : σ) :
    Spread [] ((disk.walk root).run s).1 := by
  rw [walk, StateT.run_bind]
  cases (disk.info root).run.run s with
  | mk answer s' =>
    cases answer with
    | error e => exact .failed _ _
    | ok info => exact walkFrom_spread hdisk _ ⟨root, []⟩ info.kind s'

theorem segments_names {names : List String} (h : ∀ s ∈ names, IsName s) (hne : names ≠ []) :
    (Path.ofSegments names).segments = names :=
  Path.segments_ofSegments (fun s hs => (h s hs).2) hne

theorem intercalate_ne_empty {names : List String} (h : ∀ s ∈ names, IsName s)
    (hne : names ≠ []) : "/".intercalate names ≠ "" := by
  intro he
  have hsegments := segments_names h hne
  rw [Path.ofSegments, he] at hsegments
  apply (h "" ?_).1 rfl
  rw [← hsegments]
  exact List.mem_singleton_self ""

/-- Names can be read off the path that they make. -/
theorem intercalate_injective {a b : List String} (ha : ∀ s ∈ a, IsName s) (hb : ∀ s ∈ b, IsName s)
    (h : "/".intercalate a = "/".intercalate b) : a = b := by
  by_cases hane : a = []
  · subst hane
    by_contra hbne
    exact intercalate_ne_empty hb (Ne.symm hbne) h.symm
  · by_cases hbne : b = []
    · subst hbne
      exact absurd h (intercalate_ne_empty ha hane)
    · have hsegments := segments_names ha hane
      rw [Path.ofSegments, h] at hsegments
      exact hsegments.symm.trans (segments_names hb hbne)

theorem Spread.intercalate_nodup {steps : List Step} (h : Spread [] steps) :
    ((steps.filterMap names?).map fun names => "/".intercalate names).Nodup := by
  have hnames : ∀ names ∈ steps.filterMap names?, ∀ s ∈ names, IsName s := by
    intro names hmem
    obtain ⟨rest, rfl, hrest⟩ := h.below names hmem
    exact hrest
  apply List.Nodup.map_on _ h.nodup
  intro a ha b hb he
  exact intercalate_injective (hnames a ha) (hnames b hb) he

end Worldsmith.Disk
