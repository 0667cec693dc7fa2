import Mathlib.Data.List.DropRight
import Worldsmith.Files.Path

namespace Worldsmith.Path

variable {p q dir : Path} {segs kept : List String} {s rest : String} {c : Component}

theorem notMem_of_mem_splitOn {a : Char} {cs piece : List Char} (h : piece ∈ cs.splitOn a) :
    a ∉ piece := by
  induction cs generalizing piece with
  | nil =>
    rw [List.splitOn_nil, List.mem_singleton] at h
    rw [h]
    exact List.not_mem_nil
  | cons x cs ih =>
    rw [List.splitOn_cons_eq_if_modifyHead] at h
    split at h
    · rcases List.mem_cons.1 h with rfl | h
      · exact List.not_mem_nil
      · exact ih h
    · next hx =>
      cases hsplit : cs.splitOn a with
      | nil => exact absurd hsplit (List.splitOn_ne_nil a cs)
      | cons first others =>
        rw [hsplit, List.modifyHead_cons] at h
        rcases List.mem_cons.1 h with rfl | h
        · intro hmem
          rcases List.mem_cons.1 hmem with rfl | hmem
          · exact hx BEq.rfl
          · exact ih (hsplit ▸ List.mem_cons_self) hmem
        · exact ih (hsplit ▸ List.mem_cons_of_mem first h)

theorem notMem_of_mem_segments (h : s ∈ p.segments) : '/' ∉ s.toList := by
  obtain ⟨piece, hpiece, rfl⟩ := List.mem_map.1 h
  rw [String.toList_ofList]
  exact notMem_of_mem_splitOn hpiece

theorem segments_ne_nil (p : Path) : p.segments ≠ [] := by
  intro h
  exact List.splitOn_ne_nil '/' _ (List.map_eq_nil_iff.1 h)

theorem segments_ofSegments (h : ∀ s ∈ segs, '/' ∉ s.toList) (hne : segs ≠ []) :
    (ofSegments segs).segments = segs := by
  have hsplit : ("/".intercalate segs).toList.splitOn '/' = segs.map String.toList := by
    rw [String.toList_intercalate]
    apply List.splitOn_intercalate
    · intro cs hcs
      obtain ⟨s, hs, rfl⟩ := List.mem_map.1 hcs
      exact h s hs
    · intro hnil
      exact hne (List.map_eq_nil_iff.1 hnil)
  rw [segments, ofSegments, hsplit, List.map_map]
  exact List.map_id'' (fun _ => String.ofList_toList) segs

theorem segments_slash (a b : String) :
    (Path.mk (a ++ "/" ++ b)).segments = (Path.mk a).segments ++ (Path.mk b).segments := by
  have htext : (a ++ "/" ++ b).toList = a.toList ++ '/' :: b.toList := by
    rw [String.toList_append, String.toList_append, List.append_assoc]
    rfl
  rw [segments, htext, List.splitOn_append_cons_self, List.map_append]
  rfl

theorem segments_eq_singleton (h : p.segments = [""]) : p.text = "" := by
  obtain ⟨piece, hpiece, hempty⟩ := List.map_eq_singleton_iff.1 h
  have hjoin : [('/' : Char)].intercalate (p.text.toList.splitOn '/') = p.text.toList :=
    List.intercalate_splitOn '/'
  rw [hpiece, String.ofList_eq_empty_iff.1 hempty] at hjoin
  exact String.toList_eq_nil_iff.1 hjoin.symm

theorem isAbsolute_iff : p.isAbsolute ↔ ∃ rest, rest ≠ [] ∧ p.segments = "" :: rest := by
  rw [isAbsolute, decide_eq_true_iff]
  constructor
  · intro h
    obtain ⟨cs, hcs⟩ := List.head?_eq_some_iff.1 h
    refine ⟨(cs.splitOn '/').map String.ofList, ?_, ?_⟩
    · intro hnil
      exact List.splitOn_ne_nil '/' cs (List.map_eq_nil_iff.1 hnil)
    · rw [segments, hcs, List.splitOn_cons_eq_if_modifyHead, if_pos BEq.rfl]
      rfl
  · rintro ⟨rest, hrest, h⟩
    cases htext : p.text.toList with
    | nil =>
      rw [segments, htext] at h
      exact absurd (List.cons.inj h).2.symm hrest
    | cons x cs =>
      rw [segments, htext, List.splitOn_cons_eq_if_modifyHead] at h
      split at h
      · next hx => rw [List.head?_cons, beq_iff_eq.1 hx]
      · cases hsplit : cs.splitOn '/' with
        | nil => exact absurd hsplit (List.splitOn_ne_nil '/' cs)
        | cons first others =>
          rw [hsplit] at h
          exact absurd (String.ofList_eq_empty_iff.1 (List.cons.inj h).1) (List.cons_ne_nil _ _)

def steps (segs : List String) : List Component := segs.filterMap (component? false)

def ofParts : List String → List Component
  | [] => []
  | s :: rest =>
    if s = "" then if rest = [] then [] else .root :: steps rest
    else (component? true s).toList ++ steps rest

theorem components_eq (p : Path) : p.components = ofParts p.segments := by
  rw [components]
  cases hsegs : p.segments with
  | nil => exact absurd hsegs p.segments_ne_nil
  | cons s rest =>
    rw [ofParts]
    by_cases hs : s = ""
    · subst hs
      rw [if_pos rfl]
      by_cases hrest : rest = []
      · rw [if_pos hrest, if_neg, hrest]
        · rfl
        · rw [isAbsolute_iff, hsegs]
          rintro ⟨rest', hrest', heq⟩
          exact hrest' ((List.cons.inj heq).2 ▸ hrest)
      · rw [if_neg hrest, if_pos (isAbsolute_iff.2 ⟨rest, hrest, hsegs⟩)]
        rfl
    · rw [if_neg hs, if_neg]
      · rfl
      · rw [isAbsolute_iff, hsegs]
        rintro ⟨_, -, heq⟩
        exact hs (List.cons.inj heq).1

theorem components_of_segments (hne : segs ≠ []) (h : ∀ s ∈ segs, '/' ∉ s.toList) :
    (ofSegments segs).components = ofParts segs := by
  rw [components_eq, segments_ofSegments h hne]

theorem steps_append (a b : List String) : steps (a ++ b) = steps a ++ steps b :=
  List.filterMap_append

theorem steps_cons (s : String) (segs : List String) :
    steps (s :: segs) = (component? false s).toList ++ steps segs := by
  rw [steps, List.filterMap_cons]
  cases component? false s <;> rfl

theorem steps_silent (h : isSilent s) : steps [s] = [] := by
  have hnone : component? false s = none := by grind [isSilent, component?]
  rw [steps_cons, hnone]
  rfl

theorem steps_of_not_silent (h : ¬ isSilent s) : ∃ c, steps [s] = [c] := by
  have hsome : (component? false s).isSome := by grind [isSilent, component?]
  obtain ⟨c, hc⟩ := Option.isSome_iff_exists.1 hsome
  refine ⟨c, ?_⟩
  rw [steps_cons, hc]
  rfl

theorem ofParts_eq_steps (hs : ¬ isSilent s) : ofParts (s :: segs) = steps (s :: segs) := by
  have hfirst : component? true s = component? false s := by grind [isSilent, component?]
  have hempty : s ≠ "" := by
    rintro rfl
    exact hs rfl
  rw [ofParts, if_neg hempty, hfirst, steps_cons]

theorem ofParts_dot (segs : List String) : ofParts ("." :: segs) = .current :: steps segs := rfl

theorem steps_rdropWhile (segs : List String) : steps (segs.rdropWhile isSilent) = steps segs := by
  induction segs using List.reverseRecOn with
  | nil => rfl
  | append_singleton segs s ih =>
    rw [List.rdropWhile_concat]
    split
    · next hs => rw [ih, steps_append, steps_silent hs, List.append_nil]
    · rfl

theorem outer?_eq (segs : List String) : outer? segs =
    if segs.rdropWhile isSilent = [] then none
    else some ((segs.rdropWhile isSilent).dropLast.rdropWhile isSilent) := by
  rw [outer?, List.rdropWhile]
  split
  · next hdrop => rw [hdrop, List.reverse_nil, if_pos rfl]
  · next last before hdrop =>
    rw [hdrop, List.reverse_cons, if_neg (List.concat_ne_nil _ _), List.dropLast_concat,
      List.rdropWhile, List.reverse_reverse]

theorem outer?_steps (h : outer? segs = some kept) :
    steps segs ≠ [] ∧ steps kept = (steps segs).dropLast := by
  rw [outer?_eq] at h
  split at h
  · cases h
  · next hne =>
    cases h
    obtain ⟨c, hc⟩ := steps_of_not_silent (List.rdropWhile_last_not isSilent segs hne)
    have hsteps : steps segs = steps (segs.rdropWhile isSilent).dropLast ++ [c] := by
      rw [← hc, ← steps_append, List.dropLast_concat_getLast, steps_rdropWhile]
    rw [hsteps, steps_rdropWhile, List.dropLast_concat]
    exact ⟨List.concat_ne_nil _ _, rfl⟩

theorem outer?_eq_none (h : outer? segs = none) : steps segs = [] := by
  rw [outer?_eq] at h
  split at h
  · next hnil => rw [← steps_rdropWhile, hnil]; rfl
  · cases h

theorem outer?_beginning (h : outer? segs = some kept) : kept <+: segs := by
  rw [outer?_eq] at h
  split at h
  · cases h
  · cases h
    exact (List.rdropWhile_prefix _ _).trans
      ((List.dropLast_prefix _).trans (List.rdropWhile_prefix _ _))

theorem components_behind (hs : '/' ∉ s.toList) (hsegs : ∀ t ∈ segs, '/' ∉ t.toList)
    (h : outer? segs = some kept) : (ofSegments (s :: kept)).components = ofParts (s :: kept) := by
  apply components_of_segments (List.cons_ne_nil s kept)
  intro t ht
  rcases List.mem_cons.1 ht with rfl | ht
  · exact hs
  · exact hsegs t ((outer?_beginning h).subset ht)

theorem components_outer_root (hsegs : ∀ t ∈ segs, '/' ∉ t.toList)
    (h : outer? segs = some kept) :
    (if kept.isEmpty then ⟨"/"⟩ else ofSegments ("" :: kept) : Path).components =
      (ofParts ("" :: segs)).dropLast := by
  obtain ⟨hne, hsteps⟩ := outer?_steps h
  have hsome : segs ≠ [] := by
    rintro rfl
    exact hne rfl
  rw [ofParts, if_pos rfl, if_neg hsome, List.dropLast_cons_of_ne_nil hne, ← hsteps]
  cases kept with
  | nil => rfl
  | cons first others => exact components_behind List.not_mem_nil hsegs h

theorem components_outer_dot (hsegs : ∀ t ∈ segs, '/' ∉ t.toList) (h : outer? segs = some kept) :
    (ofSegments ("." :: kept)).components = (ofParts ("." :: segs)).dropLast := by
  obtain ⟨hne, hsteps⟩ := outer?_steps h
  rw [ofParts_dot, List.dropLast_cons_of_ne_nil hne, ← hsteps]
  exact components_behind (by decide) hsegs h

theorem components_outer_loud (hs : ¬ isSilent s) (hsegs : ∀ t ∈ s :: segs, '/' ∉ t.toList)
    (h : outer? (s :: segs) = some kept) :
    (ofSegments kept).components = (ofParts (s :: segs)).dropLast := by
  rw [ofParts_eq_steps hs, ← (outer?_steps h).2]
  cases kept with
  | nil => rfl
  | cons first others =>
    -- What is left begins as before, so its first part is no silent one either.
    obtain ⟨rfl, -⟩ := List.cons_prefix_cons.1 (outer?_beginning h)
    rw [← ofParts_eq_steps hs]
    apply components_of_segments (List.cons_ne_nil _ _)
    exact fun t ht => hsegs t ((outer?_beginning h).subset ht)

/-- The parent of a path has all of its components but the last. -/
theorem parent?_components (h : p.parent? = some q) : q.components = p.components.dropLast := by
  have hslash : ∀ s ∈ p.segments, '/' ∉ s.toList := fun s hs => notMem_of_mem_segments hs
  rw [components_eq p]
  rw [parent?] at h
  cases hsegs : p.segments with
  | nil => exact absurd hsegs p.segments_ne_nil
  | cons s rest =>
    rw [hsegs] at h hslash
    have hrest := (List.forall_mem_cons.1 hslash).2
    dsimp only at h
    split at h
    · next hempty =>
      subst hempty
      obtain ⟨kept, hkept, rfl⟩ := Option.map_eq_some_iff.1 h
      exact components_outer_root hrest hkept
    · next hempty =>
      split at h
      · next hdot =>
        subst hdot
        cases hkept : outer? rest with
        | none =>
          rw [hkept] at h
          cases h
          rw [ofParts_dot, outer?_eq_none hkept]
          rfl
        | some kept =>
          rw [hkept] at h
          cases h
          exact components_outer_dot hrest hkept
      · next hdot =>
        have hloud : ¬ isSilent s := by grind [isSilent]
        obtain ⟨kept, hkept, rfl⟩ := Option.map_eq_some_iff.1 h
        exact components_outer_loud hloud hslash hkept

theorem segments_trailing (a : String) :
    (Path.mk (a ++ "/")).segments = (Path.mk a).segments ++ [""] := by
  rw [← String.append_empty (s := a ++ "/"), segments_slash]
  rfl

theorem steps_trailing (segs : List String) : steps (segs ++ [""]) = steps segs := by
  rw [steps_append, steps_silent rfl, List.append_nil]

theorem components_slash (a b : String) : (Path.mk (a ++ "/" ++ b)).components =
    (Path.mk (a ++ "/")).components ++ steps (Path.mk b).segments := by
  rw [components_eq, components_eq, segments_slash, segments_trailing]
  cases hsegs : (Path.mk a).segments with
  | nil => exact absurd hsegs (segments_ne_nil _)
  | cons s rest =>
    have hb : rest ++ (Path.mk b).segments ≠ [] :=
      List.append_ne_nil_of_right_ne_nil _ (segments_ne_nil _)
    rw [List.cons_append, List.cons_append, ofParts, ofParts, if_neg hb,
      if_neg (List.concat_ne_nil _ _), steps_append, steps_trailing]
    split
    · rfl
    · exact (List.append_assoc _ _ _).symm

theorem components_trailing {a : String} (h : a ≠ "") :
    (Path.mk (a ++ "/")).components = (Path.mk a).components := by
  rw [components_eq, components_eq, segments_trailing]
  cases ha : (Path.mk a).segments with
  | nil => exact absurd ha (segments_ne_nil _)
  | cons s rest =>
    rw [List.cons_append, ofParts, ofParts, if_neg (List.concat_ne_nil _ _), steps_trailing]
    split
    · next hs =>
      rw [if_neg]
      rintro rfl
      exact h (segments_eq_singleton (hs ▸ ha))
    · rfl

/-- Only a root and a dot depend on what comes first. -/
theorem mem_steps (hroot : c ≠ .root) (hcurrent : c ≠ .current) :
    c ∈ steps p.segments ↔ c ∈ p.components := by
  rw [components_eq]
  cases p.segments with
  | nil => rfl
  | cons s rest =>
    rw [ofParts, steps_cons, List.mem_append]
    split
    · next hs =>
      have hnone : c ∉ (component? false s).toList := hs ▸ List.not_mem_nil
      split
      · next hrest =>
        subst hrest
        exact or_iff_left List.not_mem_nil |>.trans (iff_of_false hnone List.not_mem_nil)
      · rw [List.mem_cons, or_iff_right hnone, or_iff_right hroot]
    · have hfirst : c ∈ (component? false s).toList ↔ c ∈ (component? true s).toList := by
        grind [component?]
      rw [List.mem_append, hfirst]

theorem isInner_iff : p.isInner ↔ .root ∉ p.components ∧ .parent ∉ p.components := by
  rw [isInner, List.all_eq_true]
  constructor
  · intro h
    exact ⟨fun hroot => Bool.false_ne_true (h _ hroot),
      fun hparent => Bool.false_ne_true (h _ hparent)⟩
  · rintro ⟨hroot, hparent⟩ c hc
    cases c with
    | root => exact absurd hc hroot
    | parent => exact absurd hc hparent
    | current => rfl
    | name s => rfl

theorem root_notMem_steps (segs : List String) : Component.root ∉ steps segs := by
  intro h
  obtain ⟨s, -, hs⟩ := List.mem_filterMap.1 h
  grind [component?]

theorem isInner_of_slash {a b : String} (h : (Path.mk (a ++ "/" ++ b)).isInner) :
    (Path.mk a).isInner := by
  obtain ⟨hroot, hparent⟩ := isInner_iff.1 h
  rw [components_slash, List.mem_append, not_or] at hroot hparent
  by_cases ha : a = ""
  · subst ha
    exact absurd (by decide) hroot.1
  · rw [components_trailing ha] at hroot hparent
    exact isInner_iff.2 ⟨hroot.1, hparent.1⟩

def HasName (p : Path) : Prop := ∃ s, .name s ∈ p.components

theorem hasName_iff : p.HasName ↔ ∃ s ∈ p.segments, ¬ isSilent s ∧ s ≠ ".." := by
  have hname : ∀ s t, component? false s = some (.name t) ↔ (¬ isSilent s ∧ s ≠ "..") ∧ s = t := by
    grind [component?, isSilent]
  constructor
  · rintro ⟨t, ht⟩
    obtain ⟨s, hs, hst⟩ := List.mem_filterMap.1 ((mem_steps (by simp) (by simp)).2 ht)
    exact ⟨s, hs, ((hname s t).1 hst).1⟩
  · rintro ⟨s, hs, hst⟩
    refine ⟨s, (mem_steps (by simp) (by simp)).1 ?_⟩
    exact List.mem_filterMap.2 ⟨s, hs, (hname s s).2 ⟨hst, rfl⟩⟩

theorem hasName_slash_left {a : String} (h : (Path.mk a).HasName) (b : String) :
    (Path.mk (a ++ "/" ++ b)).HasName := by
  obtain ⟨s, hs, hname⟩ := hasName_iff.1 h
  rw [hasName_iff, segments_slash]
  exact ⟨s, List.mem_append_left _ hs, hname⟩

theorem hasName_slash_right (a : String) {b : String} (h : (Path.mk b).HasName) :
    (Path.mk (a ++ "/" ++ b)).HasName := by
  obtain ⟨s, hs, hname⟩ := hasName_iff.1 h
  rw [hasName_iff, segments_slash]
  exact ⟨s, List.mem_append_right _ hs, hname⟩

theorem exists_mem_splitOn_suffix {a : Char} {ending : List Char} (h : a ∉ ending)
    (cs : List Char) : ∃ piece ∈ (cs ++ ending).splitOn a, ending <:+ piece := by
  induction cs with
  | nil =>
    rw [List.nil_append, List.splitOn_eq_singleton h]
    exact ⟨ending, List.mem_singleton_self ending, List.suffix_refl ending⟩
  | cons x cs ih =>
    obtain ⟨piece, hpiece, hsuffix⟩ := ih
    rw [List.cons_append, List.splitOn_cons_eq_if_modifyHead]
    split
    · exact ⟨piece, List.mem_cons_of_mem _ hpiece, hsuffix⟩
    · cases hsplit : (cs ++ ending).splitOn a with
      | nil => exact absurd hsplit (List.splitOn_ne_nil a _)
      | cons first others =>
        rw [hsplit] at hpiece
        rw [List.modifyHead_cons]
        rcases List.mem_cons.1 hpiece with rfl | hpiece
        · exact ⟨x :: piece, List.mem_cons_self, hsuffix.trans (List.suffix_cons x piece)⟩
        · exact ⟨piece, List.mem_cons_of_mem _ hpiece, hsuffix⟩

/-- An ending that is longer than two dots is part of a name, whatever stands before it. -/
theorem hasName_append (a : String) {ending : String} (h : '/' ∉ ending.toList)
    (hlength : 2 < ending.toList.length) : (Path.mk (a ++ ending)).HasName := by
  obtain ⟨piece, hpiece, hsuffix⟩ := exists_mem_splitOn_suffix h a.toList
  rw [hasName_iff]
  refine ⟨String.ofList piece, ?_, ?_⟩
  · rw [segments, String.toList_append]
    exact List.mem_map_of_mem hpiece
  · have hlong : 2 < (String.ofList piece).toList.length := by
      rw [String.toList_ofList]
      exact Nat.lt_of_lt_of_le hlength hsuffix.length_le
    constructor
    · intro hsilent
      have hcases : String.ofList piece = "" ∨ String.ofList piece = "." := by grind [isSilent]
      rcases hcases with he | he
      · rw [he] at hlong
        exact absurd hlong (by decide)
      · rw [he] at hlong
        exact absurd hlong (by decide)
    · intro he
      rw [he] at hlong
      exact absurd hlong (by decide)

/-- The components of a path go on from those of a folder and never lead out of it. -/
def IsIn (p dir : Path) : Prop :=
  ∃ rest, p.components = dir.components ++ rest ∧ .root ∉ rest ∧ .parent ∉ rest

/-- A path in a folder that is not the folder itself. -/
def IsBelow (p dir : Path) : Prop :=
  p.IsIn dir ∧ p.components ≠ dir.components

theorem IsBelow.parent (h : p.IsBelow dir) (hq : p.parent? = some q) : q.IsIn dir := by
  obtain ⟨⟨rest, hrest, hroot, hparent⟩, hne⟩ := h
  have hnil : rest ≠ [] := by
    rintro rfl
    exact hne (hrest.trans (List.append_nil _))
  refine ⟨rest.dropLast, ?_, ?_, ?_⟩
  · rw [parent?_components hq, hrest, List.dropLast_append_of_ne_nil hnil]
  · exact fun hmem => hroot (List.dropLast_subset rest hmem)
  · exact fun hmem => hparent (List.dropLast_subset rest hmem)

theorem isAbsolute_iff_root : p.isAbsolute ↔ .root ∈ p.components := by
  constructor
  · intro h
    rw [components, if_pos h]
    exact List.mem_append_left _ List.mem_cons_self
  · intro h
    rw [components_eq] at h
    cases hsegs : p.segments with
    | nil => exact absurd hsegs p.segments_ne_nil
    | cons s rest =>
      rw [hsegs, ofParts] at h
      split at h
      · next hs =>
        subst hs
        split at h
        · exact absurd h List.not_mem_nil
        · next hrest => exact isAbsolute_iff.2 ⟨rest, hrest, hsegs⟩
      · rcases List.mem_append.1 h with h | h
        · grind [component?]
        · exact absurd h (root_notMem_steps rest)

theorem components_eq_nil (h : p.components = []) : p.isEmpty := by
  rw [components_eq] at h
  cases hsegs : p.segments with
  | nil => exact absurd hsegs p.segments_ne_nil
  | cons s rest =>
    rw [hsegs, ofParts] at h
    split at h
    · next hs =>
      split at h
      · next hrest =>
        have htext := segments_eq_singleton (hsegs.trans (by rw [hs, hrest]))
        rw [isEmpty, htext]
        rfl
      · cases h
    · next hs =>
      have hfirst := (List.append_eq_nil_iff.1 h).1
      grind [component?]

theorem join_text (hempty : ¬ dir.isEmpty) (hrelative : ¬ (Path.mk rest).isAbsolute) :
    ∃ a, dir.join rest = ⟨a ++ "/" ++ rest⟩ ∧ (Path.mk (a ++ "/")).components = dir.components := by
  have hne : dir.text ≠ "" := by
    intro h
    rw [isEmpty, h] at hempty
    exact hempty rfl
  rw [join, if_neg hrelative]
  by_cases hlast : dir.text.toList.getLast? = some '/'
  · obtain ⟨cs, hcs⟩ := List.getLast?_eq_some_iff.1 hlast
    have htext : dir.text = String.ofList cs ++ "/" := by
      rw [← String.toList_inj, String.toList_append, String.toList_ofList, hcs]
      rfl
    refine ⟨String.ofList cs, ?_, ?_⟩
    · rw [if_pos (by rw [hlast, decide_eq_true rfl, Bool.or_true]), htext]
    · rw [← htext]
  · refine ⟨dir.text, ?_, components_trailing hne⟩
    rw [if_neg]
    rw [Bool.or_eq_true, decide_eq_true_iff]
    exact fun h => h.elim hempty hlast

/-- What an inner path adds to the components of a folder, which are all names that it has. -/
theorem join_components (h : (Path.mk rest).isInner) :
    ∃ more, (dir.join rest).components = dir.components ++ more ∧ .root ∉ more ∧ .parent ∉ more ∧
      ∀ s, .name s ∈ (Path.mk rest).components → .name s ∈ more := by
  obtain ⟨hroot, hparent⟩ := isInner_iff.1 h
  by_cases hempty : dir.isEmpty
  · obtain rfl : dir = ⟨""⟩ :=
      congrArg Path.mk (String.toList_eq_nil_iff.1 (List.isEmpty_iff.1 hempty))
    refine ⟨(Path.mk rest).components, ?_, hroot, hparent, fun s hs => hs⟩
    rw [join, if_neg (mt isAbsolute_iff_root.1 hroot), hempty, Bool.true_or, if_pos rfl,
      String.empty_append]
    rfl
  · obtain ⟨a, hjoin, ha⟩ := join_text hempty (mt isAbsolute_iff_root.1 hroot)
    refine ⟨steps (Path.mk rest).segments, ?_, root_notMem_steps _, ?_, ?_⟩
    · rw [hjoin, components_slash, ha]
    · rw [mem_steps (by decide) (by decide)]
      exact hparent
    · intro s hs
      exact (mem_steps (by simp) (by simp)).2 hs

theorem join_isIn (h : (Path.mk rest).isInner) : (dir.join rest).IsIn dir := by
  obtain ⟨more, hmore, hroot, hparent, -⟩ := join_components h
  exact ⟨more, hmore, hroot, hparent⟩

theorem join_isBelow (h : (Path.mk rest).isInner) (hname : (Path.mk rest).HasName) :
    (dir.join rest).IsBelow dir := by
  obtain ⟨s, hs⟩ := hname
  obtain ⟨more, hmore, hroot, hparent, hname⟩ := join_components h
  refine ⟨⟨more, hmore, hroot, hparent⟩, ?_⟩
  intro he
  rw [hmore] at he
  exact List.ne_nil_of_mem (hname s hs) (List.append_right_eq_self.1 he)

end Worldsmith.Path
