import Mathlib
import Worldsmith.Proofs.Text.Identifier

/-!
Names in snake case, by the runs of the text that they are made from. A run of letters and digits
is kept in lower case, and a run of other characters leaves one underscore. So two texts have one
name if their runs are the same up to the case of letters and up to what the other characters are.
-/

namespace Worldsmith.Text

variable {c : Char} {cs run out : List Char} {l : List (List Char)} {afterGap word : Bool}

theorem toLower_ne_underscore (h : isAlphanumeric c = true) : c.toLower ≠ '_' := by
  intro hc
  have hlower := isAlphanumeric_toLower h
  rw [hc] at hlower
  cases hlower

/-- What is written with one more character: an underscore only if none stands at the end. -/
def appendSnake (out : List Char) (c : Char) : List Char :=
  if isAlphanumeric c then out ++ [c.toLower]
  else if out.getLast? = some '_' then out
  else out ++ ['_']

/-- What has been written ends in an underscore just if the last character read is in a gap. -/
theorem getLast?_appendSnake :
    (appendSnake out c).getLast? = some '_' ↔ isAlphanumeric c = false := by
  rw [appendSnake]
  cases hc : isAlphanumeric c with
  | true =>
    rw [if_pos rfl, List.getLast?_concat, Option.some_inj]
    simpa using toLower_ne_underscore hc
  | false =>
    rw [if_neg Bool.false_ne_true]
    split
    · next hlast => simpa using hlast
    · simp

/-- No two underscores next to each other. -/
def SingleGaps (out : List Char) : Prop := out.IsChain fun c d => ¬ (c = '_' ∧ d = '_')

theorem SingleGaps.append (h : SingleGaps out) (c : Char) : SingleGaps (appendSnake out c) := by
  rw [appendSnake]
  split
  · next hc =>
    refine List.isChain_append.2 ⟨h, .singleton _, ?_⟩
    rintro d - e he ⟨-, rfl⟩
    exact toLower_ne_underscore hc (Option.some_inj.1 he)
  · split
    · exact h
    · next hlast =>
      refine List.isChain_append.2 ⟨h, .singleton _, ?_⟩
      rintro d hd e - ⟨rfl, -⟩
      exact hlast hd

theorem SingleGaps.no_pair (h : SingleGaps out) : ¬ ['_', '_'] <:+: out := by
  intro hin
  have hpair := List.IsChain.infix h hin
  simp at hpair

/-- The flag says whether what has been written ends in an underscore. -/
theorem foldl_appendSnake (out cs : List Char) : cs.foldl appendSnake out =
    out ++ snakeChars (out.getLast? = some '_') cs := by
  induction cs generalizing out with
  | nil => exact (List.append_nil out).symm
  | cons c cs ih =>
    rw [List.foldl_cons, ih, snakeChars]
    have hflag : decide ((appendSnake out c).getLast? = some '_') = !isAlphanumeric c := by
      rw [Bool.eq_iff_iff, decide_eq_true_iff, getLast?_appendSnake, Bool.not_eq_true']
    rw [hflag, appendSnake]
    cases isAlphanumeric c with
    | true => simp
    | false =>
      by_cases hlast : out.getLast? = some '_'
      · simp [hlast]
      · simp [hlast]

theorem snakeChars_concat (cs : List Char) (c : Char) :
    snakeChars false (cs ++ [c]) = appendSnake (snakeChars false cs) c := by
  have hfold := foldl_appendSnake []
  simp only [List.nil_append, List.getLast?_nil, reduceCtorEq, decide_false] at hfold
  rw [← hfold, ← hfold, List.foldl_append]
  rfl

theorem singleGaps_snakeChars (cs : List Char) : SingleGaps (snakeChars false cs) := by
  induction cs using List.reverseRecOn with
  | nil => exact .nil
  | append_singleton cs c ih =>
    rw [snakeChars_concat]
    exact ih.append c

theorem getLast?_snakeChars (cs : List Char) : (snakeChars false cs).getLast? = some '_' ↔
    ∃ c, cs.getLast? = some c ∧ isAlphanumeric c = false := by
  rcases List.eq_nil_or_concat cs with rfl | ⟨cs, c, rfl⟩
  · simp [snakeChars]
  · simp [snakeChars_concat, getLast?_appendSnake]

theorem head?_snakeChars (cs : List Char) : (snakeChars false cs).head? = some '_' ↔
    ∃ c, cs.head? = some c ∧ isAlphanumeric c = false := by
  cases cs with
  | nil => simp [snakeChars]
  | cons c cs =>
    rw [snakeChars]
    cases hc : isAlphanumeric c with
    | true => simpa [hc] using toLower_ne_underscore hc
    | false => simp [hc]

/-- A text in parts as long as possible, each of letters and digits only or of other characters
only. -/
def runs (cs : List Char) : List (List Char) :=
  cs.splitBy fun c d => isAlphanumeric c == isAlphanumeric d

/-- Runs of letters and digits and runs of other characters in turns, where `word` tells which come
first. -/
inductive Alternating : Bool → List (List Char) → Prop
  | nil {word : Bool} : Alternating word []
  | cons {word : Bool} {run : List Char} {l : List (List Char)} (hne : run ≠ [])
    (hrun : ∀ c ∈ run, isAlphanumeric c = word) (hrest : Alternating (!word) l) :
    Alternating word (run :: l)

namespace Alternating

theorem nil_notMem (h : Alternating word l) : [] ∉ l := by
  induction h with
  | nil => exact List.not_mem_nil
  | cons hne _ _ ih => exact List.not_mem_cons_of_ne_of_not_mem hne.symm ih

theorem uniform (h : Alternating word l) (hrun : run ∈ l) :
    ∃ word, ∀ c ∈ run, isAlphanumeric c = word := by
  induction h with
  | nil => cases hrun
  | cons _ hword _ ih =>
    cases hrun with
    | head => exact ⟨_, hword⟩
    | tail _ hrest => exact ih hrest

theorem changes (h : Alternating word l) : l.IsChain fun run next => ∃ hrun hnext,
    (isAlphanumeric (run.getLast hrun) == isAlphanumeric (next.head hnext)) = false := by
  induction h with
  | nil => exact .nil
  | cons hne hword hrest ih =>
    cases hrest with
    | nil => exact .singleton _
    | cons hne' hword' hrest =>
      refine .cons_cons ⟨hne, hne', ?_⟩ ih
      rw [hword _ (List.getLast_mem hne), hword' _ (List.head_mem hne')]
      simp

theorem runs_flatten (h : Alternating word l) : runs l.flatten = l := by
  refine List.splitBy_flatten h.nil_notMem ?_ h.changes
  intro run hrun
  obtain ⟨word, hword⟩ := h.uniform hrun
  apply List.Pairwise.isChain
  apply List.pairwise_of_forall_mem_list
  intro c hc d hd
  rw [hword c hc, hword d hd]
  exact beq_self_eq_true word

theorem exists_cons (h : Alternating word l) (c : Char) :
    ∃ l', Alternating (isAlphanumeric c) l' ∧ l'.flatten = c :: l.flatten := by
  cases h with
  | nil => exact ⟨[[c]], .cons (by simp) (by simp) .nil, rfl⟩
  | cons hne hrun hrest =>
    by_cases hc : isAlphanumeric c = word
    · subst hc
      exact ⟨_, .cons (List.cons_ne_nil c _) (List.forall_mem_cons.2 ⟨rfl, hrun⟩) hrest, rfl⟩
    · refine ⟨_, .cons (List.cons_ne_nil c []) (by simp) ?_, rfl⟩
      rw [Bool.eq_not_of_ne hc, Bool.not_not]
      exact .cons hne hrun hrest

end Alternating

theorem exists_alternating (cs : List Char) : ∃ word l, Alternating word l ∧ l.flatten = cs := by
  induction cs with
  | nil => exact ⟨true, [], .nil, rfl⟩
  | cons c cs ih =>
    obtain ⟨word, l, hl, rfl⟩ := ih
    exact ⟨_, hl.exists_cons c⟩

theorem alternating_runs (cs : List Char) : ∃ word, Alternating word (runs cs) := by
  obtain ⟨word, l, hl, rfl⟩ := exists_alternating cs
  rw [hl.runs_flatten]
  exact ⟨word, hl⟩

/-- What a run leaves in a name. -/
def snakeRun (run : List Char) : List Char :=
  if run.all isAlphanumeric then run.map Char.toLower else ['_']

theorem snakeRun_word (h : ∀ c ∈ run, isAlphanumeric c = true) :
    snakeRun run = run.map Char.toLower := if_pos (List.all_eq_true.2 h)

theorem snakeRun_gap (hne : run ≠ []) (h : ∀ c ∈ run, isAlphanumeric c = false) :
    snakeRun run = ['_'] := by
  apply if_neg
  rw [List.all_eq_true]
  intro hall
  obtain ⟨c, hc⟩ := List.exists_mem_of_ne_nil run hne
  exact Bool.noConfusion ((hall c hc).symm.trans (h c hc))

theorem all_snakeRun (run : List Char) :
    (snakeRun run).all isAlphanumeric = run.all isAlphanumeric := by
  rw [snakeRun]
  split
  · next h =>
    rw [h, List.all_map, List.all_eq_true]
    exact fun c hc => isAlphanumeric_toLower (List.all_eq_true.1 h c hc)
  · next h => exact (Bool.eq_false_iff.2 h).symm

theorem snakeRun_snakeRun (run : List Char) : snakeRun (snakeRun run) = snakeRun run := by
  rw [snakeRun, all_snakeRun, snakeRun]
  split
  · rw [List.map_map]
    exact List.map_congr_left fun c _ => Char.toLower_toLower_eq_toLower c
  · rfl

theorem snakeChars_append_word (h : ∀ c ∈ run, isAlphanumeric c = true) (cs : List Char) :
    snakeChars false (run ++ cs) = run.map Char.toLower ++ snakeChars false cs := by
  induction run with
  | nil => rfl
  | cons c run ih =>
    obtain ⟨hc, hrun⟩ := List.forall_mem_cons.1 h
    rw [List.cons_append, snakeChars, if_pos hc, ih hrun]
    rfl

theorem snakeChars_append_gap (h : ∀ c ∈ run, isAlphanumeric c = false) (cs : List Char) :
    snakeChars true (run ++ cs) = snakeChars true cs := by
  induction run with
  | nil => rfl
  | cons c run ih =>
    obtain ⟨hc, hrun⟩ := List.forall_mem_cons.1 h
    rw [List.cons_append, snakeChars, hc, if_neg Bool.false_ne_true, if_pos rfl, ih hrun]

namespace Alternating

/-- Behind a gap there is no other gap, so each run leaves the same wherever it stands. -/
theorem snakeChars_flatten (h : Alternating word l) (hgap : word = false → afterGap = false) :
    snakeChars afterGap l.flatten = (l.map snakeRun).flatten := by
  induction h generalizing afterGap with
  | nil => rfl
  | @cons word run l hne hrun hrest ih =>
    rw [List.flatten_cons, List.map_cons, List.flatten_cons]
    cases run with
    | nil => exact absurd rfl hne
    | cons c run =>
      obtain ⟨hc, htail⟩ := List.forall_mem_cons.1 hrun
      rw [List.cons_append, snakeChars, hc]
      cases word with
      | true =>
        rw [if_pos rfl, snakeChars_append_word htail, ih fun _ => rfl, snakeRun_word hrun]
        rfl
      | false =>
        rw [if_neg Bool.false_ne_true, hgap rfl, if_neg Bool.false_ne_true,
          snakeChars_append_gap htail, ih fun hword => Bool.noConfusion hword,
          snakeRun_gap hne hrun]
        rfl

theorem map_snakeRun (h : Alternating word l) : Alternating word (l.map snakeRun) := by
  induction h with
  | nil => exact .nil
  | @cons word run l hne hrun hrest ih =>
    rw [List.map_cons]
    cases word with
    | true =>
      rw [snakeRun_word hrun]
      refine .cons (by simpa using hne) ?_ ih
      intro c hc
      obtain ⟨d, hd, rfl⟩ := List.mem_map.1 hc
      exact isAlphanumeric_toLower (hrun d hd)
    | false =>
      rw [snakeRun_gap hne hrun]
      exact .cons (List.cons_ne_nil _ _) (List.forall_mem_singleton.2 rfl) ih

end Alternating

theorem snakeChars_eq_runs (cs : List Char) :
    snakeChars false cs = ((runs cs).map snakeRun).flatten := by
  obtain ⟨word, l, hl, rfl⟩ := exists_alternating cs
  rw [hl.runs_flatten]
  exact hl.snakeChars_flatten fun _ => rfl

theorem runs_snakeChars (cs : List Char) :
    runs (snakeChars false cs) = (runs cs).map snakeRun := by
  obtain ⟨word, h⟩ := alternating_runs cs
  rw [snakeChars_eq_runs]
  exact h.map_snakeRun.runs_flatten

theorem snakeChars_snakeChars (cs : List Char) :
    snakeChars false (snakeChars false cs) = snakeChars false cs := by
  rw [snakeChars_eq_runs (snakeChars false cs), runs_snakeChars, List.map_map]
  have hrun : snakeRun ∘ snakeRun = snakeRun := funext snakeRun_snakeRun
  rw [hrun, ← snakeChars_eq_runs]

theorem isLower_of_mem_snakeChars (hc : c ∈ snakeChars false cs) :
    c.isLower = true ∨ c.isDigit = true ∨ c = '_' := by
  rw [snakeChars_eq_runs] at hc
  obtain ⟨part, hpart, hc⟩ := List.mem_flatten.1 hc
  obtain ⟨run, -, rfl⟩ := List.mem_map.1 hpart
  rw [snakeRun] at hc
  split at hc
  · next hword =>
    obtain ⟨d, hd, rfl⟩ := List.mem_map.1 hc
    have hletter := List.all_eq_true.1 hword d hd
    rw [isAlphanumeric, Bool.or_eq_true] at hletter
    rw [Char.isLower_toLower_eq_isAlpha, isDigit_toLower]
    exact hletter.elim .inl fun hdigit => .inr (.inl hdigit)
  · exact .inr (.inr (List.mem_singleton.1 hc))

/-- Two runs of letters and digits that differ at most in the case of letters, or two runs of other
characters. -/
inductive SameRun (run next : List Char) : Prop
  | word (hrun : run.all isAlphanumeric = true) (hnext : next.all isAlphanumeric = true)
    (hcase : run.map Char.toLower = next.map Char.toLower)
  | gap (hrun : run.all isAlphanumeric = false) (hnext : next.all isAlphanumeric = false)

theorem snakeRun_eq_iff {next : List Char} : snakeRun run = snakeRun next ↔ SameRun run next := by
  constructor
  · intro h
    have hall : run.all isAlphanumeric = next.all isAlphanumeric := by
      rw [← all_snakeRun run, h, all_snakeRun]
    cases hrun : run.all isAlphanumeric with
    | true =>
      have hnext : next.all isAlphanumeric = true := hall ▸ hrun
      rw [snakeRun, snakeRun, if_pos hrun, if_pos hnext] at h
      exact .word hrun hnext h
    | false => exact .gap hrun (hall ▸ hrun)
  · intro h
    rw [snakeRun, snakeRun]
    cases h with
    | word hrun hnext hcase => rw [if_pos hrun, if_pos hnext, hcase]
    | gap hrun hnext => rw [hrun, hnext, if_neg Bool.false_ne_true, if_neg Bool.false_ne_true]

theorem snakeChars_eq_iff {ds : List Char} : snakeChars false cs = snakeChars false ds ↔
    List.Forall₂ SameRun (runs cs) (runs ds) := by
  have hruns : snakeChars false cs = snakeChars false ds ↔
      (runs cs).map snakeRun = (runs ds).map snakeRun := by
    constructor
    · intro h
      rw [← runs_snakeChars, h, runs_snakeChars]
    · intro h
      rw [snakeChars_eq_runs, h, ← snakeChars_eq_runs]
  rw [hruns, ← List.forall₂_eq_eq_eq, List.forall₂_map_left_iff, List.forall₂_map_right_iff]
  simp only [snakeRun_eq_iff]

theorem toList_snakeCase (s : String) : (snakeCase s).toList = snakeChars false s.toList :=
  String.toList_ofList

theorem snakeCase_snakeCase (s : String) : snakeCase (snakeCase s) = snakeCase s := by
  rw [snakeCase, toList_snakeCase, snakeChars_snakeChars, snakeCase]

/-- A name in snake case is made run by run, which decides its characters, where it has underscores,
and which texts it is the name of. -/
theorem snakeCase_run_by_run (s t : String) :
    let name := (snakeCase s).toList
    name = ((runs s.toList).map snakeRun).flatten ∧
      (∀ c ∈ name, c.isLower = true ∨ c.isDigit = true ∨ c = '_') ∧
      ¬ ['_', '_'] <:+: name ∧
      (name.head? = some '_' ↔ ∃ c, s.toList.head? = some c ∧ isAlphanumeric c = false) ∧
      (name.getLast? = some '_' ↔ ∃ c, s.toList.getLast? = some c ∧ isAlphanumeric c = false) ∧
      snakeCase (snakeCase s) = snakeCase s ∧
      (snakeCase s = snakeCase t ↔ List.Forall₂ SameRun (runs s.toList) (runs t.toList)) := by
  intro name
  have hname : name = snakeChars false s.toList := toList_snakeCase s
  rw [hname]
  refine ⟨snakeChars_eq_runs _, fun c hc => isLower_of_mem_snakeChars hc,
    (singleGaps_snakeChars _).no_pair, head?_snakeChars _, getLast?_snakeChars _,
    snakeCase_snakeCase s, ?_⟩
  rw [snakeCase, snakeCase, String.ofList_inj, snakeChars_eq_iff]

example : snakeCase "Bag of  Holding!!" = "bag_of_holding_" := by decide

end Worldsmith.Text
