import Mathlib.Data.List.Forall2
import Worldsmith.Proofs.Json.Grammar
import Worldsmith.Proofs.Json.Scalars

namespace Worldsmith.Json

variable {n depth fuel : Nat} {first : Bool} {j : Json} {l : List Json}
  {fs fs' : List (String × Json)} {cs ws rest : List Char}

/-- The key of a field. A key of digits can also be read as a number. -/
structure Key.Names (key : Key) (k : String) : Prop where
  text : key.text = .ok k
  raw : (∀ c ∈ k.toList, c.isDigit = true) → ∃ rest, key.raw = k.toList ++ '"' :: rest

structure Ending.Sound (ending : Ending) : Prop where
  more : ending.more = none
  skipped : ending.skipped = none
  enough : ending.enough = none

/-- A draft without faults, of a value with its fields in any order. -/
inductive Holds : Json → Draft → Prop
  | null : Holds null .null
  | bool (b : Bool) : Holds (bool b) (.bool b)
  | num (n : Number) : Holds (num n) (.num (.ok n))
  | str (s : String) : Holds (str s) (.str (.ok s))
  | arr {l : List Json} {items : List Draft} {ending : Ending} :
    List.Forall₂ Holds l items → ending.Sound → Holds (arr l) (.arr items ending)
  | obj {fs fs' : List (String × Json)} {es : List (Key × Draft)} {ending : Ending} :
    fs.Perm fs' → List.Forall₂ (fun f e => e.1.Names f.1) fs' es →
    List.Forall₂ (fun f e => Holds f.2 e.2) fs' es → ending.Sound → Holds (obj fs) (.obj es ending)

theorem Ending.Sound.closed : Ending.closed.Sound := ⟨rfl, rfl, rfl⟩

def HoldsField (f : String × Json) (e : Key × Draft) : Prop := e.1.Names f.1 ∧ Holds f.2 e.2

theorem Holds.ofFields {es : List (Key × Draft)} {ending : Ending} (hp : fs.Perm fs')
    (h : List.Forall₂ HoldsField fs' es) (he : ending.Sound) :
    Holds (.obj fs) (.obj es ending) :=
  .obj hp (h.imp fun _ _ hf => hf.1) (h.imp fun _ _ hf => hf.2) he

theorem Holds.fields {d : Draft} (h : Holds (.obj fs) d) : ∃ es ending fs', d = .obj es ending ∧
    fs.Perm fs' ∧ List.Forall₂ HoldsField fs' es ∧ ending.Sound := by
  cases h with
  | obj hp hnames hvalues he =>
    refine ⟨_, _, _, rfl, hp, ?_, he⟩
    clear hp
    induction hnames with
    | nil => exact .nil
    | cons hname _ ih =>
      cases hvalues with
      | cons hvalue hvalues => exact .cons ⟨hname, hvalue⟩ (ih hvalues)

mutual

theorem holds_ofJson (j : Json) : Holds j (Draft.ofJson j) := by
  match j with
  | .null => exact .null
  | .bool b => exact .bool b
  | .num n => exact .num n
  | .str s => exact .str s
  | .arr l => exact .arr (holds_ofItems l) ⟨rfl, rfl, rfl⟩
  | .obj fs => exact .ofFields (.refl _) (holds_ofFields fs) .closed

theorem holds_ofItems (l : List Json) : List.Forall₂ Holds l (Draft.ofItems l) := by
  match l with
  | [] => exact .nil
  | x :: l => exact .cons (holds_ofJson x) (holds_ofItems l)

theorem holds_ofFields (fs : List (String × Json)) :
    List.Forall₂ HoldsField fs (Draft.ofFields fs) := by
  match fs with
  | [] => exact .nil
  | (k, x) :: fs =>
    exact .cons ⟨⟨rfl, fun _ => ⟨[], rfl⟩⟩, holds_ofJson x⟩ (holds_ofFields fs)

end

/-- Integers of 64 bits are its only numbers, and its containers are nested `n` deep at most. -/
inductive Plain : Nat → Json → Prop
  | null {n : Nat} : Plain n null
  | bool {n : Nat} (b : Bool) : Plain n (bool b)
  | int {n : Nat} {z : Int} : Exact z → Plain n (int z)
  | str {n : Nat} (s : String) : Plain n (str s)
  | arr {n : Nat} {l : List Json} : (∀ x ∈ l, Plain n x) → Plain (n + 1) (arr l)
  | obj {n : Nat} {fs : List (String × Json)} : (∀ f ∈ fs, Plain n f.2) → Plain (n + 1) (obj fs)

theorem skipBlanks_append (h : Blank ws) (cs : List Char) :
    skipBlanks (ws ++ cs) = skipBlanks cs := by
  rw [skipBlanks, List.dropWhile_append_of_pos h, skipBlanks]

theorem skipBlanks_cons {c : Char} (h : isBlank c = false) (cs : List Char) :
    skipBlanks (c :: cs) = c :: cs := by
  rw [skipBlanks, List.dropWhile_cons_of_neg (by simp [h])]

theorem readValue_blanks (h : Blank ws) (cs : List Char) :
    readValue fuel depth (ws ++ cs) = readValue fuel depth cs := by
  cases fuel with
  | zero => rfl
  | succ fuel => rw [readValue, readValue, skipBlanks_append h]

def Opens (cs : List Char) : Prop :=
  ∃ c more, cs = c :: more ∧ isBlank c = false ∧ c ≠ ']'

theorem ne_of_startsNumber {c : Char} (h : c = '-' ∨ c.isDigit = true) (d : Char)
    (hminus : d ≠ '-') (hdigit : d.isDigit = false) : c ≠ d := by
  rintro rfl
  rcases h with rfl | h
  · exact hminus rfl
  · exact Bool.false_ne_true (hdigit.symm.trans h)

theorem isBlank_of_startsNumber {c : Char} (h : c = '-' ∨ c.isDigit = true) :
    isBlank c = false := by
  have hspace := ne_of_startsNumber h ' ' (by decide) (by decide)
  have hline := ne_of_startsNumber h '\n' (by decide) (by decide)
  have htab := ne_of_startsNumber h '\t' (by decide) (by decide)
  have hreturn := ne_of_startsNumber h '\r' (by decide) (by decide)
  simp [isBlank, hspace, hline, htab, hreturn]

theorem readValue_number {c : Char} (h : c = '-' ∨ c.isDigit = true) (cs : List Char) :
    readValue (fuel + 1) depth (c :: cs) = readNumber (c :: cs) := by
  have hne {d : Char} {more : List Char} (heq : c :: cs = d :: more) (hminus : d ≠ '-')
      (hdigit : d.isDigit = false) : False :=
    ne_of_startsNumber h d hminus hdigit (List.cons.inj heq).1
  rw [readValue.eq_def]
  simp only [skipBlanks_cons (isBlank_of_startsNumber h)]
  split
  · next heq => cases heq
  · next heq => exact (hne heq (by decide) (by decide)).elim
  · next heq => exact (hne heq (by decide) (by decide)).elim
  · next heq => exact (hne heq (by decide) (by decide)).elim
  · next heq => exact (hne heq (by decide) (by decide)).elim
  · next heq => exact (hne heq (by decide) (by decide)).elim
  · next heq => exact (hne heq (by decide) (by decide)).elim
  · next heq =>
    obtain ⟨rfl, rfl⟩ := List.cons.inj heq
    rw [if_pos h]

theorem Spells.opens (h : Spells j cs) (hp : Plain n j) : Opens cs := by
  cases h with
  | null => exact ⟨_, _, rfl, rfl, by decide⟩
  | true => exact ⟨_, _, rfl, rfl, by decide⟩
  | false => exact ⟨_, _, rfl, rfl, by decide⟩
  | str s => exact ⟨_, _, rfl, rfl, by decide⟩
  | arr h => exact ⟨_, _, rfl, rfl, by decide⟩
  | obj hp h => exact ⟨_, _, rfl, rfl, by decide⟩
  | num k =>
    cases hp with
    | @int n z hz =>
      obtain ⟨c, more, htext, hc⟩ := exists_toString_cons z
      exact ⟨c, more, htext, isBlank_of_startsNumber hc,
        ne_of_startsNumber hc ']' (by decide) (by decide)⟩

theorem readItems_close (hw : Blank ws) :
    readItems (fuel + 1) depth first (ws ++ ']' :: rest) = ([], .closed, some rest) := by
  have hskip : skipBlanks (ws ++ ']' :: rest) = ']' :: rest := by
    rw [skipBlanks_append hw, skipBlanks_cons (by decide)]
  simp only [readItems, hskip]

theorem readItems_step {ws' more : List Char} {d : Draft} {ds : List Draft} {ending : Ending}
    {left : Option (List Char)} (hw : Blank ws) (hw' : Blank ws') (ho : Opens cs)
    (hv : readValue fuel depth cs = (d, some more))
    (hm : readItems fuel depth false more = (ds, ending, left)) :
    readItems (fuel + 1) depth first (ws ++ (comma first ++ (ws' ++ cs))) =
      (d :: ds, ending, left) := by
  obtain ⟨c, cs, rfl, hc, hne⟩ := ho
  have hitem : skipBlanks (ws' ++ c :: cs) = c :: cs := by
    rw [skipBlanks_append hw', skipBlanks_cons hc]
  cases first with
  | true =>
    have hskip : skipBlanks (ws ++ (comma true ++ (ws' ++ c :: cs))) = c :: cs := by
      rw [skipBlanks_append hw, comma, List.nil_append, hitem]
    simp [readItems, hskip, hne, hv, hm]
  | false =>
    have hskip : skipBlanks (ws ++ (comma false ++ (ws' ++ c :: cs))) =
        ',' :: (ws' ++ c :: cs) := by
      rw [skipBlanks_append hw, comma, List.singleton_append, skipBlanks_cons (by decide)]
    simp [readItems, hskip, hitem, hne, hv, hm]

theorem readEntries_close (hw : Blank ws) :
    readEntries (fuel + 1) depth first (ws ++ '}' :: rest) = ([], .closed, some rest) := by
  have hskip : skipBlanks (ws ++ '}' :: rest) = '}' :: rest := by
    rw [skipBlanks_append hw, skipBlanks_cons (by decide)]
  simp only [readEntries, hskip]

theorem readEntries_step {ws' before more : List Char} {d : Draft} {es : List (Key × Draft)}
    {ending : Ending} {left : Option (List Char)} (k : String) (hw : Blank ws) (hw' : Blank ws')
    (hb : Blank before) (hv : readValue fuel depth cs = (d, some more))
    (hm : readEntries fuel depth false more = (es, ending, left)) :
    ∃ key : Key, key.Names k ∧
      readEntries (fuel + 1) depth first
        (ws ++ (comma first ++ (ws' ++ (quote k ++ (before ++ ':' :: cs))))) =
      ((key, d) :: es, ending, left) := by
  let raw := k.toList.flatMap escape ++ '"' :: (before ++ ':' :: cs)
  have hkey : readString raw = ⟨.ok k, .ok (before ++ ':' :: cs)⟩ := readString_escape k _
  have hcolon : skipBlanks (before ++ ':' :: cs) = ':' :: cs := by
    rw [skipBlanks_append hb, skipBlanks_cons (by decide)]
  have hquote : quote k ++ (before ++ ':' :: cs) = '"' :: raw := by
    rw [quote, List.cons_append, List.append_assoc, List.singleton_append]
  have hentry : skipBlanks (ws' ++ '"' :: raw) = '"' :: raw := by
    rw [skipBlanks_append hw', skipBlanks_cons (by decide)]
  refine ⟨⟨.ok k, raw⟩, ⟨rfl, ?_⟩, ?_⟩
  · intro hdigits
    exact ⟨_, congrArg (· ++ _) (flatMap_escape_digits hdigits)⟩
  rw [hquote]
  cases first with
  | true =>
    have hskip : skipBlanks (ws ++ (comma true ++ (ws' ++ '"' :: raw))) = '"' :: raw := by
      rw [skipBlanks_append hw, comma, List.nil_append, hentry]
    simp [readEntries, hskip, hkey, hcolon, hv, hm]
  | false =>
    have hskip : skipBlanks (ws ++ (comma false ++ (ws' ++ '"' :: raw))) =
        ',' :: (ws' ++ '"' :: raw) := by
      rw [skipBlanks_append hw, comma, List.singleton_append, skipBlanks_cons (by decide)]
    simp [readEntries, hskip, hentry, hkey, hcolon, hv, hm]

theorem endsNumber_append {more : List Char} {c : Char} (hw : Blank ws)
    (hc : c.isDigit = false ∧ c ≠ '.' ∧ c ≠ 'e' ∧ c ≠ 'E') : EndsNumber (ws ++ c :: more) := by
  intro d hd
  cases ws with
  | nil =>
    cases hd
    exact hc
  | cons b ws =>
    cases hd
    have hblank : ((d = ' ' ∨ d = '\n') ∨ d = '\t') ∨ d = '\r' := by
      simpa [isBlank] using hw d List.mem_cons_self
    rcases hblank with ((rfl | rfl) | rfl) | rfl <;> decide

theorem SpellsItems.endsNumber (h : SpellsItems false l cs) (rest : List Char) :
    EndsNumber (cs ++ rest) := by
  cases h with
  | close hw =>
    rw [List.append_assoc]
    exact endsNumber_append hw (by decide)
  | cons hw hw' hx hl =>
    rw [List.append_assoc]
    exact endsNumber_append hw (by decide)

theorem SpellsItems.length_pos (h : SpellsItems false l cs) : 0 < cs.length := by
  cases h <;> simp only [comma, List.length_append, List.length_singleton] <;> omega

theorem SpellsFields.endsNumber (h : SpellsFields false fs cs) (rest : List Char) :
    EndsNumber (cs ++ rest) := by
  cases h with
  | close hw =>
    rw [List.append_assoc]
    exact endsNumber_append hw (by decide)
  | cons hw hw' hb ha hx hl =>
    rw [List.append_assoc]
    exact endsNumber_append hw (by decide)

theorem readValue_str (s : String) (rest : List Char) :
    readValue (fuel + 1) depth (quote s ++ rest) = (.str (.ok s), some rest) := by
  have hquote : quote s ++ rest = '"' :: (s.toList.flatMap escape ++ '"' :: rest) := by
    rw [quote, List.cons_append, List.append_assoc, List.singleton_append]
  rw [hquote, readValue]
  simp [skipBlanks_cons (show isBlank '"' = false by decide), readString_escape]

theorem readValue_int {z : Int} (hz : Exact z) (h : EndsNumber rest) :
    readValue (fuel + 1) depth ((toString z).toList ++ rest) =
      (.num (.ok (.int z)), some rest) := by
  obtain ⟨c, more, htext, hc⟩ := exists_toString_cons z
  have hread := readNumber_int hz h
  rw [htext, List.cons_append] at hread ⊢
  rw [readValue_number hc, hread]

theorem readValue_arr {ds : List Draft} (hdepth : depth < maxDepth)
    (h : readItems fuel (depth + 1) true cs = (ds, .closed, some rest)) :
    readValue (fuel + 1) depth ('[' :: cs) = (.arr ds .closed, some rest) := by
  have hskip : skipBlanks ('[' :: cs) = '[' :: cs := skipBlanks_cons (by decide) cs
  simp [readValue, hskip, h, hdepth]

theorem readValue_obj {es : List (Key × Draft)} (hdepth : depth < maxDepth)
    (h : readEntries fuel (depth + 1) true cs = (es, .closed, some rest)) :
    readValue (fuel + 1) depth ('{' :: cs) = (.obj es .closed, some rest) := by
  have hskip : skipBlanks ('{' :: cs) = '{' :: cs := skipBlanks_cons (by decide) cs
  simp [readValue, hskip, h, hdepth]

theorem Opens.append (h : Opens cs) (more : List Char) : Opens (cs ++ more) := by
  obtain ⟨c, cs, rfl, hc⟩ := h
  exact ⟨c, cs ++ more, rfl, hc⟩

theorem Opens.length_pos (h : Opens cs) : 0 < cs.length := by
  obtain ⟨c, more, rfl, -⟩ := h
  exact Nat.succ_pos _

mutual

/-- A text of a value is read to a draft of it. -/
theorem readValue_spells {j : Json} {cs : List Char} (fuel depth n : Nat) (rest : List Char)
    (h : Spells j cs) (hp : Plain n j) (hdepth : depth + n ≤ maxDepth)
    (hfuel : 2 * cs.length ≤ fuel) (hrest : EndsNumber rest) :
    ∃ d, readValue fuel depth (cs ++ rest) = (d, some rest) ∧ Holds j d := by
  have hpos := (h.opens hp).length_pos
  obtain ⟨fuel, rfl⟩ : ∃ f, fuel = f + 1 := ⟨fuel - 1, by omega⟩
  cases h with
  | null => exact ⟨_, rfl, .null⟩
  | true => exact ⟨_, rfl, .bool true⟩
  | false => exact ⟨_, rfl, .bool false⟩
  | str s => exact ⟨_, readValue_str s rest, .str s⟩
  | num k =>
    cases hp with
    | @int n z hz => exact ⟨_, readValue_int hz hrest, .num (.int z)⟩
  | arr h =>
    cases hp with
    | @arr n l hp =>
      have hfuel : 2 * _ ≤ fuel := Nat.le_of_succ_le_succ (Nat.le_of_succ_le hfuel)
      obtain ⟨ds, hread, hds⟩ := readItems_spells fuel (depth + 1) n rest h hp (by omega) hfuel
      exact ⟨_, readValue_arr (by omega) hread, .arr hds .closed⟩
  | obj hperm h =>
    cases hp with
    | @obj n fs hp =>
      have hfuel : 2 * _ ≤ fuel := Nat.le_of_succ_le_succ (Nat.le_of_succ_le hfuel)
      obtain ⟨es, hread, hes⟩ := readEntries_spells fuel (depth + 1) n rest h
        (fun f hf => hp f (hperm.mem_iff.2 hf)) (by omega) hfuel
      exact ⟨_, readValue_obj (by omega) hread, .ofFields hperm hes .closed⟩
termination_by fuel

theorem readItems_spells {first : Bool} {l : List Json} {cs : List Char} (fuel depth n : Nat)
    (rest : List Char) (h : SpellsItems first l cs) (hp : ∀ x ∈ l, Plain n x)
    (hdepth : depth + n ≤ maxDepth) (hfuel : 2 * cs.length ≤ fuel) :
    ∃ ds, readItems fuel depth first (cs ++ rest) = (ds, .closed, some rest) ∧
      List.Forall₂ Holds l ds := by
  cases h with
  | @close _ ws hw =>
    rw [List.length_append, List.length_singleton] at hfuel
    obtain ⟨fuel, rfl⟩ : ∃ f, fuel = f + 1 := ⟨fuel - 1, by omega⟩
    rw [List.append_assoc]
    exact ⟨[], readItems_close hw, .nil⟩
  | @cons _ x l ws ws' cs more hw hw' hx hl =>
    have hplain := hp x List.mem_cons_self
    have hpos := (hx.opens hplain).length_pos
    have hmore := hl.length_pos
    simp only [List.length_append] at hfuel
    obtain ⟨fuel, rfl⟩ : ∃ f, fuel = f + 1 := ⟨fuel - 1, by omega⟩
    obtain ⟨d, hread, hd⟩ := readValue_spells fuel depth n (more ++ rest) hx hplain hdepth (by omega)
      (hl.endsNumber rest)
    obtain ⟨ds, hmore, hds⟩ := readItems_spells fuel depth n rest hl
      (fun y hy => hp y (List.mem_cons_of_mem _ hy)) hdepth (by omega)
    refine ⟨d :: ds, ?_, .cons hd hds⟩
    simp only [List.append_assoc]
    exact readItems_step hw hw' ((hx.opens hplain).append _) hread hmore
termination_by fuel

theorem readEntries_spells {first : Bool} {fs : List (String × Json)} {cs : List Char}
    (fuel depth n : Nat) (rest : List Char) (h : SpellsFields first fs cs)
    (hp : ∀ f ∈ fs, Plain n f.2) (hdepth : depth + n ≤ maxDepth) (hfuel : 2 * cs.length ≤ fuel) :
    ∃ es, readEntries fuel depth first (cs ++ rest) = (es, .closed, some rest) ∧
      List.Forall₂ HoldsField fs es := by
  cases h with
  | @close _ ws hw =>
    rw [List.length_append, List.length_singleton] at hfuel
    obtain ⟨fuel, rfl⟩ : ∃ f, fuel = f + 1 := ⟨fuel - 1, by omega⟩
    rw [List.append_assoc]
    exact ⟨[], readEntries_close hw, .nil⟩
  | @cons _ k x fs ws ws' before after cs more hw hw' hb ha hx hl =>
    simp only [List.length_append, List.length_cons] at hfuel
    obtain ⟨fuel, rfl⟩ : ∃ f, fuel = f + 1 := ⟨fuel - 1, by omega⟩
    obtain ⟨d, hread, hd⟩ := readValue_spells fuel depth n (more ++ rest) hx
      (hp (k, x) List.mem_cons_self) hdepth (by omega) (hl.endsNumber rest)
    obtain ⟨es, hmore, hes⟩ := readEntries_spells fuel depth n rest hl
      (fun f hf => hp f (List.mem_cons_of_mem _ hf)) hdepth (by omega)
    rw [← readValue_blanks ha] at hread
    obtain ⟨key, hkey, hentries⟩ := readEntries_step k hw hw' hb hread hmore
    refine ⟨(key, d) :: es, ?_, .cons ⟨hkey, hd⟩ hes⟩
    simp only [List.append_assoc, List.cons_append]
    exact hentries
termination_by fuel

end

/-- A reader gets from a text of a value what it gets from every draft of it. -/
theorem readWith_spells {α : Type} {reader : Draft → Except Fault α} {a : α} (h : Spells j cs)
    (hp : Plain maxDepth j) (ha : ∀ d, Holds j d → reader d = .ok a) :
    readWith reader (String.ofList cs) = .ok a := by
  have hend : EndsNumber [] := by
    intro c hc
    cases hc
  obtain ⟨d, hread, hd⟩ := readValue_spells (2 * cs.length + 2) 0 maxDepth [] h hp (by omega)
    (by omega) hend
  rw [List.append_nil] at hread
  rw [readWith, String.toList_ofList, hread]
  simp only [ha d hd]
  rfl

end Worldsmith.Json
