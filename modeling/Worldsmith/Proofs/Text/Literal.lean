import Worldsmith.Text.Quoted

namespace Worldsmith.Text

namespace Literal

/-- Characters that may stand in a line of source. A line break ends the line, and a zero stands in
no source. -/
def inLine (c : Char) : Bool := c != '\n' && c != '\r' && c != '\x00'

/-- Splits a text at the first quote without a backslash, which has to stand in the same line. The
backslash keeps the character behind it from ending anything. -/
def body? : List Char → Option (List Char × List Char)
  | [] => none
  | '"' :: cs => some ([], cs)
  | '\\' :: '\x00' :: _ => none
  | '\\' :: '\r' :: '\n' :: cs => (body? cs).map fun r => ('\\' :: '\r' :: '\n' :: r.1, r.2)
  | '\\' :: c :: cs => (body? cs).map fun r => ('\\' :: c :: r.1, r.2)
  | c :: cs => if inLine c then (body? cs).map fun r => (c :: r.1, r.2) else none

/-- What a text behind a backslash stands for, and what is left of it. -/
abbrev Escapes :=
  (cs : List Char) → Option (List Char × { rest : List Char // rest.length ≤ cs.length })

/-- What a body stands for, whatever the escapes are besides those of backslash and quote. -/
def value? (escapes : Escapes) : List Char → Option (List Char)
  | [] => some []
  | '\\' :: '\\' :: cs => (value? escapes cs).map ('\\' :: ·)
  | '\\' :: '"' :: cs => (value? escapes cs).map ('"' :: ·)
  | '\\' :: cs =>
    match escapes cs with
    | none => none
    | some (value, rest) => (value? escapes rest).map (value ++ ·)
  | c :: cs => (value? escapes cs).map (c :: ·)
termination_by cs => cs.length
decreasing_by
  all_goals simp only [List.length_cons]
  all_goals grind

/-- Reads a literal at the beginning of a text. Three quotes begin one of several lines. -/
def read? (escapes : Escapes) : List Char → Option (List Char × List Char)
  | '"' :: '"' :: '"' :: _ => none
  | '"' :: cs => (body? cs).bind fun r => (value? escapes r.1).map fun value => (value, r.2)
  | _ => none

variable {escapes : Escapes} {c : Char} {cs rest : List Char}

def IsEscaped (c : Char) : Prop := c = '\\' ∨ c = '"'

theorem IsEscaped.inLine (h : IsEscaped c) : inLine c = true := by
  rcases h with rfl | rfl <;> rfl

theorem escapeChars_escaped (h : IsEscaped c) (cs : List Char) :
    escapeChars (c :: cs) = '\\' :: c :: escapeChars cs := if_pos h

theorem escapeChars_plain (h : ¬ IsEscaped c) (cs : List Char) :
    escapeChars (c :: cs) = c :: escapeChars cs := if_neg h

theorem body?_escaped (h : IsEscaped c) (cs : List Char) :
    body? ('\\' :: c :: cs) = (body? cs).map fun r => ('\\' :: c :: r.1, r.2) := by
  rcases h with rfl | rfl <;> rfl

theorem body?_plain (h : ¬ IsEscaped c) (cs : List Char) :
    body? (c :: cs) = if inLine c then (body? cs).map fun r => (c :: r.1, r.2) else none := by
  rw [body?]
  · intro hc
    exact h (.inr hc)
  all_goals
    intros
    apply h
    apply Or.inl
    assumption

theorem value?_escaped (h : IsEscaped c) (cs : List Char) :
    value? escapes ('\\' :: c :: cs) = (value? escapes cs).map (c :: ·) := by
  rcases h with rfl | rfl <;> rw [value?]

theorem value?_plain (h : ¬ IsEscaped c) (cs : List Char) :
    value? escapes (c :: cs) = (value? escapes cs).map (c :: ·) := by
  rw [value?]
  all_goals
    intros
    apply h
    apply Or.inl
    assumption

theorem body?_escapeChars (cs rest : List Char) :
    body? (escapeChars cs ++ '"' :: rest) =
      if cs.all inLine then some (escapeChars cs, rest) else none := by
  induction cs with
  | nil => rfl
  | cons c cs ih =>
    rw [List.all_cons]
    by_cases hc : IsEscaped c
    · rw [escapeChars_escaped hc, List.cons_append, List.cons_append, body?_escaped hc, ih,
        hc.inLine, Bool.true_and]
      split <;> rfl
    · rw [escapeChars_plain hc, List.cons_append, body?_plain hc, ih]
      cases inLine c with
      | false => rfl
      | true =>
        rw [if_pos rfl, Bool.true_and]
        split <;> rfl

theorem value?_escapeChars (escapes : Escapes) (cs : List Char) :
    value? escapes (escapeChars cs) = some cs := by
  induction cs with
  | nil => rw [escapeChars, value?]
  | cons c cs ih =>
    by_cases hc : IsEscaped c
    · rw [escapeChars_escaped hc, value?_escaped hc, ih]
      rfl
    · rw [escapeChars_plain hc, value?_plain hc, ih]
      rfl

/-- An empty text is the only one with a second quote behind the first, and what follows it is no
third one. -/
theorem read?_quoteChars (h : rest.head? ≠ some '"') (cs : List Char) :
    read? escapes (quoteChars cs ++ rest) =
      (body? (escapeChars cs ++ '"' :: rest)).bind fun r =>
        (value? escapes r.1).map fun value => (value, r.2) := by
  have htext : quoteChars cs ++ rest = '"' :: (escapeChars cs ++ '"' :: rest) := by
    rw [quoteChars, List.cons_append, List.append_assoc]
    rfl
  rw [htext, read?]
  intro more hmore
  cases cs with
  | nil =>
    obtain ⟨-, rfl⟩ := List.cons.inj hmore
    exact h rfl
  | cons c cs =>
    by_cases hc : IsEscaped c
    · rw [escapeChars_escaped hc] at hmore
      cases hmore
    · rw [escapeChars_plain hc] at hmore
      exact hc (.inr (List.cons.inj hmore).1)

end Literal

open Literal (Escapes inLine)

/-- A quoted text is one literal, which stands for the text, if all of it may stand in a line. With
a line break in it, it is none. -/
theorem read?_quoted (escapes : Escapes) (s : String) {rest : List Char}
    (h : rest.head? ≠ some '"') :
    Literal.read? escapes ((quoted s).toList ++ rest) =
      if s.toList.all inLine then some (s.toList, rest) else none := by
  rw [quoted, String.toList_ofList, Literal.read?_quoteChars h, Literal.body?_escapeChars]
  split
  · rw [Option.bind_some, Literal.value?_escapeChars]
    rfl
  · rfl

/-- Escapes without a meaning of their own stay as they are written. -/
def keptEscapes : Escapes
  | [] => none
  | c :: cs => some (['\\', c], ⟨cs, Nat.le_succ _⟩)

theorem read?_quoted_sign :
    [','].head? ≠ some '"' ∧
      Literal.read? keptEscapes ((quoted "say \"hi\" \\o/").toList ++ [',']) =
        some ("say \"hi\" \\o/".toList, [',']) := by
  have hrest : [','].head? ≠ some '"' := by decide
  exact ⟨hrest, read?_quoted keptEscapes "say \"hi\" \\o/" hrest⟩

/-- A name with a line break in it makes a literal that does not end. -/
theorem quoted_break_unread :
    Literal.read? keptEscapes (quoted "Hangar\nEast").toList = none := by
  have hend : ([] : List Char).head? ≠ some '"' := by decide
  rw [quoted, String.toList_ofList, ← List.append_nil (quoteChars _),
    Literal.read?_quoteChars hend, Literal.body?_escapeChars]
  rfl

end Worldsmith.Text
