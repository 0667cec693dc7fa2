import Worldsmith.Json.Printer
import Worldsmith.Json.Reader

namespace Worldsmith.Json

def Blank (cs : List Char) : Prop := ∀ c ∈ cs, isBlank c = true

/-- What stands between an element and the one in front of it, which the first one lacks. -/
def comma : Bool → List Char
  | true => []
  | false => [',']

mutual

inductive Spells : Json → List Char → Prop
  | null : Spells null ['n', 'u', 'l', 'l']
  | true : Spells (bool true) ['t', 'r', 'u', 'e']
  | false : Spells (bool false) ['f', 'a', 'l', 's', 'e']
  | num (n : Number) : Spells (num n) n.text
  | str (s : String) : Spells (str s) (quote s)
  | arr {l : List Json} {cs : List Char} : SpellsItems true l cs → Spells (arr l) ('[' :: cs)
  | obj {fs fs' : List (String × Json)} {cs : List Char} :
    fs.Perm fs' → SpellsFields true fs' cs → Spells (obj fs) ('{' :: cs)

/-- A text of the elements that are left, up to the end of the array. -/
inductive SpellsItems : Bool → List Json → List Char → Prop
  | close {first : Bool} {ws : List Char} : Blank ws → SpellsItems first [] (ws ++ [']'])
  | cons {first : Bool} {x : Json} {l : List Json} {ws ws' cs more : List Char} :
    Blank ws → Blank ws' → Spells x cs → SpellsItems false l more →
    SpellsItems first (x :: l) (ws ++ (comma first ++ (ws' ++ (cs ++ more))))

/-- A text of the fields that are left, up to the end of the object. -/
inductive SpellsFields : Bool → List (String × Json) → List Char → Prop
  | close {first : Bool} {ws : List Char} : Blank ws → SpellsFields first [] (ws ++ ['}'])
  | cons {first : Bool} {k : String} {x : Json} {fs : List (String × Json)}
      {ws ws' before after cs more : List Char} :
    Blank ws → Blank ws' → Blank before → Blank after → Spells x cs → SpellsFields false fs more →
    SpellsFields first ((k, x) :: fs)
      (ws ++ (comma first ++ (ws' ++ (quote k ++ (before ++ ':' :: (after ++ (cs ++ more)))))))

end

theorem Blank.nil : Blank [] := by
  intro c hc
  cases hc

theorem Blank.space : Blank [' '] := by
  intro c hc
  rw [List.mem_singleton] at hc
  subst hc
  rfl

theorem Blank.newline (depth : Nat) : Blank (newline depth) := by
  intro c hc
  rcases List.mem_cons.1 hc with rfl | hc
  · rfl
  · rw [List.eq_of_mem_replicate hc]
    rfl

mutual

theorem spells_compactChars (j : Json) : Spells j j.compactChars := by
  match j with
  | .null => exact .null
  | .bool true => exact .true
  | .bool false => exact .false
  | .num n => exact .num n
  | .str s => exact .str s
  | .arr [] => exact .arr (.close .nil)
  | .arr (x :: l) =>
    exact .arr (.cons .nil .nil (spells_compactChars x) (spells_compactItems l))
  | .obj [] => exact .obj (.refl _) (.close .nil)
  | .obj ((k, x) :: fs) =>
    refine .obj (.refl _) ?_
    exact .cons .nil .nil .nil .nil (spells_compactChars x) (spells_compactFields fs)

theorem spells_compactItems (l : List Json) : SpellsItems false l (compactItems l) := by
  match l with
  | [] => exact .close .nil
  | x :: l => exact .cons .nil .nil (spells_compactChars x) (spells_compactItems l)

theorem spells_compactFields (fs : List (String × Json)) :
    SpellsFields false fs (compactFields fs) := by
  match fs with
  | [] => exact .close .nil
  | (k, x) :: fs =>
    exact .cons .nil .nil .nil .nil (spells_compactChars x) (spells_compactFields fs)

end

mutual

theorem spells_prettyChars (depth : Nat) (j : Json) : Spells j (prettyChars depth j) := by
  match j with
  | .null => exact spells_compactChars .null
  | .bool b => exact spells_compactChars (.bool b)
  | .num n => exact spells_compactChars (.num n)
  | .str s => exact spells_compactChars (.str s)
  | .arr [] => exact .arr (.close .nil)
  | .arr (x :: l) =>
    rw [prettyChars, List.append_assoc]
    apply Spells.arr
    exact .cons .nil (.newline _) (spells_prettyChars _ x) (spells_prettyItems depth l)
  | .obj [] => exact .obj (.refl _) (.close .nil)
  | .obj ((k, x) :: fs) =>
    simp only [prettyChars, List.append_assoc]
    apply Spells.obj (.refl _)
    exact .cons .nil (.newline _) .nil .space (spells_prettyChars _ x)
      (spells_prettyFields depth fs)

theorem spells_prettyItems (depth : Nat) (l : List Json) :
    SpellsItems false l (prettyItems depth l) := by
  match l with
  | [] => exact .close (.newline depth)
  | x :: l =>
    rw [prettyItems, List.append_assoc]
    exact .cons .nil (.newline _) (spells_prettyChars _ x) (spells_prettyItems depth l)

theorem spells_prettyFields (depth : Nat) (fs : List (String × Json)) :
    SpellsFields false fs (prettyFields depth fs) := by
  match fs with
  | [] => exact .close (.newline depth)
  | (k, x) :: fs =>
    simp only [prettyFields, List.append_assoc]
    exact .cons .nil (.newline _) .nil .space (spells_prettyChars _ x)
      (spells_prettyFields depth fs)

end

theorem spells_render (j : Json) (style : Style) : Spells j (j.render style).toList := by
  cases style with
  | pretty =>
    rw [render, pretty, String.toList_ofList]
    exact spells_prettyChars 0 j
  | compact =>
    rw [render, compact, String.toList_ofList]
    exact spells_compactChars j

end Worldsmith.Json
