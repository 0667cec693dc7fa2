import Worldsmith.Text.Case

namespace Worldsmith.Text

variable {c : Char} {cs ds : List Char} {s t item : String} {afterGap atStart : Bool}

theorem isAlphanumeric_toLower (h : isAlphanumeric c = true) :
    isAlphanumeric c.toLower = true := by
  delta isAlphanumeric Char.isAlpha Char.isUpper Char.isLower Char.isDigit Char.toLower at h ⊢
  simp only [Bool.or_eq_true, Bool.and_eq_true, decide_eq_true_eq] at h ⊢
  split <;> grind [UInt32.toNat_add]

theorem isDigit_toLower (c : Char) : c.toLower.isDigit = c.isDigit := by
  rw [Bool.eq_iff_iff]
  delta Char.isDigit Char.toLower
  simp only [Bool.and_eq_true, decide_eq_true_eq]
  split <;> grind [UInt32.toNat_add]

theorem isAlpha_toUpper (h : c.isAlpha = true) : c.toUpper.isAlpha = true := by
  delta Char.isAlpha Char.isUpper Char.isLower Char.toUpper at h ⊢
  simp only [Bool.or_eq_true, Bool.and_eq_true, decide_eq_true_eq] at h ⊢
  split <;> grind [UInt32.toNat_add]

theorem not_isDigit_of_isAlpha (h : c.isAlpha = true) : c.isDigit = false := by
  rw [Bool.eq_false_iff]
  delta Char.isAlpha Char.isUpper Char.isLower Char.isDigit at h ⊢
  simp only [Bool.or_eq_true, Bool.and_eq_true, decide_eq_true_eq] at h ⊢
  grind

theorem not_isDigit_of_separator (h : isAlphanumeric c = false) : c.isDigit = false :=
  (Bool.or_eq_false_iff.1 h).2

def isWordChar (c : Char) : Bool := isAlphanumeric c || c = '_'

def IsWord (s : String) : Prop := ∀ c ∈ s.toList, isWordChar c = true

def startsWithDigit (s : String) : Bool := s.toList.head?.any Char.isDigit

def readsDigitFirst (s : String) : Bool := (s.toList.find? isAlphanumeric).any Char.isDigit

/-- A text that may be a name in code. -/
structure IsIdentifier (s : String) : Prop where
  nonempty : s ≠ ""
  word : IsWord s
  start : startsWithDigit s = false

theorem IsWord.append (hs : IsWord s) (ht : IsWord t) : IsWord (s ++ t) := by
  rw [IsWord, String.toList_append, List.forall_mem_append]
  exact ⟨hs, ht⟩

theorem IsWord.of_chars (h : s = String.ofList cs) (hcs : cs.all isWordChar = true) : IsWord s := by
  rw [IsWord, h, String.toList_ofList]
  exact List.all_eq_true.1 hcs

theorem isIdentifier_iff (hne : s ≠ "") (hword : IsWord s) :
    IsIdentifier s ↔ startsWithDigit s = false :=
  ⟨fun h => h.start, fun h => ⟨hne, hword, h⟩⟩

theorem startsWithDigit_append (ht : startsWithDigit t = false) :
    startsWithDigit (s ++ t) = startsWithDigit s := by
  rw [startsWithDigit, String.toList_append]
  cases hs : s.toList with
  | nil => rw [List.nil_append, ← startsWithDigit, ht, startsWithDigit, hs]; rfl
  | cons c cs => rw [startsWithDigit, hs]; rfl

theorem snakeChars_word : ∀ c ∈ snakeChars afterGap cs, isWordChar c = true := by
  induction cs generalizing afterGap with
  | nil => exact List.forall_mem_nil _
  | cons c cs ih =>
    rw [snakeChars]
    split
    · next h =>
      have hword : isWordChar c.toLower = true := by
        rw [isWordChar, isAlphanumeric_toLower h, Bool.true_or]
      exact List.forall_mem_cons.2 ⟨hword, ih⟩
    · split
      · exact ih
      · exact List.forall_mem_cons.2 ⟨by decide, ih⟩

theorem isWord_snakeCase (s : String) : IsWord (snakeCase s) := by
  rw [IsWord, snakeCase, String.toList_ofList]
  exact snakeChars_word

theorem startsWithDigit_snakeCase (s : String) :
    startsWithDigit (snakeCase s) = startsWithDigit s := by
  rw [startsWithDigit, startsWithDigit, snakeCase, String.toList_ofList]
  cases s.toList with
  | nil => rfl
  | cons c cs =>
    rw [snakeChars]
    cases h : isAlphanumeric c with
    | true => exact isDigit_toLower c
    | false => exact (not_isDigit_of_separator h).symm

theorem find?_snakeChars :
    (snakeChars afterGap cs).find? isAlphanumeric = (cs.find? isAlphanumeric).map Char.toLower := by
  induction cs generalizing afterGap with
  | nil => rfl
  | cons c cs ih =>
    rw [snakeChars]
    cases h : isAlphanumeric c with
    | true =>
      rw [if_pos rfl, List.find?_cons_of_pos (isAlphanumeric_toLower h), List.find?_cons_of_pos h]
      rfl
    | false =>
      rw [if_neg Bool.false_ne_true, List.find?_cons_of_neg (Bool.eq_false_iff.1 h)]
      split
      · exact ih
      · rw [List.find?_cons_of_neg (by decide), ih]

theorem classChars_alphanumeric : ∀ c ∈ classChars atStart cs, isAlphanumeric c = true := by
  induction cs generalizing atStart with
  | nil => exact List.forall_mem_nil _
  | cons c cs ih =>
    rw [classChars]
    split
    · next h =>
      have hc : isAlphanumeric c = true := by rw [isAlphanumeric, h, Bool.or_true]
      exact List.forall_mem_cons.2 ⟨hc, ih⟩
    · split
      · next h =>
        have hc : isAlphanumeric (if atStart then c.toUpper else c) = true := by
          rw [isAlphanumeric]
          cases atStart with
          | true => rw [if_pos rfl, isAlpha_toUpper h, Bool.true_or]
          | false => rw [if_neg Bool.false_ne_true, h, Bool.true_or]
        exact List.forall_mem_cons.2 ⟨hc, ih⟩
      · exact ih

theorem isWord_className (s : String) : IsWord (className s) := by
  rw [IsWord, className, String.toList_ofList]
  intro c hc
  rw [isWordChar, classChars_alphanumeric c hc, Bool.true_or]

theorem classChars_append (hc : isAlphanumeric c = false) : classChars atStart (cs ++ c :: ds) =
    classChars atStart cs ++ classChars true ds := by
  induction cs generalizing atStart with
  | nil =>
    obtain ⟨halpha, hdigit⟩ := Bool.or_eq_false_iff.1 hc
    change classChars atStart (c :: ds) = classChars true ds
    rw [classChars, hdigit, halpha]
    rfl
  | cons d cs ih =>
    rw [List.cons_append, classChars, classChars]
    split
    · exact congrArg _ ih
    · split
      · exact congrArg _ ih
      · exact ih

theorem classChars_digits (h : ∀ c ∈ cs, c.isDigit = true) : classChars atStart cs = cs := by
  induction cs generalizing atStart with
  | nil => rfl
  | cons c cs ih =>
    obtain ⟨hc, hcs⟩ := List.forall_mem_cons.1 h
    rw [classChars, if_pos hc, ih hcs]

theorem className_append (s t : String) :
    className (s ++ "_" ++ t) = className s ++ className t := by
  rw [className, String.append_assoc, String.toList_append, String.toList_append]
  change String.ofList (classChars true (s.toList ++ '_' :: t.toList)) = _
  rw [classChars_append (by decide), String.ofList_append]
  rfl

theorem head?_classChars (atStart : Bool) (cs : List Char) :
    (classChars atStart cs).head?.any Char.isDigit = (cs.find? isAlphanumeric).any Char.isDigit := by
  induction cs generalizing atStart with
  | nil => rfl
  | cons c cs ih =>
    rw [classChars]
    cases hdigit : c.isDigit with
    | true =>
      have hc : isAlphanumeric c = true := by rw [isAlphanumeric, hdigit, Bool.or_true]
      rw [if_pos rfl, List.find?_cons_of_pos hc]
      rfl
    | false =>
      rw [if_neg Bool.false_ne_true]
      cases halpha : c.isAlpha with
      | true =>
        have hc : isAlphanumeric c = true := by rw [isAlphanumeric, halpha, Bool.true_or]
        rw [if_pos rfl, List.find?_cons_of_pos hc]
        cases atStart with
        | true => exact (not_isDigit_of_isAlpha (isAlpha_toUpper halpha)).trans hdigit.symm
        | false => rfl
      | false =>
        have hc : ¬ isAlphanumeric c = true := by simp [isAlphanumeric, halpha, hdigit]
        rw [if_neg Bool.false_ne_true, List.find?_cons_of_neg hc]
        exact ih true

theorem startsWithDigit_className (s : String) :
    startsWithDigit (className (snakeCase s)) = readsDigitFirst s := by
  rw [startsWithDigit, className, String.toList_ofList, head?_classChars, snakeCase,
    String.toList_ofList, find?_snakeChars, readsDigitFirst]
  cases s.toList.find? isAlphanumeric with
  | none => rfl
  | some c => exact isDigit_toLower c

theorem isDigit_of_mem_repr {n : Nat} {c : Char} (h : c ∈ (Nat.repr n).toList) :
    c.isDigit = true := by
  rw [Nat.toList_repr] at h
  exact Nat.isDigit_of_mem_toDigits (b := 10) (by decide) (by decide) h

theorem isWord_repr (n : Nat) : IsWord (Nat.repr n) := by
  intro c hc
  rw [isWordChar, isAlphanumeric, isDigit_of_mem_repr hc, Bool.or_true, Bool.true_or]

def front (s : String) : List Char := (className s).toList.take 2

def back (s : String) : Option Char := (className s).toList.getLast?

theorem exists_classChars_append (atStart : Bool) (cs ds : List Char) :
    ∃ b, classChars atStart (cs ++ ds) = classChars atStart cs ++ classChars b ds := by
  induction cs generalizing atStart with
  | nil => exact ⟨atStart, rfl⟩
  | cons c cs ih =>
    rw [List.cons_append, classChars, classChars]
    split
    · obtain ⟨b, hb⟩ := ih true
      exact ⟨b, congrArg _ hb⟩
    · split
      · obtain ⟨b, hb⟩ := ih false
        exact ⟨b, congrArg _ hb⟩
      · exact ih true

theorem front_append (hs : (front s).length = 2) (t : String) : front (s ++ t) = front s := by
  rw [front, className, String.toList_ofList] at hs ⊢
  rw [front, className, String.toList_ofList, String.toList_append]
  obtain ⟨b, hb⟩ := exists_classChars_append true s.toList t.toList
  rw [hb, List.take_append_of_le_length]
  simp only [List.length_take] at hs
  omega

theorem className_ne_of_front (h : front s ≠ front t) : className s ≠ className t := by
  intro he
  exact h (congrArg (·.toList.take 2) he)

theorem className_ne_of_back (h : back s ≠ back t) : className s ≠ className t := by
  intro he
  exact h (congrArg (·.toList.getLast?) he)

theorem back_append (h : (back t).isSome) : back (s ++ ("_" ++ t)) = back t := by
  rw [back] at h ⊢
  rw [back, ← String.append_assoc, className_append, String.toList_append, List.getLast?_append]
  exact Option.or_of_isSome h

theorem startsWithDigit_of_className (h : startsWithDigit (className s) = false) :
    startsWithDigit s = false := by
  rw [startsWithDigit, className, String.toList_ofList, head?_classChars] at h
  rw [startsWithDigit]
  cases hs : s.toList with
  | nil => rfl
  | cons c cs =>
    rw [hs] at h
    cases hc : isAlphanumeric c with
    | true =>
      rw [List.find?_cons_of_pos hc] at h
      exact h
    | false => exact not_isDigit_of_separator hc

theorem isIdentifier_of_front (hword : IsWord s)
    (hfront : (front s).head?.any (!·.isDigit) = true) :
    IsIdentifier s ∧ IsIdentifier (className s) := by
  obtain ⟨c, rest, hrest, hc⟩ : ∃ c rest, (className s).toList = c :: rest ∧ c.isDigit = false := by
    rw [front] at hfront
    cases hs : (className s).toList with
    | nil =>
      rw [hs] at hfront
      cases hfront
    | cons c rest =>
      rw [hs] at hfront
      exact ⟨c, rest, rfl, by simpa using hfront⟩
  have hclass : IsIdentifier (className s) := by
    refine ⟨?_, isWord_className s, ?_⟩
    · intro hnone
      rw [hnone] at hrest
      cases hrest
    · rw [startsWithDigit, hrest]
      exact hc
  refine ⟨⟨?_, hword, startsWithDigit_of_className hclass.start⟩, hclass⟩
  rintro rfl
  cases hrest

/-- A name in front of an ending is an identifier unless a digit comes first. -/
theorem isIdentifier_ending_iff (hword : (s.toList.all isWordChar) = true)
    (hclass : className s ≠ "") (hstart : startsWithDigit (className s) = false) :
    (IsIdentifier (snakeCase item ++ ("_" ++ s)) ↔ startsWithDigit item = false) ∧
      (IsIdentifier (className (snakeCase item ++ ("_" ++ s))) ↔ readsDigitFirst item = false) := by
  constructor
  · have hbar : startsWithDigit ("_" ++ s) = false := by
      rw [startsWithDigit, String.toList_append]
      rfl
    rw [isIdentifier_iff, startsWithDigit_append hbar, startsWithDigit_snakeCase]
    · simp
    · exact (isWord_snakeCase item).append (.append (.of_chars rfl rfl) (List.all_eq_true.1 hword))
  · rw [isIdentifier_iff _ (isWord_className _), ← String.append_assoc, className_append,
      startsWithDigit_append hstart, startsWithDigit_className]
    rw [← String.append_assoc, className_append]
    simp [hclass]

end Worldsmith.Text
