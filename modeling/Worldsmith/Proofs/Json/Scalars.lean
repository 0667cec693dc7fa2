import Mathlib.Data.List.Basic
import Worldsmith.Json.Printer
import Worldsmith.Json.Reader

namespace Worldsmith.Json

variable {n : Nat} {c : Char} {cs ds rest : List Char}

/-- No number goes on with this text. -/
def EndsNumber (rest : List Char) : Prop :=
  ∀ c ∈ rest.head?, c.isDigit = false ∧ c ≠ '.' ∧ c ≠ 'e' ∧ c ≠ 'E'

/-- The integers that are read exactly. -/
def Exact (z : Int) : Prop := -0x8000000000000000 ≤ z ∧ z ≤ 0xFFFFFFFFFFFFFFFF

theorem le_ofDigitChars (n : Nat) (ds : List Char) : n ≤ Nat.ofDigitChars 10 ds n := by
  induction ds generalizing n with
  | nil => exact Nat.le_of_eq Nat.ofDigitChars_nil.symm
  | cons c ds ih =>
    rw [Nat.ofDigitChars_cons]
    have hle := ih (10 * n + (c.toNat - '0'.toNat))
    omega

theorem appendDigits_eq (h : Nat.ofDigitChars 10 ds n < UInt64.size) :
    appendDigits n ds = (Nat.ofDigitChars 10 ds n, []) := by
  induction ds generalizing n with
  | nil => rw [appendDigits, Nat.ofDigitChars_nil]
  | cons c ds ih =>
    have hstep : n * 10 + digitValue c = 10 * n + (c.toNat - '0'.toNat) := by
      rw [Nat.mul_comm]
      rfl
    rw [Nat.ofDigitChars_cons] at h ⊢
    have hlt := Nat.lt_of_le_of_lt (le_ofDigitChars _ ds) h
    rw [appendDigits, hstep, if_pos hlt, ih h]

theorem appendDigits_toDigits (h : n < UInt64.size) :
    appendDigits 0 (Nat.toDigits 10 n) = (n, []) := by
  rw [appendDigits_eq (by rw [Nat.ofDigitChars_ten_toDigits]; exact h),
    Nat.ofDigitChars_ten_toDigits]

theorem isDigit_of_mem_toDigits (h : c ∈ Nat.toDigits 10 n) : c.isDigit = true :=
  Nat.isDigit_of_mem_toDigits (by decide) (by decide) h

theorem exists_toDigits_cons (n : Nat) :
    ∃ c ds, Nat.toDigits 10 n = c :: ds ∧ c.isDigit = true := by
  obtain ⟨c, ds, h⟩ := List.exists_cons_of_length_pos (@Nat.length_toDigits_pos 10 n)
  exact ⟨c, ds, h, isDigit_of_mem_toDigits (h ▸ List.mem_cons_self)⟩

theorem toDigits_eq_zero_cons (h : Nat.toDigits 10 n = '0' :: ds) : ds = [] := by
  induction n using Nat.strongRecOn generalizing ds with
  | ind n ih =>
    rw [Nat.toDigits_eq_if (by decide)] at h
    split at h
    · next => exact (List.cons.inj h).2.symm
    · next hn =>
      obtain ⟨d, ds', hd, -⟩ := exists_toDigits_cons (n / 10)
      rw [hd] at h
      obtain ⟨rfl, -⟩ := List.cons.inj h
      have hnil := ih (n / 10) (by omega) hd
      rw [hnil] at hd
      have hzero : n / 10 = 0 := by
        rw [← @Nat.ofDigitChars_ten_toDigits (n / 10), hd]
        rfl
      omega

theorem takeWhile_digits (hd : ∀ c ∈ ds, c.isDigit = true) (hr : EndsNumber rest) :
    (ds ++ rest).takeWhile Char.isDigit = ds ∧ (ds ++ rest).dropWhile Char.isDigit = rest := by
  rw [List.takeWhile_append_of_pos hd, List.dropWhile_append_of_pos hd]
  cases rest with
  | nil => simp
  | cons c rest =>
    have hc := (hr c rfl).1
    simp [hc]

theorem readFraction_of_ends (p : NumberParts) (h : EndsNumber rest) :
    readFraction p rest = (.num p.toNumber, some rest) := by
  cases rest with
  | nil => rfl
  | cons c rest =>
    obtain ⟨-, hpoint, he, hE⟩ := h c rfl
    simp [readFraction, readExponent, hpoint, he, hE]

theorem readUnsigned_toDigits (negative : Bool) (n : Nat) (h : EndsNumber rest) :
    readUnsigned negative (Nat.toDigits 10 n ++ rest) =
      (.num (NumberParts.toNumber ⟨negative, Nat.toDigits 10 n, none, none⟩), some rest) := by
  obtain ⟨htake, hdrop⟩ := takeWhile_digits (fun c hc => isDigit_of_mem_toDigits hc) h
  rw [readUnsigned, htake, hdrop]
  split
  · next hnil => exact absurd hnil (List.ne_nil_of_length_pos Nat.length_toDigits_pos)
  · next hzero => exact absurd (toDigits_eq_zero_cons hzero) (List.cons_ne_nil _ _)
  · next => exact readFraction_of_ends _ h

theorem toNumber_toDigits (h : n < UInt64.size) :
    NumberParts.toNumber ⟨false, Nat.toDigits 10 n, none, none⟩ = .ok (.int n) := by
  simp [NumberParts.toNumber, appendDigits_toDigits h]

theorem toNumber_negative (hpos : 0 < n) (h : n ≤ UInt64.size / 2) :
    NumberParts.toNumber ⟨true, Nat.toDigits 10 n, none, none⟩ = .ok (.int (-n)) := by
  have hlt : n < UInt64.size := Nat.lt_of_le_of_lt h (by decide)
  simp [NumberParts.toNumber, appendDigits_toDigits hlt, hpos, h]

theorem readNumber_repr (hn : n < UInt64.size) (h : EndsNumber rest) :
    readNumber ((Nat.repr n).toList ++ rest) = (.num (.ok (.int n)), some rest) := by
  have hread := readUnsigned_toDigits false n h
  rw [toNumber_toDigits hn] at hread
  rw [Nat.toList_repr, readNumber.eq_def]
  split
  · next hminus =>
    obtain ⟨d, ds, hd, hdigit⟩ := exists_toDigits_cons n
    rw [hd] at hminus
    rw [(List.cons.inj hminus).1] at hdigit
    exact absurd hdigit (by decide)
  · exact hread

theorem toList_toString_negSucc (k : Nat) :
    (toString (Int.negSucc k)).toList = '-' :: Nat.toDigits 10 (k + 1) := by
  have hsign : toString (Int.negSucc k) = "-" ++ Nat.repr (k + 1) := rfl
  rw [hsign, String.toList_append, Nat.toList_repr]
  rfl

theorem exists_toString_cons (z : Int) :
    ∃ c cs, (toString z).toList = c :: cs ∧ (c = '-' ∨ c.isDigit = true) := by
  cases z with
  | ofNat k =>
    obtain ⟨c, cs, h, hc⟩ := exists_toDigits_cons k
    exact ⟨c, cs, Nat.toList_repr.trans h, .inr hc⟩
  | negSucc k => exact ⟨_, _, toList_toString_negSucc k, .inl rfl⟩

theorem readNumber_int {z : Int} (hz : Exact z) (h : EndsNumber rest) :
    readNumber ((toString z).toList ++ rest) = (.num (.ok (.int z)), some rest) := by
  obtain ⟨hlo, hhi⟩ := hz
  cases z with
  | ofNat k =>
    have hk : k < UInt64.size := by
      have hle : (k : Int) ≤ 0xFFFFFFFFFFFFFFFF := hhi
      simp only [UInt64.size]
      omega
    exact readNumber_repr hk h
  | negSucc k =>
    have hread := readUnsigned_toDigits true (k + 1) h
    rw [toNumber_negative k.succ_pos (by simp only [UInt64.size]; omega)] at hread
    rw [toList_toString_negSucc]
    exact hread

/-- What is read where a character is printed. -/
def Piece.Spells (p : Piece) (c : Char) : Prop := p = .char c ∨ p = .unit c.toNat ∧ c.toNat < 32

theorem hexUnit?_hexDigit (h : n < 32) :
    hexUnit? '0' '0' (hexDigit (n / 16)) (hexDigit (n % 16)) = some n := by
  have hall : ∀ n < 32, hexUnit? '0' '0' (hexDigit (n / 16)) (hexDigit (n % 16)) = some n := by
    decide
  exact hall n h

theorem pieces_escape (c : Char) (cs : List Char) :
    ∃ p : Piece, p.Spells c ∧ pieces (escape c ++ cs) = (p :: (pieces cs).1, (pieces cs).2) := by
  unfold escape
  split_ifs with hq hb hn hr ht h8 h12 h32
  · subst hq; exact ⟨_, .inl rfl, rfl⟩
  · subst hb; exact ⟨_, .inl rfl, rfl⟩
  · subst hn; exact ⟨_, .inl rfl, rfl⟩
  · subst hr; exact ⟨_, .inl rfl, rfl⟩
  · subst ht; exact ⟨_, .inl rfl, rfl⟩
  · subst h8; exact ⟨_, .inl rfl, rfl⟩
  · subst h12; exact ⟨_, .inl rfl, rfl⟩
  · refine ⟨_, .inr ⟨rfl, h32⟩, ?_⟩
    simp [pieces, hexUnit?_hexDigit h32]
  · refine ⟨_, .inl rfl, ?_⟩
    simp [pieces, hb, h32]

theorem join_spelling {p : Piece} (h : p.Spells c) (ps : List Piece) :
    join none (p :: ps) = (join none ps).map (c :: ·) := by
  obtain rfl | ⟨rfl, hc⟩ := h
  · rw [join]
  · have hlow : isLowHalf c.toNat = false := by simp [isLowHalf]; omega
    have hhigh : isHighHalf c.toNat = false := by simp [isHighHalf]; omega
    match ps with
    | [] => simp [join, hlow, hhigh, Except.map]
    | .unit m :: ps => rw [join]; simp [hlow, hhigh]
    | .char d :: ps => simp [join, hlow, hhigh]

theorem readString_flatMap (cs rest : List Char) :
    readString (cs.flatMap escape ++ '"' :: rest) = ⟨.ok (String.ofList cs), .ok rest⟩ := by
  have hpieces : ∃ ps, pieces (cs.flatMap escape ++ '"' :: rest) = (ps, .ok rest) ∧
      join none ps = .ok cs := by
    induction cs with
    | nil => exact ⟨[], rfl, rfl⟩
    | cons c cs ih =>
      obtain ⟨ps, hps, hjoin⟩ := ih
      obtain ⟨p, hp, hread⟩ := pieces_escape c (cs.flatMap escape ++ '"' :: rest)
      rw [List.flatMap_cons, List.append_assoc, hread, hps]
      refine ⟨p :: ps, rfl, ?_⟩
      rw [join_spelling hp, hjoin]
      rfl
  obtain ⟨ps, hps, hjoin⟩ := hpieces
  simp only [readString, hps, hjoin]
  rfl

theorem readString_escape (s : String) (rest : List Char) :
    readString (s.toList.flatMap escape ++ '"' :: rest) = ⟨.ok s, .ok rest⟩ := by
  rw [readString_flatMap, String.ofList_toList]

theorem flatMap_escape_digits (h : ∀ c ∈ cs, c.isDigit = true) : cs.flatMap escape = cs := by
  have hchar : ∀ c : Char, c.isDigit = true → escape c = [c] := by
    intro c hc
    have hlo : 48 ≤ c.toNat ∧ c.toNat ≤ 57 := by
      simpa [Char.isDigit, UInt32.le_iff_toNat_le] using hc
    unfold escape
    have hne : ∀ d : Char, d.toNat < 48 ∨ 57 < d.toNat → c ≠ d := by
      rintro d hd rfl
      omega
    rw [if_neg (hne _ (by decide)), if_neg (hne _ (by decide)), if_neg (hne _ (by decide)),
      if_neg (hne _ (by decide)), if_neg (hne _ (by decide)), if_neg (hne _ (by decide)),
      if_neg (hne _ (by decide)), if_neg (by omega)]
  induction cs with
  | nil => rfl
  | cons c cs ih =>
    rw [List.flatMap_cons, hchar c (h c List.mem_cons_self),
      ih fun d hd => h d (List.mem_cons_of_mem _ hd), List.singleton_append]

end Worldsmith.Json
