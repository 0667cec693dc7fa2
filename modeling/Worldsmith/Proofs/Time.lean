import Worldsmith.Time

namespace Worldsmith.DateTime

variable {t : DateTime}

/-- The parts of a time are in their ranges. -/
structure InCalendar (t : DateTime) : Prop where
  month : 1 ≤ t.month ∧ t.month ≤ 12
  day : 1 ≤ t.day ∧ t.day ≤ 31
  hour : t.hour < 24
  minute : t.minute < 60
  second : t.second < 60

/-- A time of the calendar, in a year that packed words can say. -/
structure Packable (t : DateTime) : Prop extends t.InCalendar where
  year : 1980 ≤ t.year ∧ t.year ≤ 2107

def ofPacked (date time : Nat) : DateTime where
  year := 1980 + (date / 512 : Nat)
  month := date / 32 % 16
  day := date % 32
  hour := time / 2048
  minute := time / 32 % 64
  second := time % 32 * 2

def toEvenSecond (t : DateTime) : DateTime := { t with second := t.second / 2 * 2 }

theorem Packable.packedDate_eq (h : t.Packable) :
    t.packedDate = (t.year - 1980).toNat * 512 + t.month * 32 + t.day := by
  have hy := h.year
  rw [packedDate, Int.min_eq_right hy.2, Int.max_eq_right hy.1]

theorem Packable.packedDate_lt (h : t.Packable) : t.packedDate < 65536 := by
  have hy := h.year
  have hm := h.month
  have hd := h.day
  rw [h.packedDate_eq]
  omega

theorem InCalendar.packedTime_lt (h : t.InCalendar) : t.packedTime < 65536 := by
  have hh := h.hour
  have hm := h.minute
  have hs := h.second
  rw [packedTime]
  omega

/-- Packed words keep a time up to its even second. -/
theorem Packable.ofPacked_eq (h : t.Packable) :
    ofPacked t.packedDate t.packedTime = t.toEvenSecond := by
  have hy := h.year
  have hmonth := h.month
  have hd := h.day
  have hminute := h.minute
  have hs := h.second
  rw [ofPacked, h.packedDate_eq, packedTime, toEvenSecond, mk.injEq]
  refine ⟨?_, ?_, ?_, ?_, ?_, ?_⟩ <;> omega

theorem dayOfYear_le {day year : Nat} (h : day < 146097)
    (hy : (day - day / 1460 + day / 36524 - day / 146096) / 365 = year) :
    day - (365 * year + year / 4 - year / 100) ≤ 365 := by
  refine Nat.le_of_not_lt fun hlate => ?_
  have hlow : 365 * year ≤ day - day / 1460 + day / 36524 - day / 146096 := by omega
  have hhigh : day - day / 1460 + day / 36524 - day / 146096 ≤ 365 * year + 364 := by omega
  clear hy
  have hcentury : year / 100 + day / 146096 ≤ day / 36524 := by omega
  omega

theorem dateOfDay_inCalendar (day : Int) :
    (1 ≤ (dateOfDay day).2.1 ∧ (dateOfDay day).2.1 ≤ 12) ∧
      1 ≤ (dateOfDay day).2.2 ∧ (dateOfDay day).2.2 ≤ 31 := by
  have hera : (day + 719468 - (day + 719468).fdiv 146097 * 146097).toNat < 146097 := by
    rw [Int.fdiv_eq_ediv_of_nonneg _ (by decide)]
    omega
  have hle := dayOfYear_le hera rfl
  simp only [dateOfDay]
  generalize Int.toNat _ - (_ - _) = dayOfYear at hle ⊢
  constructor
  · split <;> omega
  · omega

theorem inCalendar_ofSeconds (seconds : Int) : (ofSeconds seconds).InCalendar := by
  have hrest : (seconds.fmod 86400).toNat < 86400 := by
    rw [Int.fmod_eq_emod_of_nonneg _ (by decide)]
    omega
  obtain ⟨hmonth, hday⟩ := dateOfDay_inCalendar (seconds.fdiv 86400)
  refine ⟨hmonth, hday, ?_, ?_, ?_⟩
  · exact Nat.div_lt_of_lt_mul hrest
  · exact Nat.mod_lt _ (by decide)
  · exact Nat.mod_lt _ (by decide)

theorem packable_ofSeconds {seconds : Int}
    (h : 1980 ≤ (ofSeconds seconds).year ∧ (ofSeconds seconds).year ≤ 2107) :
    (ofSeconds seconds).Packable :=
  ⟨inCalendar_ofSeconds seconds, h⟩

end Worldsmith.DateTime
