namespace Worldsmith

/-- A time in the proleptic Gregorian calendar. -/
structure DateTime where
  year : Int
  month : Nat
  day : Nat
  hour : Nat
  minute : Nat
  second : Nat
  deriving DecidableEq, Repr, Inhabited

namespace DateTime

/-- The date of a day counted from the start of 1970. Years are counted from March and in eras of
400, so that the day that leap years have comes last. -/
def dateOfDay (day : Int) : Int × Nat × Nat :=
  let shifted := day + 719468
  let era := shifted.fdiv 146097
  let dayOfEra := (shifted - era * 146097).toNat
  let yearOfEra := (dayOfEra - dayOfEra / 1460 + dayOfEra / 36524 - dayOfEra / 146096) / 365
  let dayOfYear := dayOfEra - (365 * yearOfEra + yearOfEra / 4 - yearOfEra / 100)
  let monthFromMarch := (5 * dayOfYear + 2) / 153
  let day := dayOfYear - (153 * monthFromMarch + 2) / 5 + 1
  let month := if monthFromMarch < 10 then monthFromMarch + 3 else monthFromMarch - 9
  (yearOfEra + era * 400 + (if month ≤ 2 then 1 else 0), month, day)

def ofSeconds (seconds : Int) : DateTime :=
  let (year, month, day) := dateOfDay (seconds.fdiv 86400)
  let rest := (seconds.fmod 86400).toNat
  ⟨year, month, day, rest / 3600, rest / 60 % 60, rest % 60⟩

def padded (width : Nat) (n : Nat) : String :=
  let digits := Nat.repr n
  String.ofList (List.replicate (width - digits.length) '0') ++ digits

/-- Four digits, or a sign with at least four digits outside of them. -/
def yearText (year : Int) : String :=
  if 0 ≤ year ∧ year ≤ 9999 then padded 4 year.toNat
  else (if 0 ≤ year then "+" else "-") ++ padded 4 year.natAbs

def dateText (t : DateTime) : String := yearText t.year ++ padded 2 t.month ++ padded 2 t.day

/-- Packed words for time and date. They hold two-second steps and the years from 1980 to 2107, to
which other years are moved. -/
def packedTime (t : DateTime) : Nat := t.hour * 2048 + t.minute * 32 + t.second / 2

def packedDate (t : DateTime) : Nat :=
  let year := (max 1980 (min 2107 t.year) - 1980).toNat
  year * 512 + t.month * 32 + t.day

end DateTime

/-- Seconds and nanoseconds after the start of 1970. -/
structure Timestamp where
  seconds : Int
  nanos : Nat := 0
  deriving DecidableEq, Repr, Inhabited

def Timestamp.notBefore (a b : Timestamp) : Bool :=
  b.seconds < a.seconds || (a.seconds = b.seconds && b.nanos ≤ a.nanos)

/-- The time in UTC. A zone is not known here, so this is local time only where the two agree. -/
def Timestamp.toDateTime (t : Timestamp) : DateTime := .ofSeconds t.seconds

end Worldsmith
