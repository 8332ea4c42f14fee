/-!
# CoinTransfer.Time.Instant

Dates of the Gregorian calendar, and points in time.  Days are counted from the first
of January 1970.  The count runs through years that begin in March, so that the day
that some years have more is the last one of its year, and through eras of four
hundred years, which all have the same number of days.

Points in time are counted in seconds from the start of that day in universal time.
A leap second has no number of its own: it is the second before it with a fraction of
one second or more.
-/

namespace CoinTransfer.Time

/-- A date of the calendar; years before the year one are counted on through zero. -/
structure Civil where
  year : Int
  month : Nat
  day : Nat
deriving DecidableEq, Repr

namespace Civil

/-! ## Months -/

/-- Whether a year has a twenty-ninth of February. -/
def isLeap (year : Int) : Bool := year % 4 = 0 ∧ (year % 100 ≠ 0 ∨ year % 400 = 0)

def daysInMonth (year : Int) (month : Nat) : Nat :=
  if month = 2 then if isLeap year then 29 else 28
  else if month = 4 ∨ month = 6 ∨ month = 9 ∨ month = 11 then 30
  else 31

/-- A date that the calendar has. -/
def Valid (d : Civil) : Prop :=
  1 ≤ d.month ∧ d.month ≤ 12 ∧ 1 ≤ d.day ∧ d.day ≤ daysInMonth d.year d.month

instance (d : Civil) : Decidable d.Valid := inferInstanceAs (Decidable (_ ∧ _ ∧ _ ∧ _))

/-! ## Days -/

/-- The number of days of four hundred years. -/
def daysInEra : Int := 146097

/-- The days from the first of March of the year zero to the first of January 1970. -/
def daysToEpoch : Int := 719468

/-- The number of days from the first of January 1970 to a date. -/
def toDays (d : Civil) : Int :=
  let year := if d.month ≤ 2 then d.year - 1 else d.year
  let month : Int := (d.month + 9) % 12
  let era := year / 400
  let yearOfEra := year % 400
  let dayOfYear := (153 * month + 2) / 5 + d.day - 1
  let dayOfEra := 365 * yearOfEra + yearOfEra / 4 - yearOfEra / 100 + dayOfYear
  daysInEra * era + dayOfEra - daysToEpoch

/-- The date a number of days after the first of January 1970. -/
def ofDays (days : Int) : Civil :=
  let shifted := days + daysToEpoch
  let era := shifted / daysInEra
  let dayOfEra := shifted % daysInEra
  let yearOfEra := (dayOfEra - dayOfEra / 1460 + dayOfEra / 36524 - dayOfEra / 146096) / 365
  let dayOfYear := dayOfEra - (365 * yearOfEra + yearOfEra / 4 - yearOfEra / 100)
  let month := (5 * dayOfYear + 2) / 153
  let day := dayOfYear - (153 * month + 2) / 5 + 1
  let year := yearOfEra + 400 * era
  if month < 10 then ⟨year, (month + 3).toNat, day.toNat⟩
  else ⟨year + 1, (month - 9).toNat, day.toNat⟩

end Civil

/-! ## Points in time -/

/-- A point in time. -/
structure Instant where
  /-- Seconds since the start of 1970, without leap seconds. -/
  seconds : Int
  /-- The fraction in nanoseconds; from 10^9 on it lies in a leap second. -/
  nanos : Nat
deriving DecidableEq, Repr

namespace Instant

def epoch : Instant := ⟨0, 0⟩

def secondsPerDay : Int := 86400

/-- The date of a point in time. -/
def date (t : Instant) : Civil := Civil.ofDays (t.seconds / secondsPerDay)

/-- The second of the day of a point in time. -/
def secondOfDay (t : Instant) : Nat := (t.seconds % secondsPerDay).toNat

end Instant

end CoinTransfer.Time
