import Logline.Time.Instant

/-! # Calendar

The proleptic Gregorian date and the time of day of an instant in a zone. Years start in March
inside the computation, so that the leap day is the last day of a year.
-/

namespace Logline

structure Date where
  year : Int
  month : Nat
  day : Nat
  deriving DecidableEq, Repr, Inhabited

namespace Date

def toDays (d : Date) : Int :=
  let y := if d.month ≤ 2 then d.year - 1 else d.year
  let era := y / 400
  let yearOfEra := y % 400
  let monthFromMarch : Int := if d.month ≤ 2 then d.month + 9 else d.month - 3
  let dayOfYear := (153 * monthFromMarch + 2) / 5 + d.day - 1
  era * 146097 + (yearOfEra * 365 + yearOfEra / 4 - yearOfEra / 100 + dayOfYear) - 719468

def ofDays (days : Int) : Date :=
  let z := days + 719468
  let era := z / 146097
  let dayOfEra := z % 146097
  let yearOfEra := (dayOfEra - dayOfEra / 1460 + dayOfEra / 36524 - dayOfEra / 146096) / 365
  let dayOfYear := dayOfEra - (365 * yearOfEra + yearOfEra / 4 - yearOfEra / 100)
  let monthFromMarch := (5 * dayOfYear + 2) / 153
  let day := dayOfYear - (153 * monthFromMarch + 2) / 5 + 1
  let month := if monthFromMarch < 10 then monthFromMarch + 3 else monthFromMarch - 9
  { year := era * 400 + yearOfEra + if month ≤ 2 then 1 else 0
    month := month.toNat
    day := day.toNat }

def weekday (d : Date) : Nat := ((d.toDays + 4) % 7).toNat

def weekdayFromMonday (d : Date) : Nat := if d.weekday = 0 then 7 else d.weekday

def dayOfYear (d : Date) : Nat := (d.toDays - toDays ⟨d.year, 1, 1⟩).toNat + 1

/-- Weeks of the year begun before the date, each starting on the weekday `start`. -/
def weeksFrom (d : Date) (start : Nat) : Nat := (d.dayOfYear + 6 - (d.weekday + 7 - start) % 7) / 7

/-- Whether a year of the week calendar has 53 weeks. -/
def isLongYear (year : Int) : Bool :=
  let shift (y : Int) : Int := (y + y / 4 - y / 100 + y / 400) % 7
  shift year == 4 || shift (year - 1) == 3

/-- Year and number of the week, which belongs to the year of its Thursday. -/
def isoWeek (d : Date) : Int × Nat :=
  let week := (d.dayOfYear + 10 - d.weekdayFromMonday) / 7
  if week = 0 then (d.year - 1, if isLongYear (d.year - 1) then 53 else 52)
  else if week = 53 ∧ ¬ isLongYear d.year then (d.year + 1, 1)
  else (d.year, week)

end Date

structure LocalTime where
  date : Date
  hour : Nat
  minute : Nat
  /-- 60 within a leap second. -/
  second : Nat
  nanos : Nat
  deriving DecidableEq, Repr, Inhabited

def Instant.inZone (t : Instant) (zone : Zone) : LocalTime :=
  let seconds := t.seconds + zone.offset
  let ofDay := (seconds % 86400).toNat
  { date := Date.ofDays (seconds / 86400)
    hour := ofDay / 3600
    minute := ofDay / 60 % 60
    second := ofDay % 60 + t.nanos / 1000000000
    nanos := t.nanos % 1000000000 }

end Logline
