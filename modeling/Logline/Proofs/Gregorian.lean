import Logline.Time.Calendar
import Mathlib.Tactic.IntervalCases
import Mathlib.Tactic.Ring
import Mathlib.Tactic.SplitIfs

/-! # The Gregorian calendar

Dates are counted off, year by year and month by month, from the first day of the year zero. A
number of days is turned into the one date of the calendar that has this number: inside an era of
400 years the centuries, the groups of four years and the years are told apart, and so the day.
-/

namespace Logline

namespace Gregorian

def IsLeapYear (year : Nat) : Prop := year % 4 = 0 ∧ (year % 100 ≠ 0 ∨ year % 400 = 0)

instance (year : Nat) : Decidable (IsLeapYear year) := inferInstanceAs (Decidable (_ ∧ _))

def monthLength (year : Nat) : Nat → Nat
  | 2 => if IsLeapYear year then 29 else 28
  | 4 | 6 | 9 | 11 => 30
  | _ => 31

theorem monthLength_le (year month : Nat) : monthLength year month ≤ 31 := by
  unfold monthLength
  split
  · split <;> decide
  all_goals decide

/-- The days of a year before the first day of a month. -/
def daysBeforeMonth (year month : Nat) : Nat :=
  ((List.range (month - 1)).map fun m => monthLength year (m + 1)).sum

def yearLength (year : Nat) : Nat := daysBeforeMonth year 13

/-- The days from the first day of the year zero to the first day of a year. -/
def daysBeforeYear (year : Nat) : Nat := ((List.range year).map yearLength).sum

theorem yearLength_eq (year : Nat) : (yearLength year : Int) =
    365 + (if year % 4 = 0 then 1 else 0) - (if year % 100 = 0 then 1 else 0) +
      if year % 400 = 0 then 1 else 0 := by
  have hLength : yearLength year = if IsLeapYear year then 366 else 365 := by
    simp only [yearLength, daysBeforeMonth, List.range, List.range.loop, List.map_cons,
      List.map_nil, List.sum_cons, List.sum_nil, monthLength]
    split <;> rfl
  by_cases hLeap : IsLeapYear year
  · rw [hLength, if_pos hLeap]
    unfold IsLeapYear at hLeap
    split_ifs <;> omega
  · rw [hLength, if_neg hLeap]
    unfold IsLeapYear at hLeap
    split_ifs <;> omega

theorem daysBeforeYear_succ (year : Nat) :
    daysBeforeYear (year + 1) = daysBeforeYear year + yearLength year := by
  simp [daysBeforeYear, List.range_succ]

theorem daysBeforeYear_eq (year : Nat) : (daysBeforeYear year : Int) =
    365 * year + (year + 3) / 4 - (year + 99) / 100 + (year + 399) / 400 := by
  induction year with
  | zero => rfl
  | succ year ih =>
    have hFour : ((year + 1 : Nat) + 3 : Int) / 4 =
        (year + 3) / 4 + if year % 4 = 0 then 1 else 0 := by split <;> omega
    have hCentury : ((year + 1 : Nat) + 99 : Int) / 100 =
        (year + 99) / 100 + if year % 100 = 0 then 1 else 0 := by split <;> omega
    have hEra : ((year + 1 : Nat) + 399 : Int) / 400 =
        (year + 399) / 400 + if year % 400 = 0 then 1 else 0 := by split <;> omega
    rw [daysBeforeYear_succ, Int.natCast_add, ih, yearLength_eq, hFour, hCentury, hEra]
    push_cast
    ring

theorem daysBeforeYear_1970 : daysBeforeYear 1970 = 719528 :=
  Int.ofNat_inj.mp (daysBeforeYear_eq 1970)

/-! ## The parts of an era -/

/-- Where a day of an era of 400 years, which starts in March, has its place: in a century, a group
of four years, a year of the group. The leap day is the last one of a group, and of an era, but not
of another century. -/
structure Place where
  century : Int
  group : Int
  year : Int
  day : Int
  century_bounds : 0 ≤ century ∧ century ≤ 3
  group_bounds : 0 ≤ group ∧ group ≤ 24
  year_bounds : 0 ≤ year ∧ year ≤ 3
  day_bounds : 0 ≤ day ∧ day ≤ 365
  leapDay : day = 365 → year = 3 ∧ (group = 24 → century = 3)

namespace Place

variable (p : Place)

def yearOfEra : Int := 100 * p.century + 4 * p.group + p.year

def dayOfEra : Int := 36524 * p.century + 1461 * p.group + 365 * p.year + p.day

theorem exists_dayOfEra {day : Int} (hLow : 0 ≤ day) (hHigh : day < 146097) :
    ∃ p : Place, p.dayOfEra = day := by
  generalize hCentury : min (day / 36524) 3 = century
  have hCenturyBounds : 0 ≤ century ∧ century ≤ 3 := by omega
  generalize hInCentury : day - 36524 * century = inCentury
  have hInCenturyBounds : 0 ≤ inCentury ∧ inCentury ≤ 36524 ∧
      (inCentury = 36524 → century = 3) := by omega
  generalize hGroup : min (inCentury / 1461) 24 = group
  have hGroupBounds : 0 ≤ group ∧ group ≤ 24 := by omega
  generalize hInGroup : inCentury - 1461 * group = inGroup
  have hInGroupBounds : 0 ≤ inGroup ∧ inGroup ≤ 1460 ∧
      (inGroup = 1460 → group = 24 → century = 3) := by omega
  generalize hYear : min (inGroup / 365) 3 = year
  have hYearBounds : 0 ≤ year ∧ year ≤ 3 := by omega
  refine ⟨⟨century, group, year, inGroup - 365 * year, hCenturyBounds, hGroupBounds, hYearBounds,
    by omega, by omega⟩, ?_⟩
  simp only [dayOfEra]
  omega

theorem yearOfEra_eq : (p.dayOfEra - p.dayOfEra / 1460 + p.dayOfEra / 36524 -
    p.dayOfEra / 146096) / 365 = p.yearOfEra := by
  obtain ⟨c, g, y, d, ⟨_, _⟩, ⟨_, _⟩, ⟨_, _⟩, ⟨_, _⟩, hLeap⟩ := p
  simp only [dayOfEra, yearOfEra]
  generalize hDay : 36524 * c + 1461 * g + 365 * y + d = day
  by_cases hEnd : day = 146096
  · omega
  have hCentury : day / 36524 = c := by
    have hRest : 1461 * g + 365 * y + d < 36524 := by omega
    clear hLeap
    omega
  have hEra : day / 146096 = 0 := by
    have hLess : day < 146096 := by omega
    omega
  -- The groups of 1460 days run ahead of those of 1461, by one in the last days of a leap year.
  generalize hAhead : (24 * c + g + 365 * y + d) / 1460 = ahead
  have hGroup : day / 1460 = 25 * c + g + ahead := by omega
  have hAheadBounds : 0 ≤ ahead ∧ ahead ≤ d ∧ d ≤ 364 + ahead := by omega
  rw [hCentury, hEra, hGroup]
  omega

theorem dayOfEra_bounds : 0 ≤ p.dayOfEra ∧ p.dayOfEra < 146097 := by
  obtain ⟨c, g, y, d, ⟨_, _⟩, ⟨_, _⟩, ⟨_, _⟩, ⟨_, _⟩, hLeap⟩ := p
  simp only [dayOfEra]
  omega

theorem dayOfYear_eq :
    p.dayOfEra - (365 * p.yearOfEra + p.yearOfEra / 4 - p.yearOfEra / 100) = p.day := by
  obtain ⟨c, g, y, d, ⟨_, _⟩, ⟨_, _⟩, ⟨_, _⟩, -, -⟩ := p
  simp only [dayOfEra, yearOfEra]
  omega

end Place

/-! ## Years and months that start in March -/

def leapDay (year : Nat) : Nat := if IsLeapYear year then 1 else 0

/-- The days from the first of March of the year zero to that of another year. -/
def daysBeforeMarch (year : Int) : Int := 365 * year + year / 4 - year / 100 + year / 400

theorem daysBeforeMarch_eq {year : Int} (hYear : 0 ≤ year) :
    daysBeforeMarch year = daysBeforeYear year.toNat + leapDay year.toNat - 1 := by
  obtain ⟨year, rfl⟩ := Int.eq_ofNat_of_zero_le hYear
  rw [Int.toNat_natCast, daysBeforeYear_eq, daysBeforeMarch, leapDay]
  by_cases hLeap : IsLeapYear year
  · rw [if_pos hLeap]
    unfold IsLeapYear at hLeap
    omega
  · rw [if_neg hLeap]
    unfold IsLeapYear at hLeap
    omega

theorem daysBeforeMarch_pred {year : Int} (hYear : 0 ≤ year) :
    daysBeforeMarch (year - 1) = daysBeforeYear year.toNat - 366 := by
  obtain ⟨year, rfl⟩ := Int.eq_ofNat_of_zero_le hYear
  rw [Int.toNat_natCast, daysBeforeYear_eq, daysBeforeMarch]
  omega

theorem Place.daysBeforeMarch_add (p : Place) (era : Int) :
    daysBeforeMarch (400 * era + p.yearOfEra) + p.day = 146097 * era + p.dayOfEra := by
  obtain ⟨c, g, y, d, ⟨_, _⟩, ⟨_, _⟩, ⟨_, _⟩, -, -⟩ := p
  simp only [dayOfEra, yearOfEra, daysBeforeMarch]
  omega

theorem Place.isLeapYear (p : Place) (era : Int) (hDay : p.day = 365) :
    IsLeapYear (400 * era + p.yearOfEra + 1).toNat := by
  obtain ⟨hYear, hCentury⟩ := p.leapDay hDay
  obtain ⟨hGroupLow, hGroupHigh⟩ := p.group_bounds
  obtain ⟨hCenturyLow, hCenturyHigh⟩ := p.century_bounds
  simp only [IsLeapYear, yearOfEra]
  omega

/-- Days of a year that starts in March before its `month`-th month, counted from zero. -/
def daysBeforeFromMarch (month : Int) : Int := (153 * month + 2) / 5

theorem monthLength_february (year : Nat) : monthLength year 2 = 28 + leapDay year := by
  simp only [monthLength, leapDay]
  split <;> rfl

theorem monthLength_eq (year : Nat) {month : Nat} (hLow : 3 ≤ month) (hHigh : month ≤ 12) :
    (monthLength year month : Int) =
      daysBeforeFromMarch (month - 2) - daysBeforeFromMarch (month - 3) := by
  interval_cases month <;> rfl

theorem daysBeforeMonth_succ (year : Nat) {month : Nat} (hLow : 1 ≤ month) :
    daysBeforeMonth year (month + 1) = daysBeforeMonth year month + monthLength year month := by
  obtain ⟨month, rfl⟩ := Nat.exists_eq_add_of_le' hLow
  simp [daysBeforeMonth, List.range_succ]

theorem daysBeforeMonth_eq (year : Nat) {month : Nat} (hLow : 3 ≤ month) (hHigh : month ≤ 12) :
    (daysBeforeMonth year month : Int) = daysBeforeFromMarch (month - 3) + 59 + leapDay year := by
  induction month, hLow using Nat.le_induction with
  | base =>
    rw [daysBeforeMonth_succ year (by decide), monthLength_february,
      daysBeforeMonth_succ year le_rfl]
    simp only [daysBeforeMonth, monthLength, daysBeforeFromMarch, List.range, List.range.loop,
      List.map_nil, List.sum_nil, Nat.sub_self]
    omega
  | succ month hLow ih =>
    rw [daysBeforeMonth_succ year (by omega), Int.natCast_add, ih (by omega),
      monthLength_eq year hLow (by omega)]
    simp only [daysBeforeFromMarch]
    omega

end Gregorian

open Gregorian

namespace Date

/-- A date that the calendar has, from the year zero on. -/
structure IsCivil (d : Date) : Prop where
  year : 0 ≤ d.year
  month : 1 ≤ d.month ∧ d.month ≤ 12
  day : 1 ≤ d.day ∧ d.day ≤ monthLength d.year.toNat d.month

instance (d : Date) : Decidable d.IsCivil :=
  decidable_of_iff (0 ≤ d.year ∧ (1 ≤ d.month ∧ d.month ≤ 12) ∧
      1 ≤ d.day ∧ d.day ≤ monthLength d.year.toNat d.month)
    ⟨fun ⟨hYear, hMonth, hDay⟩ => ⟨hYear, hMonth, hDay⟩, fun h => ⟨h.year, h.month, h.day⟩⟩

/-- The days from the first day of 1970, counted off in the calendar. -/
def dayNumber (d : Date) : Int :=
  daysBeforeYear d.year.toNat + daysBeforeMonth d.year.toNat d.month + (d.day - 1) -
    daysBeforeYear 1970

/-- The date with `day` days before it in a year that starts in March. -/
def fromMarch (year day : Int) : Date :=
  let monthFromMarch := (5 * day + 2) / 153
  let month := if monthFromMarch < 10 then monthFromMarch + 3 else monthFromMarch - 9
  { year := year + if month ≤ 2 then 1 else 0
    month := month.toNat
    day := (day - daysBeforeFromMarch monthFromMarch + 1).toNat }

theorem ofDays_eq (era : Int) (p : Place) :
    ofDays (146097 * era + p.dayOfEra - 719468) = fromMarch (400 * era + p.yearOfEra) p.day := by
  obtain ⟨hLow, hHigh⟩ := p.dayOfEra_bounds
  have hEra : (146097 * era + p.dayOfEra - 719468 + 719468) / 146097 = era := by omega
  have hDayOfEra : (146097 * era + p.dayOfEra - 719468 + 719468) % 146097 = p.dayOfEra := by omega
  simp only [ofDays, hEra, hDayOfEra, p.yearOfEra_eq, p.dayOfYear_eq, fromMarch,
    daysBeforeFromMarch]
  rw [Int.mul_comm era 400]

variable {year day : Int}

theorem fromMarch_of_lt (year : Int) (hLow : 0 ≤ day) (hHigh : day < 306) :
    ∃ month dayOfMonth : Nat, fromMarch year day = ⟨year, month, dayOfMonth⟩ ∧
      3 ≤ month ∧ month ≤ 12 ∧ 1 ≤ dayOfMonth ∧
      daysBeforeFromMarch (month - 3) + dayOfMonth = day + 1 ∧
      day < daysBeforeFromMarch (month - 2) := by
  generalize hMonth : (5 * day + 2) / 153 = month
  obtain ⟨hFirst, hLast⟩ : 0 ≤ month ∧ month < 10 := by omega
  obtain ⟨month, rfl⟩ := Int.eq_ofNat_of_zero_le hFirst
  have hPositive : 0 ≤ day - daysBeforeFromMarch month + 1 := by
    simp only [daysBeforeFromMarch]
    omega
  obtain ⟨dayOfMonth, hDay⟩ := Int.eq_ofNat_of_zero_le hPositive
  refine ⟨month + 3, dayOfMonth, ?_, ?_⟩
  · have hAfter : ¬ ((month : Int) + 3 ≤ 2) := by omega
    have hNat : ((month : Int) + 3).toNat = month + 3 := by omega
    simp only [fromMarch, hMonth, if_pos hLast, if_neg hAfter, hDay, hNat, Int.toNat_natCast,
      Int.add_zero]
  · simp only [daysBeforeFromMarch] at hDay ⊢
    omega

theorem civil_of_lt (hLow : 0 ≤ day) (hHigh : day < 306) (hYear : 0 ≤ (fromMarch year day).year) :
    (fromMarch year day).IsCivil ∧
      (fromMarch year day).dayNumber = daysBeforeMarch year + day - 719468 := by
  obtain ⟨month, dayOfMonth, hDate, hFirst, hLast, hDay, hSum, hInMonth⟩ :=
    fromMarch_of_lt year hLow hHigh
  rw [hDate] at hYear ⊢
  replace hYear : 0 ≤ year := hYear
  have hLength := monthLength_eq year.toNat hFirst hLast
  have hBefore := daysBeforeMonth_eq year.toNat hFirst hLast
  have hYears := daysBeforeMarch_eq hYear
  refine ⟨⟨hYear, ⟨Nat.le_trans (by decide) hFirst, hLast⟩, hDay, ?_⟩, ?_⟩
  · show dayOfMonth ≤ monthLength year.toNat month
    omega
  · simp only [dayNumber, daysBeforeYear_1970]
    omega

theorem civil_of_le (hLow : 306 ≤ day) (hHigh : day ≤ 365)
    (hLeap : day = 365 → IsLeapYear (year + 1).toNat) (hYear : 0 ≤ (fromMarch year day).year) :
    (fromMarch year day).IsCivil ∧
      (fromMarch year day).dayNumber = daysBeforeMarch year + day - 719468 := by
  rcases Int.lt_or_le day 337 with hJanuary | hFebruary
  · have hMonth : (5 * day + 2) / 153 = 10 := by omega
    have hDate : fromMarch year day = ⟨year + 1, 1, (day - 306 + 1).toNat⟩ := by
      simp [fromMarch, hMonth, daysBeforeFromMarch]
    rw [hDate] at hYear ⊢
    replace hYear : 0 ≤ year + 1 := hYear
    have hYears := daysBeforeMarch_pred hYear
    have hBefore : daysBeforeMonth (year + 1).toNat 1 = 0 := rfl
    simp only [Int.add_sub_cancel] at hYears
    refine ⟨⟨hYear, ⟨Nat.le_refl 1, (by decide : 1 ≤ 12)⟩, ?_, ?_⟩, ?_⟩
    · show 1 ≤ (day - 306 + 1).toNat
      omega
    · show (day - 306 + 1).toNat ≤ 31
      omega
    · simp only [dayNumber, daysBeforeYear_1970, hBefore]
      omega
  · have hMonth : (5 * day + 2) / 153 = 11 := by omega
    have hDate : fromMarch year day = ⟨year + 1, 2, (day - 337 + 1).toNat⟩ := by
      simp [fromMarch, hMonth, daysBeforeFromMarch]
    rw [hDate] at hYear ⊢
    replace hYear : 0 ≤ year + 1 := hYear
    have hYears := daysBeforeMarch_pred hYear
    have hBefore : daysBeforeMonth (year + 1).toNat 2 = 31 := rfl
    have hLast : day ≤ 364 + leapDay (year + 1).toNat := by
      rcases Int.lt_or_eq_of_le hHigh with hCommon | hLeapDay
      · omega
      · rw [leapDay, if_pos (hLeap hLeapDay)]
        omega
    simp only [Int.add_sub_cancel] at hYears
    refine ⟨⟨hYear, ⟨(by decide : 1 ≤ 2), (by decide : 2 ≤ 12)⟩, ?_, ?_⟩, ?_⟩
    · show 1 ≤ (day - 337 + 1).toNat
      omega
    · show (day - 337 + 1).toNat ≤ monthLength (year + 1).toNat 2
      rw [monthLength_february]
      omega
    · simp only [dayNumber, daysBeforeYear_1970, hBefore]
      omega

theorem exists_place (days : Int) :
    ∃ (era : Int) (p : Place), 146097 * era + p.dayOfEra - 719468 = days := by
  obtain ⟨p, hPlace⟩ := Place.exists_dayOfEra (Int.emod_nonneg (days + 719468) (by decide))
    (Int.emod_lt_of_pos (days + 719468) (by decide : (0 : Int) < 146097))
  exact ⟨(days + 719468) / 146097, p, by omega⟩

/-- The date of a number of days is in the calendar, and has this number there. -/
theorem civil_ofDays {days : Int} (hYear : 0 ≤ (ofDays days).year) :
    (ofDays days).IsCivil ∧ (ofDays days).dayNumber = days := by
  obtain ⟨era, p, rfl⟩ := exists_place days
  obtain ⟨hLow, hHigh⟩ := p.day_bounds
  rw [ofDays_eq] at hYear ⊢
  rw [← p.daysBeforeMarch_add era]
  rcases Int.lt_or_le p.day 306 with hBefore | hAfter
  · exact civil_of_lt hLow hBefore hYear
  · exact civil_of_le hAfter hHigh (p.isLeapYear era) hYear

/-- Years of four digits are few enough days away from 1970. -/
theorem days_bounds {days : Int} (hLow : 0 ≤ (ofDays days).year)
    (hHigh : (ofDays days).year < 10000) : -865565 ≤ days ∧ days < 2932957 := by
  obtain ⟨era, p, rfl⟩ := exists_place days
  obtain ⟨hFirst, hLast⟩ := p.dayOfEra_bounds
  have hYearOfEra : 0 ≤ p.yearOfEra ∧ p.yearOfEra ≤ 399 := by
    obtain ⟨c, g, y, d, ⟨_, _⟩, ⟨_, _⟩, ⟨_, _⟩, -, -⟩ := p
    simp only [Place.yearOfEra]
    omega
  rw [ofDays_eq] at hLow hHigh
  simp only [fromMarch] at hLow hHigh
  split_ifs at hLow hHigh <;> omega

end Date

end Logline
