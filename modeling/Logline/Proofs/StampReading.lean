import Logline.Proofs.Gregorian
import Logline.Proofs.NumberText
import Logline.Proofs.TrimmedText
import Logline.Time.Layout

/-! # Reading dates with a time and an offset

A reader for the date, the time of the day, the fraction and the offset of a text, which knows
nothing of how such texts are written. What it reads is a date of the calendar and a time of a day,
so that it denotes one instant.
-/

namespace Logline

/-- A date and a time at an offset, in seconds, from universal time. -/
structure Stamp where
  date : Date
  hour : Nat
  minute : Nat
  second : Nat
  nanos : Nat
  offset : Int

namespace Stamp

structure Valid (s : Stamp) : Prop where
  date : s.date.IsCivil
  hour : s.hour < 24
  minute : s.minute < 60
  second : s.second < 60

instance (s : Stamp) : Decidable s.Valid :=
  decidable_of_iff (s.date.IsCivil ∧ s.hour < 24 ∧ s.minute < 60 ∧ s.second < 60)
    ⟨fun ⟨hDate, hHour, hMinute, hSecond⟩ => ⟨hDate, hHour, hMinute, hSecond⟩,
      fun h => ⟨h.date, h.hour, h.minute, h.second⟩⟩

/-- The nanoseconds from the start of 1970 in universal time. -/
def total (s : Stamp) : Int :=
  (s.date.dayNumber * 86400 + (s.hour * 3600 + s.minute * 60 + s.second : Nat) - s.offset) *
    1000000000 + s.nanos

/-! ## The reader -/

/-- A number of exactly `width` digits. -/
def number? (width : Nat) (cs : List Char) : Option (Nat × List Char) :=
  let digits := cs.take width
  if digits.length = width ∧ digits.all Char.isDigit then
    some (Nat.ofDigitChars 10 digits 0, cs.drop width)
  else none

def mark? (c : Char) : List Char → Option (List Char)
  | d :: r => if d = c then some r else none
  | [] => none

/-- Nanoseconds: up to nine digits after a point, or none without a point. -/
def fraction? : List Char → Option (Nat × List Char)
  | '.' :: r =>
    let digits := r.takeWhile Char.isDigit
    if 0 < digits.length ∧ digits.length ≤ 9 then
      some (Nat.ofDigitChars 10 digits 0 * 10 ^ (9 - digits.length), r.drop digits.length)
    else none
  | cs => some (0, cs)

/-- Hours and minutes with a colon, in seconds. -/
def offsetSize? (cs : List Char) : Option Nat := do
  let (hours, r) ← number? 2 cs
  let r ← mark? ':' r
  let (minutes, r) ← number? 2 r
  if r = [] ∧ hours < 24 ∧ minutes < 60 then some (hours * 3600 + minutes * 60) else none

def offset? : List Char → Option Int
  | ['Z'] => some 0
  | '+' :: r => (offsetSize? r).map fun n : Nat => (n : Int)
  | '-' :: r => (offsetSize? r).map fun n : Nat => -(n : Int)
  | _ => none

def date? (cs : List Char) : Option (Date × List Char) := do
  let (year, r) ← number? 4 cs
  let r ← mark? '-' r
  let (month, r) ← number? 2 r
  let r ← mark? '-' r
  let (day, r) ← number? 2 r
  return (⟨year, month, day⟩, r)

def clock? (cs : List Char) : Option ((Nat × Nat × Nat) × List Char) := do
  let (hour, r) ← number? 2 cs
  let r ← mark? ':' r
  let (minute, r) ← number? 2 r
  let r ← mark? ':' r
  let (second, r) ← number? 2 r
  return ((hour, minute, second), r)

def read? (cs : List Char) : Option Stamp := do
  let (date, r) ← date? cs
  let r ← mark? 'T' r
  let ((hour, minute, second), r) ← clock? r
  let (nanos, r) ← fraction? r
  let offset ← offset? r
  let s : Stamp := ⟨date, hour, minute, second, nanos, offset⟩
  if s.Valid then some s else none

end Stamp

/-! ## Padded numbers -/

section ZeroPadded

variable {width n : Nat}

theorem toList_zeroPadded (width n : Nat) : (zeroPadded width n).toList =
    List.replicate (width - (Nat.toDigits 10 n).length) '0' ++ Nat.toDigits 10 n :=
  String.toList_ofList

theorem length_zeroPadded (hWidth : 0 < width) (hn : n < 10 ^ width) :
    (zeroPadded width n).toList.length = width := by
  have hDigits := (Nat.length_toDigits_le_iff (by decide) hWidth).mpr hn
  rw [toList_zeroPadded, List.length_append, List.length_replicate]
  omega

theorem isDigit_zeroPadded : ∀ c ∈ (zeroPadded width n).toList, c.isDigit = true := by
  intro c hc
  rw [toList_zeroPadded] at hc
  rcases List.mem_append.mp hc with hZero | hDigit
  · obtain rfl := List.eq_of_mem_replicate hZero
    rfl
  · exact Json.isDigit_toDigits hDigit

theorem ofDigitChars_zeroPadded : Nat.ofDigitChars 10 (zeroPadded width n).toList 0 = n := by
  rw [toList_zeroPadded, Nat.ofDigitChars_append, Nat.ofDigitChars_replicate_zero, Nat.mul_zero,
    Nat.ofDigitChars_ten_toDigits]

end ZeroPadded

namespace Stamp

variable {width n : Nat} {rest zone : List Char}

theorem number?_zeroPadded (hWidth : 0 < width) (hn : n < 10 ^ width) (rest : List Char) :
    number? width ((zeroPadded width n).toList ++ rest) = some (n, rest) := by
  have hLength := length_zeroPadded hWidth hn
  have hTake : ((zeroPadded width n).toList ++ rest).take width = (zeroPadded width n).toList :=
    List.take_left' hLength
  have hDrop : ((zeroPadded width n).toList ++ rest).drop width = rest := List.drop_left' hLength
  have hDigits : (zeroPadded width n).toList.all Char.isDigit = true :=
    List.all_eq_true.mpr isDigit_zeroPadded
  rw [number?, hTake, hDrop, if_pos ⟨hLength, hDigits⟩, ofDigitChars_zeroPadded]

theorem number?_two (hn : n < 100) (rest : List Char) :
    number? 2 ((zeroPadded 2 n).toList ++ rest) = some (n, rest) :=
  number?_zeroPadded (by decide) hn rest

theorem mark?_cons (c : Char) (rest : List Char) : mark? c (c :: rest) = some rest := if_pos rfl

theorem fraction?_zeroPadded (hWidth : 0 < width ∧ width ≤ 9) (hn : n < 10 ^ width)
    (hRest : ∀ c ∈ rest.head?, ¬ c.isDigit) :
    fraction? ('.' :: ((zeroPadded width n).toList ++ rest)) =
      some (n * 10 ^ (9 - width), rest) := by
  have hLength := length_zeroPadded hWidth.1 hn
  have hDigits : ((zeroPadded width n).toList ++ rest).takeWhile Char.isDigit =
      (zeroPadded width n).toList := Text.takeWhile_stop isDigit_zeroPadded hRest
  simp only [fraction?, hDigits, hLength, if_pos hWidth, ofDigitChars_zeroPadded,
    List.drop_left' hLength]

theorem fraction?_of_head (hRest : ∀ c ∈ rest.head?, c ≠ '.') :
    fraction? rest = some (0, rest) := by
  unfold fraction?
  split
  · exact absurd rfl (hRest '.' rfl)
  · rfl

theorem offsetSize?_zeroPadded {hours minutes : Nat} (hHours : hours < 24)
    (hMinutes : minutes < 60) :
    offsetSize? ((zeroPadded 2 hours).toList ++ ':' :: (zeroPadded 2 minutes).toList) =
      some (hours * 3600 + minutes * 60) := by
  have hFirst := number?_two (n := hours) (by omega) (':' :: (zeroPadded 2 minutes).toList)
  have hLast := number?_two (n := minutes) (by omega) []
  rw [List.append_nil] at hLast
  simp [offsetSize?, hFirst, hLast, mark?_cons, hHours, hMinutes]

/-- The offset of a sign, hours and minutes. -/
theorem offset?_signed {negative : Bool} {hours minutes : Nat} (hHours : hours < 24)
    (hMinutes : minutes < 60) :
    offset? ((if negative then '-' else '+') ::
        ((zeroPadded 2 hours).toList ++ ':' :: (zeroPadded 2 minutes).toList)) =
      some (if negative then -((hours * 3600 + minutes * 60 : Nat) : Int)
        else (hours * 3600 + minutes * 60 : Nat)) := by
  have hSize := offsetSize?_zeroPadded hHours hMinutes
  cases negative with
  | true => simp only [offset?, if_true, hSize, Option.map_some]
  | false => simp only [offset?, Bool.false_eq_true, if_false, hSize, Option.map_some]

def dateChars (date : Date) : List Char :=
  (zeroPadded 4 date.year.toNat).toList ++ '-' :: ((zeroPadded 2 date.month).toList ++
    '-' :: (zeroPadded 2 date.day).toList)

def clockChars (hour minute second : Nat) : List Char :=
  (zeroPadded 2 hour).toList ++ ':' :: ((zeroPadded 2 minute).toList ++
    ':' :: (zeroPadded 2 second).toList)

theorem date?_dateChars {date : Date} (hDate : date.IsCivil) (hYear : date.year < 10000)
    (rest : List Char) : date? (dateChars date ++ rest) = some (date, rest) := by
  obtain ⟨year, month, day⟩ := date
  obtain ⟨hYearLow, ⟨-, hMonth⟩, -, hDay⟩ := hDate
  obtain ⟨year, rfl⟩ := Int.eq_ofNat_of_zero_le hYearLow
  dsimp only at hMonth hDay
  have hMonthDays := Gregorian.monthLength_le (year : Int).toNat month
  have hYearText : ∀ rest, number? 4 ((zeroPadded 4 year).toList ++ rest) = some (year, rest) :=
    number?_zeroPadded (by decide) (Int.ofNat_lt.mp hYear)
  have hMonthText := number?_two (n := month) (by omega)
  have hDayText := number?_two (n := day) (by omega)
  simp [date?, dateChars, hYearText, hMonthText, hDayText, mark?_cons]

theorem clock?_clockChars {hour minute second : Nat} (hHour : hour < 24) (hMinute : minute < 60)
    (hSecond : second < 60) (rest : List Char) :
    clock? (clockChars hour minute second ++ rest) = some ((hour, minute, second), rest) := by
  have hHourText := number?_two (n := hour) (by omega)
  have hMinuteText := number?_two (n := minute) (by omega)
  have hSecondText := number?_two (n := second) (by omega)
  simp [clock?, clockChars, hHourText, hMinuteText, hSecondText, mark?_cons]

theorem read?_chars {s : Stamp} {fraction : List Char} (hValid : s.Valid)
    (hYear : s.date.year < 10000) (hFraction : fraction? (fraction ++ zone) = some (s.nanos, zone))
    (hOffset : offset? zone = some s.offset) :
    read? (dateChars s.date ++ ('T' :: (clockChars s.hour s.minute s.second ++
      (fraction ++ zone)))) = some s := by
  have hDate := date?_dateChars hValid.date hYear
  have hClock := clock?_clockChars hValid.hour hValid.minute hValid.second
  simp [read?, hDate, hClock, mark?_cons, hFraction, hOffset, hValid]

end Stamp

end Logline
