import Logline.Time.Calendar

/-! # Time patterns

Patterns in which a percent sign starts a directive. A pattern is read into items; one directive
that does not exist leaves the whole pattern without a text.
-/

namespace Logline.Time

inductive Pad where
  | none
  | zero
  | space
  deriving DecidableEq, Repr

inductive NumberField where
  | year
  | century
  | yearOfCentury
  | isoYear
  | isoYearOfCentury
  | quarter
  | month
  | day
  | weekFromSunday
  | weekFromMonday
  | isoWeek
  | weekdayFromSunday
  | weekdayFromMonday
  | dayOfYear
  | hour
  | hour12
  | minute
  | second
  | nanosecond
  | timestamp
  deriving DecidableEq, Repr

inductive Item where
  | text (c : Char)
  | number (field : NumberField) (pad : Pad)
  | shortMonth
  | longMonth
  | shortWeekday
  | longWeekday
  | lowerHalfDay
  | upperHalfDay
  /-- A point and three, six or nine digits, or nothing for a whole second. -/
  | fraction
  | fractionDigits (width : Nat) (point : Bool)
  | zoneName
  | offset
  | offsetColon
  | offsetSeconds
  | offsetHours
  | whole
  deriving DecidableEq, Repr

private def number (field : NumberField) : Item := .number field .zero

private def spaced (field : NumberField) : Item := .number field .space

private def bare (field : NumberField) : Item := .number field .none

private def clock : List Item :=
  [number .hour, .text ':', number .minute, .text ':', number .second]

private def slashedDate : List Item :=
  [number .month, .text '/', number .day, .text '/', number .yearOfCentury]

def letterItems? : Char → Option (List Item)
  | 'A' => some [.longWeekday]
  | 'B' => some [.longMonth]
  | 'C' => some [number .century]
  | 'D' => some slashedDate
  | 'F' => some [number .year, .text '-', number .month, .text '-', number .day]
  | 'G' => some [number .isoYear]
  | 'H' => some [number .hour]
  | 'I' => some [number .hour12]
  | 'M' => some [number .minute]
  | 'P' => some [.lowerHalfDay]
  | 'R' => some [number .hour, .text ':', number .minute]
  | 'S' => some [number .second]
  | 'T' => some clock
  | 'U' => some [number .weekFromSunday]
  | 'V' => some [number .isoWeek]
  | 'W' => some [number .weekFromMonday]
  | 'X' => some clock
  | 'Y' => some [number .year]
  | 'Z' => some [.zoneName]
  | 'a' => some [.shortWeekday]
  | 'b' => some [.shortMonth]
  | 'c' => some ([.shortWeekday, .text ' ', .shortMonth, .text ' ', spaced .day, .text ' '] ++
      clock ++ [.text ' ', number .year])
  | 'd' => some [number .day]
  | 'e' => some [spaced .day]
  | 'f' => some [number .nanosecond]
  | 'g' => some [number .isoYearOfCentury]
  | 'h' => some [.shortMonth]
  | 'j' => some [number .dayOfYear]
  | 'k' => some [spaced .hour]
  | 'l' => some [spaced .hour12]
  | 'm' => some [number .month]
  | 'n' => some [.text '\n']
  | 'p' => some [.upperHalfDay]
  | 'q' => some [bare .quarter]
  | 'r' => some [number .hour12, .text ':', number .minute, .text ':', number .second, .text ' ',
      .upperHalfDay]
  | 's' => some [bare .timestamp]
  | 't' => some [.text '\t']
  | 'u' => some [bare .weekdayFromMonday]
  | 'v' => some [spaced .day, .text '-', .shortMonth, .text '-', number .year]
  | 'w' => some [bare .weekdayFromSunday]
  | 'x' => some slashedDate
  | 'y' => some [number .yearOfCentury]
  | 'z' => some [.offset]
  | '+' => some [.whole]
  | '%' => some [.text '%']
  | _ => none

/-- A directive of one number takes a padding of its own, no other directive does. -/
def paddedItems? (pad : Pad) (c : Char) : Option (List Item) :=
  match letterItems? c with
  | some [.number field _] => some [.number field pad]
  | _ => none

def directive? : List Char → Option (List Item × List Char)
  | '-' :: c :: r => (paddedItems? .none c).map (·, r)
  | '0' :: c :: r => (paddedItems? .zero c).map (·, r)
  | '_' :: c :: r => (paddedItems? .space c).map (·, r)
  | ':' :: ':' :: ':' :: 'z' :: r => some ([.offsetHours], r)
  | ':' :: ':' :: 'z' :: r => some ([.offsetSeconds], r)
  | ':' :: 'z' :: r => some ([.offsetColon], r)
  | '.' :: 'f' :: r => some ([.fraction], r)
  | '.' :: '3' :: 'f' :: r => some ([.fractionDigits 3 true], r)
  | '.' :: '6' :: 'f' :: r => some ([.fractionDigits 6 true], r)
  | '.' :: '9' :: 'f' :: r => some ([.fractionDigits 9 true], r)
  | '3' :: 'f' :: r => some ([.fractionDigits 3 false], r)
  | '6' :: 'f' :: r => some ([.fractionDigits 6 false], r)
  | '9' :: 'f' :: r => some ([.fractionDigits 9 false], r)
  | c :: r => (letterItems? c).map (·, r)
  | [] => none

theorem directive?_length {cs r : List Char} {items : List Item}
    (h : directive? cs = some (items, r)) : r.length < cs.length := by
  unfold directive? at h
  split at h <;> simp at h <;> (try obtain ⟨_, _, _, rfl⟩ := h) <;> simp <;> omega

def items? (cs : List Char) : Option (List Item) :=
  match cs with
  | [] => some []
  | '%' :: r =>
    match h : directive? r with
    | none => none
    | some (items, rest) =>
      have : rest.length < r.length := directive?_length h
      (items? rest).map (items ++ ·)
  | c :: r => (items? r).map (Item.text c :: ·)
termination_by cs.length

def monthNames : List String :=
  ["January", "February", "March", "April", "May", "June", "July", "August", "September",
    "October", "November", "December"]

def weekdayNames : List String :=
  ["Sunday", "Monday", "Tuesday", "Wednesday", "Thursday", "Friday", "Saturday"]

def shortName (name : String) : String := String.ofList (name.toList.take 3)

/-- Fills `text` up to `width` characters; zeros go behind a sign. -/
def padNumber (pad : Pad) (width : Nat) (sign : String) (n : Nat) : String :=
  let digits := toString n
  let fill := width - sign.length - digits.length
  match pad with
  | .none => sign ++ digits
  | .zero => sign ++ String.ofList (List.replicate fill '0') ++ digits
  | .space => String.ofList (List.replicate fill ' ') ++ sign ++ digits

def padInt (pad : Pad) (width : Nat) (n : Int) : String :=
  padNumber pad width (if n < 0 then "-" else "") n.natAbs

/-- Years outside of four digits carry a sign. -/
def padYear (pad : Pad) (year : Int) : String :=
  if 0 ≤ year ∧ year < 10000 then padInt pad 4 year
  else padNumber pad 5 (if year < 0 then "-" else "+") year.natAbs

/-- Two digits of a byte; more than nine tens are the characters that follow the digits. -/
def padByte (pad : Pad) (n : Nat) : String :=
  let ones := Char.ofNat (48 + n % 10)
  let tens := Char.ofNat (48 + n / 10)
  match pad, n / 10 with
  | .none, 0 => String.ofList [ones]
  | .space, 0 => String.ofList [' ', ones]
  | _, _ => String.ofList [tens, ones]

def hourOfHalfDay (hour : Nat) : Nat := if hour % 12 = 0 then 12 else hour % 12

def numberText (t : Instant) (l : LocalTime) (pad : Pad) : NumberField → String
  | .year => padYear pad l.date.year
  | .century => padByte pad (l.date.year / 100 % 256).toNat
  | .yearOfCentury => padByte pad (l.date.year % 100).toNat
  | .isoYear => padYear pad l.date.isoWeek.1
  | .isoYearOfCentury => padByte pad (l.date.isoWeek.1 % 100).toNat
  | .quarter => toString ((l.date.month + 2) / 3)
  | .month => padByte pad l.date.month
  | .day => padByte pad l.date.day
  | .weekFromSunday => padByte pad (l.date.weeksFrom 0)
  | .weekFromMonday => padByte pad (l.date.weeksFrom 1)
  | .isoWeek => padByte pad l.date.isoWeek.2
  | .weekdayFromSunday => toString l.date.weekday
  | .weekdayFromMonday => toString l.date.weekdayFromMonday
  | .dayOfYear => padInt pad 3 l.date.dayOfYear
  | .hour => padByte pad l.hour
  | .hour12 => padByte pad (hourOfHalfDay l.hour)
  | .minute => padByte pad l.minute
  | .second => padByte pad l.second
  | .nanosecond => padInt pad 9 l.nanos
  | .timestamp => padInt pad 9 t.seconds

def fractionText (nanos : Nat) : String :=
  if nanos = 0 then ""
  else if nanos % 1000000 = 0 then "." ++ zeroPadded 3 (nanos / 1000000)
  else if nanos % 1000 = 0 then "." ++ zeroPadded 6 (nanos / 1000)
  else "." ++ zeroPadded 9 nanos

def offsetSign (offset : Int) : String := if offset < 0 then "-" else "+"

/-- Hours and minutes of an offset, rounded to the minute. -/
def offsetText (colon : String) (offset : Int) : String :=
  let minutes := (offset.natAbs + 30) / 60
  offsetSign offset ++ zeroPadded 2 (minutes / 60) ++ colon ++ zeroPadded 2 (minutes % 60)

def offsetSecondsText (offset : Int) : String :=
  let n := offset.natAbs
  offsetSign offset ++ zeroPadded 2 (n / 3600) ++ ":" ++ zeroPadded 2 (n / 60 % 60) ++ ":" ++
    zeroPadded 2 (n % 60)

def dateTimeText (l : LocalTime) : String :=
  padYear .zero l.date.year ++ "-" ++ zeroPadded 2 l.date.month ++ "-" ++ zeroPadded 2 l.date.day ++
    "T" ++ zeroPadded 2 l.hour ++ ":" ++ zeroPadded 2 l.minute ++ ":" ++ zeroPadded 2 l.second ++
    fractionText l.nanos

def Item.render (t : Instant) (zone : Zone) (l : LocalTime) : Item → String
  | .text c => String.ofList [c]
  | .number field pad => numberText t l pad field
  | .shortMonth => shortName (monthNames.getD (l.date.month - 1) "")
  | .longMonth => monthNames.getD (l.date.month - 1) ""
  | .shortWeekday => shortName (weekdayNames.getD l.date.weekday "")
  | .longWeekday => weekdayNames.getD l.date.weekday ""
  | .lowerHalfDay => if l.hour < 12 then "am" else "pm"
  | .upperHalfDay => if l.hour < 12 then "AM" else "PM"
  | .fraction => fractionText l.nanos
  | .fractionDigits width point =>
    (if point then "." else "") ++ zeroPadded width (l.nanos / Nat.pow 10 (9 - width))
  | .zoneName => zone.name
  | .offset => offsetText "" zone.offset
  | .offsetColon => offsetText ":" zone.offset
  | .offsetSeconds => offsetSecondsText zone.offset
  | .offsetHours => offsetSign zone.offset ++ zeroPadded 2 (zone.offset.natAbs / 3600)
  | .whole => dateTimeText l ++ offsetText ":" zone.offset

def patternText? (pattern : String) (t : Instant) (zone : Zone) : Option String :=
  (items? pattern.toList).map fun items =>
    let l := t.inZone zone
    items.foldl (fun s item => s ++ item.render t zone l) ""

end Logline.Time
