import Logline.Proofs.FramedWrites
import Logline.Proofs.StampReading
import Logline.Proofs.TimeText

/-! # The instant behind a layout

All layouts of a fixed form show one instant, rounded down to their last place. The dates are read
back in any zone whose offset has whole minutes. The whole numbers count their last place from 1970.
A pattern without a text leaves the finest date in universal time and nothing else.
-/

namespace Logline

open Text (utf8)

/-- The nanoseconds from the start of 1970. -/
def Instant.total (t : Instant) : Int := t.seconds * 1000000000 + t.nanos

/-- The nanoseconds in a unit of the last of `places` places behind the second. -/
def unitOf (places : Nat) : Nat := 10 ^ (9 - places)

/-- The nanoseconds from 1970, rounded down to the last of `places` places. -/
def Instant.floor (t : Instant) (places : Nat) : Int := t.total / unitOf places * unitOf places

structure Zone.WholeMinutes (zone : Zone) : Prop where
  minutes : zone.offset % 60 = 0
  day : -86400 < zone.offset ∧ zone.offset < 86400

/-- The year of an instant has four digits in a zone. -/
def Instant.FourDigits (t : Instant) (zone : Zone) : Prop :=
  0 ≤ (t.inZone zone).date.year ∧ (t.inZone zone).date.year < 10000

/-! ## Clocks -/

section Clocks

variable {t : Instant} {zone : Zone}

/-- What an instant shows in a zone, as a stamp with its nanoseconds cut to some places. -/
def Instant.stamp (t : Instant) (zone : Zone) (places : Nat) : Stamp :=
  let l := t.inZone zone
  ⟨l.date, l.hour, l.minute, l.second, t.nanos / unitOf places * unitOf places, zone.offset⟩

theorem Instant.clock_inZone (hNanos : t.nanos < 1000000000) (zone : Zone) :
    let l := t.inZone zone
    (l.hour < 24 ∧ l.minute < 60 ∧ l.second < 60 ∧ l.nanos = t.nanos) ∧
      ((l.hour * 3600 + l.minute * 60 + l.second : Nat) : Int) =
        (t.seconds + zone.offset) % 86400 := by
  have hLow := Int.emod_nonneg (t.seconds + zone.offset) (by decide : (86400 : Int) ≠ 0)
  have hHigh := Int.emod_lt_of_pos (t.seconds + zone.offset) (by decide : (0 : Int) < 86400)
  simp only [Instant.inZone]
  omega

theorem Instant.valid_stamp (hNanos : t.nanos < 1000000000) (hYear : t.FourDigits zone)
    (places : Nat) : (t.stamp zone places).Valid := by
  obtain ⟨⟨hHour, hMinute, hSecond, -⟩, -⟩ := t.clock_inZone hNanos zone
  exact ⟨(Date.civil_ofDays hYear.1).1, hHour, hMinute, hSecond⟩

theorem Instant.total_stamp (hNanos : t.nanos < 1000000000) (hYear : t.FourDigits zone)
    {places : Nat} (hPlaces : places ∈ [0, 3, 6, 9]) :
    (t.stamp zone places).total = t.floor places := by
  obtain ⟨-, hClock⟩ := t.clock_inZone hNanos zone
  have hDays : (t.inZone zone).date.dayNumber = (t.seconds + zone.offset) / 86400 :=
    (Date.civil_ofDays hYear.1).2
  simp only [Stamp.total, Instant.stamp, hDays, hClock, Instant.floor, Instant.total]
  simp only [List.mem_cons, List.not_mem_nil, or_false] at hPlaces
  rcases hPlaces with rfl | rfl | rfl | rfl <;> simp only [unitOf] <;> omega

end Clocks

/-! ## Texts -/

namespace Time

theorem offset?_offsetText {zone : Zone} (h : zone.WholeMinutes) :
    Stamp.offset? (offsetText ":" zone.offset).toList = some zone.offset := by
  obtain ⟨hMinutes, hLow, hHigh⟩ := h
  have hText : (offsetText ":" zone.offset).toList =
      (if decide (zone.offset < 0) then '-' else '+') ::
        ((zeroPadded 2 ((zone.offset.natAbs + 30) / 60 / 60)).toList ++
          ':' :: (zeroPadded 2 ((zone.offset.natAbs + 30) / 60 % 60)).toList) := by
    have hSign : (offsetSign zone.offset).toList =
        [if decide (zone.offset < 0) then '-' else '+'] := by
      unfold offsetSign
      by_cases hNegative : zone.offset < 0 <;> simp [hNegative]
    simp [offsetText, hSign]
  rw [hText, Stamp.offset?_signed (by omega) (by omega)]
  by_cases hNegative : zone.offset < 0
  · rw [decide_eq_true hNegative, if_pos rfl]
    congr 1
    omega
  · rw [decide_eq_false hNegative, if_neg Bool.false_ne_true]
    congr 1
    omega

theorem padByte_eq {n : Nat} (hn : n < 100) : padByte .zero n = zeroPadded 2 n := by
  have hAll : ∀ k : Fin 100, padByte .zero k = zeroPadded 2 k := by decide +kernel
  exact hAll ⟨n, hn⟩

theorem padYear_eq {year : Int} (hLow : 0 ≤ year) (hHigh : year < 10000) :
    padYear .zero year = zeroPadded 4 year.toNat := by
  obtain ⟨year, rfl⟩ := Int.eq_ofNat_of_zero_le hLow
  have hSign : ¬ (year : Int) < 0 := by omega
  rw [padYear, if_pos ⟨hLow, hHigh⟩, padInt, if_neg hSign]
  simp [padNumber, zeroPadded, Nat.repr_eq_ofList_toDigits, String.ofList_append]

def secondItems : List Item :=
  [.number .year .zero, .text '-', .number .month .zero, .text '-', .number .day .zero, .text 'T',
    .number .hour .zero, .text ':', .number .minute .zero, .text ':', .number .second .zero]

theorem items?_second (r : List Char) :
    items? (secondPattern.toList ++ r) = (items? r).map (secondItems ++ ·) := by
  have hNumber : ∀ (c : Char) (field : NumberField) (r : List Char),
      directive? (c :: r) = some ([.number field .zero], r) →
      items? ('%' :: c :: r) = (items? r).map (Item.number field .zero :: ·) :=
    fun _ _ _ hDirective => items?_directive hDirective
  have hPattern : secondPattern.toList ++ r = '%' :: 'Y' :: '-' :: '%' :: 'm' :: '-' :: '%' ::
      'd' :: 'T' :: '%' :: 'H' :: ':' :: '%' :: 'M' :: ':' :: '%' :: 'S' :: r := rfl
  rw [hPattern, hNumber 'Y' .year _ rfl, items?_text (by decide), hNumber 'm' .month _ rfl,
    items?_text (by decide), hNumber 'd' .day _ rfl, items?_text (by decide),
    hNumber 'H' .hour _ rfl, items?_text (by decide), hNumber 'M' .minute _ rfl,
    items?_text (by decide), hNumber 'S' .second _ rfl]
  simp only [Option.map_map]
  rfl

theorem toList_foldl_render (f : Item → String) (items : List Item) (s : String) :
    (items.foldl (fun s item => s ++ f item) s).toList =
      s.toList ++ items.flatMap fun item => (f item).toList := by
  induction items generalizing s with
  | nil => simp
  | cons item items ih => simp [ih]

/-- The characters of a pattern's items. -/
def itemChars (t : Instant) (zone : Zone) (items : List Item) : List Char :=
  items.flatMap fun item => (item.render t zone (t.inZone zone)).toList

theorem itemChars_append (t : Instant) (zone : Zone) (items more : List Item) :
    itemChars t zone (items ++ more) = itemChars t zone items ++ itemChars t zone more :=
  List.flatMap_append

theorem exists_patternText {pattern : String} {items : List Item}
    (h : items? pattern.toList = some items) (t : Instant) (zone : Zone) :
    ∃ s, patternText? pattern t zone = some s ∧ s.toList = itemChars t zone items := by
  refine ⟨_, by rw [patternText?, h, Option.map_some], ?_⟩
  rw [toList_foldl_render]
  rfl

section Items

variable {t : Instant} {zone : Zone} {places : Nat}

theorem itemChars_second (hNanos : t.nanos < 1000000000) (hYear : t.FourDigits zone) :
    let l := t.inZone zone
    itemChars t zone secondItems =
      Stamp.dateChars l.date ++ 'T' :: Stamp.clockChars l.hour l.minute l.second := by
  have hMonth : (t.inZone zone).date.month < 100 := (Date.ofDays_bounds _).1
  have hDay : (t.inZone zone).date.day < 100 := (Date.ofDays_bounds _).2
  obtain ⟨⟨hHour, hMinute, hSecond, -⟩, -⟩ := t.clock_inZone hNanos zone
  simp only [itemChars, secondItems, List.flatMap_cons, List.flatMap_nil, Item.render, numberText,
    padYear_eq hYear.1 hYear.2, padByte_eq hMonth, padByte_eq hDay,
    padByte_eq (hHour.trans (by decide)), padByte_eq (hMinute.trans (by decide)),
    padByte_eq (hSecond.trans (by decide))]
  simp [Stamp.dateChars, Stamp.clockChars]

/-- The fraction of a layout with some places behind the second. -/
def fractionItems (places : Nat) : List Item :=
  if places = 0 then [] else [.fractionDigits places true]

theorem fraction?_itemChars (hNanos : t.nanos < 1000000000) (hPlaces : places ∈ [0, 3, 6, 9])
    {rest : List Char} (hRest : ∀ c ∈ rest.head?, c ≠ '.' ∧ ¬ c.isDigit) :
    Stamp.fraction? (itemChars t zone (fractionItems places) ++ rest) =
      some (t.nanos / unitOf places * unitOf places, rest) := by
  have hSub : (t.inZone zone).nanos = t.nanos := Nat.mod_eq_of_lt hNanos
  by_cases hNone : places = 0
  · subst hNone
    have hZero : t.nanos / unitOf 0 = 0 := Nat.div_eq_of_lt hNanos
    rw [hZero, Nat.zero_mul]
    exact Stamp.fraction?_of_head fun c hc => (hRest c hc).1
  · have hWidth : 0 < places ∧ places ≤ 9 := by
      simp only [List.mem_cons, List.not_mem_nil, or_false] at hPlaces
      omega
    have hFits : t.nanos / unitOf places < 10 ^ places := by
      simp only [List.mem_cons, List.not_mem_nil, or_false] at hPlaces
      rcases hPlaces with rfl | rfl | rfl | rfl <;> simp only [unitOf] <;> omega
    have hChars : itemChars t zone (fractionItems places) =
        '.' :: (zeroPadded places (t.nanos / unitOf places)).toList := by
      simp [itemChars, fractionItems, hNone, Item.render, hSub, unitOf]
    rw [hChars]
    exact Stamp.fraction?_zeroPadded hWidth hFits fun c hc => (hRest c hc).2

/-- The end of a layout: a letter for universal time, an offset for another zone. -/
def endItem (utc : Bool) : Item := if utc then .text 'Z' else .offsetColon

theorem itemChars_endItem (home : Zone) (t : Instant) (utc : Bool) :
    itemChars t (home.ofFlag utc) [endItem utc] =
      if utc then ['Z'] else (offsetText ":" home.offset).toList := by
  cases utc with
  | true => simp [itemChars, endItem, Item.render]
  | false => simp [itemChars, endItem, Item.render, Zone.ofFlag]

theorem offset?_endItem {home : Zone} (hHome : home.WholeMinutes) (t : Instant) (utc : Bool) :
    Stamp.offset? (itemChars t (home.ofFlag utc) [endItem utc]) =
      some (home.ofFlag utc).offset := by
  rw [itemChars_endItem]
  cases utc with
  | true => rfl
  | false => exact offset?_offsetText hHome

theorem head_endItem (home : Zone) (t : Instant) (utc : Bool) :
    ∀ c ∈ (itemChars t (home.ofFlag utc) [endItem utc]).head?, c ≠ '.' ∧ ¬ c.isDigit := by
  rw [itemChars_endItem]
  cases utc with
  | true => simp
  | false =>
    by_cases hNegative : home.offset < 0 <;> simp [offsetText, offsetSign, hNegative]

def layoutItems (places : Nat) (utc : Bool) : List Item :=
  secondItems ++ (fractionItems places ++ [endItem utc])

theorem read?_itemChars {home : Zone} (hHome : home.WholeMinutes) (hNanos : t.nanos < 1000000000)
    (hPlaces : places ∈ [0, 3, 6, 9]) {utc : Bool} (hYear : t.FourDigits (home.ofFlag utc)) :
    Stamp.read? (itemChars t (home.ofFlag utc) (layoutItems places utc)) =
      some (t.stamp (home.ofFlag utc) places) := by
  have hFraction : Stamp.fraction? (itemChars t (home.ofFlag utc) (fractionItems places) ++
      itemChars t (home.ofFlag utc) [endItem utc]) = some ((t.stamp (home.ofFlag utc) places).nanos,
        itemChars t (home.ofFlag utc) [endItem utc]) :=
    fraction?_itemChars hNanos hPlaces (head_endItem home t utc)
  have hRead := Stamp.read?_chars (t.valid_stamp hNanos hYear places) hYear.2 hFraction
    (offset?_endItem hHome t utc)
  rw [layoutItems, itemChars_append, itemChars_append, itemChars_second hNanos hYear,
    List.append_assoc, List.cons_append]
  exact hRead

end Items

theorem items?_ending (utc : Bool) :
    items? (if utc then "Z" else "%:z").toList = some [endItem utc] := by
  have hEnd : items? [] = some [] := by rw [items?]
  cases utc with
  | true =>
    show items? ['Z'] = _
    rw [items?_text (by decide), hEnd]
    rfl
  | false =>
    show items? ['%', ':', 'z'] = _
    rw [items?_directive (r := [':', 'z']) rfl, hEnd]
    rfl

theorem items?_places {start : String} {fraction : List Char} {places : Nat} (utc : Bool)
    (hStart : start.toList = secondPattern.toList ++ fraction)
    (hFraction : ∀ r, items? (fraction ++ r) = (items? r).map (fractionItems places ++ ·)) :
    items? (start ++ (if utc then "Z" else "%:z")).toList = some (layoutItems places utc) := by
  rw [String.toList_append, hStart, List.append_assoc, items?_second, hFraction, items?_ending]
  rfl

end Time

namespace TimeLayout

open Time (items? items?_directive items?_places layoutItems patternText?)

/-- The layouts of dates, with the places that each has behind the second. -/
def dated : List (TimeLayout × Nat) :=
  [(iso8601Nanos, 9), (iso8601Micros, 6), (iso8601Millis, 3), (rfc3339, 0)]

/-- The layouts of whole numbers, with the places behind the second that each counts. -/
def counted : List (TimeLayout × Nat) := [(unixMicros, 6), (unixMillis, 3), (unix, 0)]

variable {layout : TimeLayout} {places : Nat} {t : Instant} {home : Zone}

theorem exists_pattern (h : (layout, places) ∈ dated) (utc : Bool) : ∃ pattern,
    layout.pattern? utc = some pattern ∧ items? pattern.toList = some (layoutItems places utc) := by
  have hFraction : ∀ {start : String} {places : Nat} {digit : Char},
      start.toList = Time.secondPattern.toList ++ ['%', '.', digit, 'f'] →
      (∀ r, Time.directive? ('.' :: digit :: 'f' :: r) = some (Time.fractionItems places, r)) →
      items? (start ++ (if utc then "Z" else "%:z")).toList = some (layoutItems places utc) :=
    fun hStart hDirective => items?_places utc hStart fun r => items?_directive (hDirective r)
  simp only [dated, List.mem_cons, Prod.mk.injEq, List.not_mem_nil, or_false] at h
  rcases h with ⟨rfl, rfl⟩ | ⟨rfl, rfl⟩ | ⟨rfl, rfl⟩ | ⟨rfl, rfl⟩
  · exact ⟨_, rfl, hFraction rfl fun _ => rfl⟩
  · exact ⟨_, rfl, hFraction rfl fun _ => rfl⟩
  · exact ⟨_, rfl, hFraction rfl fun _ => rfl⟩
  · exact ⟨_, rfl, items?_places utc rfl fun r => by simp [Time.fractionItems]⟩

theorem toList_text (h : (layout, places) ∈ dated) (home : Zone) (t : Instant) (utc : Bool) :
    (layout.text home t utc).toList =
      Time.itemChars t (home.ofFlag utc) (layoutItems places utc) := by
  obtain ⟨pattern, hPattern, hItems⟩ := exists_pattern h utc
  obtain ⟨s, hText, hChars⟩ := Time.exists_patternText hItems t (home.ofFlag utc)
  have hNumeric : ∀ e ∈ dated, ¬ e.1.isNumeric := by decide
  rw [text_eq (hNumeric _ h), hPattern, Option.bind_some, hText, Option.getD_some, hChars]

theorem text_nanos (home : Zone) (t : Instant) :
    iso8601Nanos.text home t true = t.nanosText := by
  have hPattern : iso8601Nanos.pattern? true = some "%Y-%m-%dT%H:%M:%S%.9fZ" := by decide
  rw [text_eq (by decide), hPattern, Option.bind_some, Instant.nanosText]
  show (patternText? "%Y-%m-%dT%H:%M:%S%.9fZ" t .universal).getD _ = _
  cases patternText? "%Y-%m-%dT%H:%M:%S%.9fZ" t .universal with
  | none => rfl
  | some s => rfl

/-- A pattern that cannot be read gives the finest date in universal time. -/
theorem text_custom {pattern : String} (h : items? pattern.toList = none) (home : Zone)
    (t : Instant) (utc : Bool) :
    (custom pattern).text home t utc = iso8601Nanos.text home t true := by
  have hNone : patternText? pattern t (home.ofFlag utc) = none := by
    rw [patternText?, h, Option.map_none]
  rw [text_nanos, text_eq (by simp [isNumeric]), pattern?, Option.bind_some, hNone,
    Option.getD_none]

theorem text_counted (h : (layout, places) ∈ counted) (hNanos : t.nanos < 1000000000)
    (home : Zone) (utc : Bool) :
    layout.text home t utc = toString (t.total / unitOf places) := by
  simp only [counted, List.mem_cons, Prod.mk.injEq, List.not_mem_nil, or_false] at h
  rcases h with ⟨rfl, rfl⟩ | ⟨rfl, rfl⟩ | ⟨rfl, rfl⟩
  · show toString t.micros = _
    congr 1
    simp only [Instant.micros, Instant.total, unitOf]
    omega
  · show toString t.millis = _
    congr 1
    simp only [Instant.millis, Instant.total, unitOf]
    omega
  · show toString t.seconds = _
    congr 1
    simp only [Instant.total, unitOf]
    omega

theorem counted_bounds (h : (layout, places) ∈ counted) (hNanos : t.nanos < 1000000000)
    (hYear : t.FourDigits .universal) :
    -2 ^ 63 ≤ t.total / unitOf places ∧ t.total / unitOf places < 2 ^ 63 := by
  obtain ⟨hLow, hHigh⟩ := Date.days_bounds hYear.1 hYear.2
  simp only [Zone.universal, Int.add_zero] at hLow hHigh
  simp only [counted, List.mem_cons, Prod.mk.injEq, List.not_mem_nil, or_false] at h
  rcases h with ⟨-, rfl⟩ | ⟨-, rfl⟩ | ⟨-, rfl⟩ <;> simp only [Instant.total, unitOf] <;> omega

end TimeLayout

/-! ## Writes -/

namespace Buffer

/-- Whatever a pattern without a text has written, it is cut off at the mark. -/
theorem framed_layoutIn {slack : Nat} {left : String} (hLeft : (utf8 left).length ≤ slack)
    (home : Zone) (layout : TimeLayout) (t : Instant) (utc : Bool) :
    Framed slack (·.writeLayoutIn home left layout t utc) (utf8 (layout.text home t utc)) := by
  have hDated : ¬ layout.isNumeric → Framed slack (·.writeLayoutIn home left layout t utc)
      (utf8 (layout.text home t utc)) := by
    intro hNumeric b
    dsimp only
    rw [TimeLayout.text_eq hNumeric]
    cases hText : (layout.pattern? utc).bind (Time.patternText? · t (home.ofFlag utc)) with
    | some s =>
      rw [writeLayoutIn_of_text hNumeric hText]
      exact Framed.pushText s b
    | none =>
      rw [writeLayoutIn_of_none hNumeric hText]
      have hBehind : Behind 0 b (utf8 left) (b.pushText left) := Framed.pushText left b
      refine hBehind.replace (Nat.le_add_left_of_le hLeft) fun d hd => ?_
      exact (Framed.pushText t.nanosText _).of_toList (truncate_of_append hd)
  cases layout with
  | unix => exact Framed.pushText _
  | unixMillis => exact Framed.pushText _
  | unixMicros => exact Framed.pushText _
  | _ => exact hDated (by simp [TimeLayout.isNumeric])

end Buffer

/-- A date in any layout, at home or in universal time, is read back as the instant, rounded down to
the last place of the layout. The whole numbers count the same instants and fit in 64 bits. A
pattern that cannot be read leaves the finest date in universal time in the place of what it has
written. -/
theorem Instant.layouts_show {home : Zone} (hHome : home.WholeMinutes) {t : Instant}
    (hNanos : t.nanos < 1000000000) (hUniversal : t.FourDigits .universal)
    (hLocal : t.FourDigits home) :
    (∀ layout places, (layout, places) ∈ TimeLayout.dated → ∀ utc, ∃ s,
      Stamp.read? (layout.text home t utc).toList = some s ∧ s.Valid ∧
        s.offset = (home.ofFlag utc).offset ∧ s.total = t.floor places) ∧
    (∀ layout places, (layout, places) ∈ TimeLayout.counted → ∀ utc,
      layout.text home t utc = toString (t.total / unitOf places) ∧
        -2 ^ 63 ≤ t.total / unitOf places ∧ t.total / unitOf places < 2 ^ 63) ∧
    t.floor 9 = t.total ∧
    (∀ pattern, Time.items? pattern.toList = none → ∀ utc,
      (TimeLayout.custom pattern).text home t utc =
        TimeLayout.iso8601Nanos.text home t true) ∧
    (∀ slack left, (utf8 left).length ≤ slack → ∀ layout utc,
      Buffer.Writes slack (·.writeLayoutIn home left layout t utc)
        (utf8 (layout.text home t utc))) ∧
    ∀ (b : Buffer) layout utc,
      b.writeLayout home layout t utc = b.pushText (layout.text home t utc) := by
  have hZone : ∀ utc, t.FourDigits (home.ofFlag utc) := by
    intro utc
    cases utc with
    | true => exact hUniversal
    | false => exact hLocal
  refine ⟨?_, ?_, ?_, ?_, ?_, ?_⟩
  · intro layout places hDated utc
    have hPlaces : ∀ e ∈ TimeLayout.dated, e.2 ∈ [0, 3, 6, 9] := by decide
    refine ⟨t.stamp (home.ofFlag utc) places, ?_, ?_, rfl, ?_⟩
    · rw [TimeLayout.toList_text hDated]
      exact Time.read?_itemChars hHome hNanos (hPlaces _ hDated) (hZone utc)
    · exact t.valid_stamp hNanos (hZone utc) places
    · exact t.total_stamp hNanos (hZone utc) (hPlaces _ hDated)
  · intro layout places hCounted utc
    exact ⟨TimeLayout.text_counted hCounted hNanos home utc,
      TimeLayout.counted_bounds hCounted hNanos hUniversal⟩
  · simp [Instant.floor, unitOf]
  · intro pattern hNone utc
    exact TimeLayout.text_custom hNone home t utc
  · intro slack left hLeft layout utc
    exact (Buffer.framed_layoutIn hLeft home layout t utc).writes
  · intro b layout utc
    exact b.writeLayout_eq home layout t utc

/-- The last nanosecond before 1970, in a zone behind universal time. -/
theorem Instant.layouts_show_of_eve :
    let home : Zone := ⟨-12600, "-03:30"⟩
    let t : Instant := ⟨-1, 999999999⟩
    (home.WholeMinutes ∧ t.nanos < 1000000000 ∧ t.FourDigits .universal ∧ t.FourDigits home) ∧
      (TimeLayout.rfc3339.text home t false).toList = "1969-12-31T20:29:59-03:30".toList ∧
      (∃ s, Stamp.read? (TimeLayout.rfc3339.text home t false).toList = some s ∧
        s.offset = -12600 ∧ s.total = -1000000000) ∧
      TimeLayout.unix.text home t false = "-1" := by
  intro home t
  have hHome : home.WholeMinutes := ⟨by decide, by decide⟩
  have hUniversal : t.FourDigits .universal := ⟨by decide, by decide⟩
  have hLocal : t.FourDigits home := ⟨by decide, by decide⟩
  obtain ⟨hDated, hCounted, -⟩ := Instant.layouts_show hHome (by decide) hUniversal hLocal
  refine ⟨⟨hHome, by decide, hUniversal, hLocal⟩, ?_, ?_, ?_⟩
  · have hDate : (TimeLayout.rfc3339, 0) ∈ TimeLayout.dated := by decide
    rw [TimeLayout.toList_text hDate]
    decide +kernel
  · obtain ⟨s, hRead, -, hOffset, hTotal⟩ := hDated .rfc3339 0 (by decide) false
    exact ⟨s, hRead, hOffset, hTotal.trans (by decide)⟩
  · exact (hCounted .unix 0 (by decide) false).1.trans (by decide)

end Logline
