import Logline.Proofs.PlainText

/-! # Texts of instants

The layouts with a fixed form have texts without escapes, for every instant that a clock can show.
A pattern of a user may have any text.
-/

namespace Logline

open Text (Plain IsPlainChar every_ofList every_of_all)

/-- Nanoseconds go at most one second past a second. -/
def Instant.Valid (t : Instant) : Prop := t.nanos < 2000000000

instance (t : Instant) : Decidable t.Valid := inferInstanceAs (Decidable (_ < _))

theorem Date.ofDays_bounds (days : Int) :
    (Date.ofDays days).month < 100 ∧ (Date.ofDays days).day < 100 := by
  simp only [Date.ofDays]
  generalize days + 719468 = z
  have hLow := Int.emod_nonneg z (by decide : (146097 : Int) ≠ 0)
  have hHigh := Int.emod_lt_of_pos z (by decide : (0 : Int) < 146097)
  generalize z % 146097 = dayOfEra at hLow hHigh ⊢
  split <;> omega

theorem Instant.inZone_bounds {t : Instant} (ht : t.Valid) (zone : Zone) :
    (t.inZone zone).hour < 100 ∧ (t.inZone zone).minute < 100 ∧ (t.inZone zone).second < 100 := by
  unfold Valid at ht
  simp only [Instant.inZone]
  omega

namespace Time

theorem items?_text {c : Char} (hc : c ≠ '%') (r : List Char) :
    items? (c :: r) = (items? r).map (Item.text c :: ·) := by
  rw [items?]
  exact fun h => hc h

theorem items?_directive {r rest : List Char} {items : List Item}
    (h : directive? r = some (items, rest)) :
    items? ('%' :: r) = (items? rest).map (items ++ ·) := by
  rw [items?]
  split
  · rename_i hNone
    rw [h] at hNone
    cases hNone
  · rename_i hSome
    rw [h] at hSome
    cases hSome
    rfl

inductive Item.Fixed : Item → Prop
  | text {c : Char} : IsPlainChar c → Fixed (.text c)
  | number {field : NumberField} :
      field ∈ [.year, .month, .day, .hour, .minute, .second] → Fixed (.number field .zero)
  | fractionDigits (width : Nat) (point : Bool) : Fixed (.fractionDigits width point)
  | offsetColon : Fixed .offsetColon

def secondPattern : String := "%Y-%m-%dT%H:%M:%S"

theorem plainChar_digit {n : Nat} (hn : n < 10) : IsPlainChar (Char.ofNat (48 + n)) := by
  have hAll : ∀ k : Fin 10, IsPlainChar (Char.ofNat (48 + k)) := by decide
  exact hAll ⟨n, hn⟩

theorem plain_padByte {n : Nat} (hn : n < 100) : Plain (padByte .zero n) := by
  have hTens := plainChar_digit (n := n / 10) (by omega)
  have hOnes := plainChar_digit (n := n % 10) (by omega)
  refine every_ofList.mpr ?_
  simp [hTens, hOnes]

theorem plain_zeros (n : Nat) : Plain (String.ofList (List.replicate n '0')) := by
  refine every_ofList.mpr fun c hc => ?_
  rw [List.eq_of_mem_replicate hc]
  decide

theorem plain_padYear (year : Int) : Plain (padYear .zero year) := by
  have hNumber : ∀ (width : Nat) {sign : String} (n : Nat), Plain sign →
      Plain (padNumber .zero width sign n) := fun width sign n hSign =>
    (hSign.append (plain_zeros _)).append (Text.bare_nat n).plain
  have hNone : Plain "" := every_of_all (by decide)
  have hMinus : Plain "-" := every_of_all (by decide)
  have hPlus : Plain "+" := every_of_all (by decide)
  unfold padYear padInt
  split_ifs
  · exact hNumber 4 _ hMinus
  · exact hNumber 4 _ hNone
  · exact hNumber 5 _ hMinus
  · exact hNumber 5 _ hPlus

theorem plain_offsetText (offset : Int) : Plain (offsetText ":" offset) := by
  have hSign : Plain (offsetSign offset) := by
    unfold offsetSign
    split <;> exact every_of_all (by decide)
  have hColon : Plain ":" := every_of_all (by decide)
  exact ((hSign.append (Text.bare_zeroPadded _ _).plain).append hColon).append
    (Text.bare_zeroPadded _ _).plain

theorem Item.Fixed.plain {item : Item} (h : item.Fixed) {t : Instant} (ht : t.Valid) (zone : Zone) :
    Plain (item.render t zone (t.inZone zone)) := by
  obtain ⟨hHour, hMinute, hSecond⟩ := t.inZone_bounds ht zone
  obtain ⟨hMonth, hDay⟩ := Date.ofDays_bounds ((t.seconds + zone.offset) / 86400)
  cases h with
  | text hc => exact every_ofList.mpr (by simpa using hc)
  | number hField =>
    simp only [List.mem_cons, List.not_mem_nil, or_false] at hField
    rcases hField with rfl | rfl | rfl | rfl | rfl | rfl
    · exact plain_padYear _
    · exact plain_padByte hMonth
    · exact plain_padByte hDay
    · exact plain_padByte hHour
    · exact plain_padByte hMinute
    · exact plain_padByte hSecond
  | fractionDigits width point =>
    refine Text.Every.append ?_ (Text.bare_zeroPadded _ _).plain
    cases point <;> exact every_of_all (by decide)
  | offsetColon => exact plain_offsetText _

/-- Patterns whose items all have a fixed form. -/
def FixedPattern (cs : List Char) : Prop :=
  ∃ items, items? cs = some items ∧ ∀ item ∈ items, item.Fixed

theorem fixed_nil : FixedPattern [] := ⟨[], by rw [items?], by simp⟩

theorem FixedPattern.text {c : Char} {r : List Char} (hr : FixedPattern r) (hNe : c ≠ '%')
    (hc : IsPlainChar c) : FixedPattern (c :: r) := by
  obtain ⟨items, hItems, hFixed⟩ := hr
  refine ⟨.text c :: items, by rw [items?_text hNe, hItems]; rfl, ?_⟩
  exact List.forall_mem_cons.mpr ⟨.text hc, hFixed⟩

theorem FixedPattern.directive {r rest : List Char} {item : Item} (hRest : FixedPattern rest)
    (h : directive? r = some ([item], rest)) (hItem : item.Fixed) : FixedPattern ('%' :: r) := by
  obtain ⟨items, hItems, hFixed⟩ := hRest
  refine ⟨item :: items, by rw [items?_directive h, hItems]; rfl, ?_⟩
  exact List.forall_mem_cons.mpr ⟨hItem, hFixed⟩

theorem FixedPattern.second {r : List Char} (hr : FixedPattern r) :
    FixedPattern (secondPattern.toList ++ r) := by
  have hTime := (((((hr.directive (r := 'S' :: r) rfl (.number (by decide))).text
    (c := ':') (by decide) (by decide)).directive (r := 'M' :: _) rfl (.number (by decide))).text
    (c := ':') (by decide) (by decide)).directive (r := 'H' :: _) rfl (.number (by decide))).text
    (c := 'T') (by decide) (by decide)
  exact ((((hTime.directive (r := 'd' :: _) rfl (.number (by decide))).text
    (c := '-') (by decide) (by decide)).directive (r := 'm' :: _) rfl (.number (by decide))).text
    (c := '-') (by decide) (by decide)).directive (r := 'Y' :: _) rfl (.number (by decide))

theorem FixedPattern.plain {pattern : String} (h : FixedPattern pattern.toList) {t : Instant}
    (ht : t.Valid) (zone : Zone) : ∃ s, patternText? pattern t zone = some s ∧ Plain s := by
  obtain ⟨items, hItems, hFixed⟩ := h
  have hFold : ∀ s, Plain s → Plain
      (items.foldl (fun s item => s ++ item.render t zone (t.inZone zone)) s) := by
    clear hItems
    induction items with
    | nil => exact fun s hs => hs
    | cons item r ih =>
      obtain ⟨hItem, hRest⟩ := List.forall_mem_cons.mp hFixed
      exact fun s hs => ih hRest _ (hs.append (hItem.plain ht zone))
  refine ⟨_, ?_, hFold "" (every_of_all (by decide))⟩
  rw [patternText?, hItems]
  rfl

theorem fixed_ending (utc : Bool) : FixedPattern (if utc then "Z" else "%:z").toList := by
  cases utc with
  | true => exact fixed_nil.text (by decide) (by decide)
  | false => exact fixed_nil.directive (r := [':', 'z']) rfl .offsetColon

end Time

open Time (FixedPattern)

theorem plain_nanosText {t : Instant} (ht : t.Valid) : Plain t.nanosText := by
  have hPattern : FixedPattern "%Y-%m-%dT%H:%M:%S%.9fZ".toList :=
    ((Time.fixed_ending true).directive (r := ['.', '9', 'f', 'Z']) rfl
      (.fractionDigits 9 true)).second
  obtain ⟨s, hText, hPlain⟩ := hPattern.plain ht .universal
  rw [Instant.nanosText, hText]
  exact hPlain

/-- A layout with a fixed form ends in a fraction, if it has one, and in its zone. -/
theorem TimeLayout.fixed_pattern {layout : TimeLayout}
    (hCustom : ∀ pattern, layout ≠ .custom pattern) {utc : Bool} {pattern : String}
    (hPattern : layout.pattern? utc = some pattern) :
    FixedPattern pattern.toList := by
  have hEnding := Time.fixed_ending utc
  have hFraction : ∀ {start : String} {r : List Char} {width : Nat},
      start.toList = Time.secondPattern.toList ++ '%' :: r →
      (∀ rest, Time.directive? (r ++ rest) = some ([.fractionDigits width true], rest)) →
      FixedPattern (start ++ (if utc then "Z" else "%:z")).toList := by
    intro start r width hStart hDirective
    rw [String.toList_append, hStart, List.append_assoc]
    exact (hEnding.directive (hDirective _) (.fractionDigits _ _)).second
  cases layout with
  | iso8601Nanos =>
    obtain rfl := Option.some.inj hPattern
    exact hFraction (r := ['.', '9', 'f']) rfl fun _ => rfl
  | iso8601Micros =>
    obtain rfl := Option.some.inj hPattern
    exact hFraction (r := ['.', '6', 'f']) rfl fun _ => rfl
  | iso8601Millis =>
    obtain rfl := Option.some.inj hPattern
    exact hFraction (r := ['.', '3', 'f']) rfl fun _ => rfl
  | rfc3339 =>
    obtain rfl := Option.some.inj hPattern
    rw [String.toList_append]
    exact hEnding.second
  | custom pattern => exact absurd rfl (hCustom pattern)
  | unix => cases hPattern
  | unixMillis => cases hPattern
  | unixMicros => cases hPattern

theorem plain_layout {layout : TimeLayout} (hCustom : ∀ pattern, layout ≠ .custom pattern)
    (home : Zone) {t : Instant} (ht : t.Valid) (utc : Bool) : Plain (layout.text home t utc) := by
  cases hPattern : layout.pattern? utc with
  | some pattern =>
    obtain ⟨s, hText, hPlain⟩ :=
      (TimeLayout.fixed_pattern hCustom hPattern).plain ht (home.ofFlag utc)
    have hLayout : layout.text home t utc = s := by
      cases layout <;> cases hPattern <;> exact congrArg (·.getD t.nanosText) hText
    rw [hLayout]
    exact hPlain
  | none =>
    cases layout with
    | unix => exact (Text.bare_int _).plain
    | unixMillis => exact (Text.bare_int _).plain
    | unixMicros => exact (Text.bare_int _).plain
    | _ => cases hPattern

end Logline
