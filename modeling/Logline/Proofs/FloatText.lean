import Logline.Proofs.NumberText
import Logline.Proofs.ShortestDecimals

/-! # Texts of binary numbers

Both ways to write a decimal stand for its digits times its power of ten. A decimal without digits
other than zero would get zeros in front, so it is shown first that a shortest decimal is none.
-/

namespace Logline.Decimal

open Json (Power Whole SpellsNumber numberChars numeralOf digitOf digitsValue_digits spellsNumber)

def magnitudeValue (f : FloatFormat) (m : Nat) (q : Int) : ℚ :=
  if m = 0 then 0 else (shortest f m q).value

def powerOf (plus : String) (n : Int) : Power where
  sign := if n < 0 then ['-'] else plus.toList
  below := n < 0
  digits := Nat.toDigits 10 n.natAbs

theorem powerOf_good {plus : String} (hPlus : plus = "" ∨ plus = "+") (n : Int) :
    (powerOf plus n).Good := by
  refine ⟨?_, Nat.toDigits_ne_nil, fun c hc => Json.isDigit_toDigits hc⟩
  by_cases hn : n < 0
  · exact .inr (.inr ⟨by simp [powerOf, hn], by simp [powerOf, hn]⟩)
  · rcases hPlus with rfl | rfl
    · exact .inl ⟨by simp [powerOf, hn], by simp [powerOf, hn]⟩
    · exact .inr (.inl ⟨by simp [powerOf, hn], by simp [powerOf, hn]⟩)

theorem powerOf_text (plus : String) (n : Int) :
    (powerOf plus n).text =
      'e' :: ((if 0 ≤ n then plus.toList else []) ++ (toString n).toList) := by
  rw [Json.toString_int, String.toList_ofList]
  by_cases hn : n < 0
  · simp [Power.text, powerOf, Json.signed, hn, Int.not_le.mpr hn]
  · simp [Power.text, powerOf, Json.signed, hn, Int.not_lt.mp hn]

theorem magnitude_plain (negative : Bool) (whole fraction : List Char) :
    (numeralOf negative whole fraction none).magnitude =
      Nat.ofDigitChars 10 (whole ++ fraction) 0 * 10 ^ (-(fraction.length : Int)) := by
  have hFraction : ((if fraction = [] then none else some (fraction.map digitOf)).getD [] :
      List Nat) = fraction.map digitOf := by
    cases fraction <;> rfl
  simp only [Json.Numeral.magnitude, numeralOf, hFraction, ← List.map_append, digitsValue_digits,
    Json.Numeral.power, List.length_map, Option.map_none]
  simp

theorem magnitude_power (negative : Bool) (whole fraction : List Char) (plus : String) (n : Int) :
    (numeralOf negative whole fraction (some (powerOf plus n))).magnitude =
      Nat.ofDigitChars 10 (whole ++ fraction) 0 * 10 ^ (n - fraction.length) := by
  have hFraction : ((if fraction = [] then none else some (fraction.map digitOf)).getD [] :
      List Nat) = fraction.map digitOf := by
    cases fraction <;> rfl
  have hPower : (numeralOf negative whole fraction (some (powerOf plus n))).power = n := by
    simp only [Json.Numeral.power, numeralOf, Option.map_some, powerOf, digitsValue_digits,
      Nat.ofDigitChars_ten_toDigits]
    by_cases hn : n < 0
    · simp [hn, abs_of_neg hn]
    · simp [hn, abs_of_nonneg (Int.not_lt.mp hn)]
  rw [Json.Numeral.magnitude, hPower]
  simp only [numeralOf, hFraction, ← List.map_append, digitsValue_digits, List.length_map]

variable {d : Number}

theorem isDigit_zeros {n : Nat} {c : Char} (hc : c ∈ Layout.zeros n) : c.isDigit = true := by
  rw [List.eq_of_mem_replicate hc]
  rfl

theorem whole_of_head {cs : List Char} (hDigits : ∀ c ∈ cs, c.isDigit = true) (hNonempty : cs ≠ [])
    (hHead : cs.head? ≠ some '0') : Whole cs :=
  ⟨hDigits, hNonempty, fun hZero => absurd hZero hHead⟩

theorem whole_zero : Whole ['0'] := Json.whole_toDigits 0

/-- The digits of a decimal with the exponent `n`, as three places of the point write them. -/
theorem spells_behind {digits : List Char} (hDigits : ∀ c ∈ digits, c.isDigit = true)
    (hNonempty : digits ≠ []) (hHead : digits.head? ≠ some '0') (k : Nat) :
    SpellsNumber (digits ++ Layout.zeros k ++ ['.', '0'])
      (Nat.ofDigitChars 10 digits 0 * 10 ^ (k : Int)) := by
  have hText : digits ++ Layout.zeros k ++ ['.', '0'] =
      numberChars (digits ++ Layout.zeros k) ['0'] none := by simp [numberChars]
  rw [hText]
  refine spellsNumber (whole_of_head ?_ (by simp [hNonempty]) ?_) (by simp) (by simp) ?_
  · intro c hc
    rcases List.mem_append.mp hc with hc | hc
    · exact hDigits c hc
    · exact isDigit_zeros hc
  · rw [List.head?_append_of_ne_nil _ hNonempty]
    exact hHead
  · have hZero : Nat.ofDigitChars 10 ['0'] (10 ^ k * Nat.ofDigitChars 10 digits 0) =
        10 * (10 ^ k * Nat.ofDigitChars 10 digits 0) := rfl
    rw [magnitude_plain, Nat.ofDigitChars_append, Nat.ofDigitChars_append, Layout.zeros,
      Nat.ofDigitChars_replicate_zero, hZero]
    push_cast
    rw [zpow_natCast, List.length_singleton]
    norm_num
    ring

theorem spells_within {digits : List Char} (hDigits : ∀ c ∈ digits, c.isDigit = true)
    (hHead : digits.head? ≠ some '0') {k : Nat} (hPos : 0 < k) (hLt : k < digits.length) :
    SpellsNumber (digits.take k ++ '.' :: digits.drop k)
      (Nat.ofDigitChars 10 digits 0 * 10 ^ ((k : Int) - digits.length)) := by
  have hDrop : digits.drop k ≠ [] := by simp [hLt]
  have hText : digits.take k ++ '.' :: digits.drop k =
      numberChars (digits.take k) (digits.drop k) none := by simp [numberChars, hDrop]
  rw [hText]
  refine spellsNumber (whole_of_head ?_ ?_ ?_) ?_ (by simp) ?_
  · exact fun c hc => hDigits c (List.mem_of_mem_take hc)
  · intro hNil
    have hLength := congrArg List.length hNil
    rw [List.length_take, List.length_nil] at hLength
    omega
  · rw [List.head?_take, if_neg (by omega)]
    exact hHead
  · exact fun c hc => hDigits c (List.mem_of_mem_drop hc)
  · rw [magnitude_plain, List.take_append_drop, List.length_drop]
    congr 2
    omega

theorem spells_before {digits : List Char} (hDigits : ∀ c ∈ digits, c.isDigit = true)
    (hNonempty : digits ≠ []) (k : Nat) :
    SpellsNumber ('0' :: '.' :: Layout.zeros k ++ digits)
      (Nat.ofDigitChars 10 digits 0 * 10 ^ (-(k : Int) - digits.length)) := by
  have hText : '0' :: '.' :: Layout.zeros k ++ digits =
      numberChars ['0'] (Layout.zeros k ++ digits) none := by simp [numberChars, hNonempty]
  rw [hText]
  refine spellsNumber whole_zero ?_ (by simp) ?_
  · intro c hc
    rcases List.mem_append.mp hc with hc | hc
    · exact isDigit_zeros hc
    · exact hDigits c hc
  · have hZero : Nat.ofDigitChars 10 ['0'] 0 = 0 := rfl
    rw [magnitude_plain, Nat.ofDigitChars_append, Nat.ofDigitChars_append, hZero, Layout.zeros,
      Nat.ofDigitChars_replicate_zero, List.length_append, List.length_replicate, Nat.mul_zero]
    congr 2
    push_cast
    omega

theorem spells_scientific {digits : List Char} (hDigits : ∀ c ∈ digits, c.isDigit = true)
    (hNonempty : digits ≠ []) {plus : String} (hPlus : plus = "" ∨ plus = "+") (n : Int) :
    SpellsNumber (Layout.scientific plus digits (n + digits.length))
      (Nat.ofDigitChars 10 digits 0 * 10 ^ n) := by
  obtain ⟨c, r, rfl⟩ := List.exists_cons_of_ne_nil hNonempty
  have hText : Layout.scientific plus (c :: r) (n + (c :: r).length) =
      numberChars [c] r (some (powerOf plus (n + r.length))) := by
    have hPower : n + (c :: r).length - 1 = n + r.length := by
      rw [List.length_cons]
      omega
    have hAlone : (c :: r).length = 1 ↔ r = [] := by
      rw [List.length_cons, Nat.add_eq_right, List.length_eq_zero_iff]
    rw [Layout.scientific, hPower, numberChars, Option.map_some, Option.getD_some, powerOf_text]
    simp only [hAlone, List.append_assoc, List.cons_append]
    rfl
  rw [hText]
  refine spellsNumber ⟨?_, by simp, ?_⟩ ?_ ?_ ?_
  · exact fun d hd => hDigits d (by simp_all)
  · intro hHead
    rw [Option.some.inj hHead]
  · exact fun d hd => hDigits d (List.mem_cons_of_mem _ hd)
  · rintro p ⟨⟩
    exact powerOf_good hPlus _
  · rw [magnitude_power]
    congr 2
    omega

/-- The three forms are told apart by the place of the point: behind the digits, between them and
before them. -/
theorem spells_decimal (l : Layout) (hPlus : l.plus = "" ∨ l.plus = "+") {d : Number}
    (hd : d.digits ≠ 0) : SpellsNumber (l.decimal d) d.value := by
  have hValue : Nat.ofDigitChars 10 (Nat.toDigits 10 d.digits) 0 = d.digits :=
    Nat.ofDigitChars_ten_toDigits
  have hHead := Json.head?_toDigits hd
  have hDigits : ∀ c ∈ Nat.toDigits 10 d.digits, c.isDigit = true :=
    fun c hc => Json.isDigit_toDigits hc
  have hNonempty : Nat.toDigits 10 d.digits ≠ [] := Nat.toDigits_ne_nil
  rw [Number.value, ← hValue]
  unfold Layout.decimal
  generalize Nat.toDigits 10 d.digits = digits at hHead hDigits hNonempty
  generalize d.exponent = n
  dsimp only
  split
  · unfold Layout.positional
    split
    · rename_i hn
      have hSpells := spells_behind hDigits hNonempty hHead n.toNat
      rwa [Int.toNat_of_nonneg hn] at hSpells
    split
    · rename_i hn hPoint
      have hSpells := spells_within (k := (n + digits.length).toNat) hDigits hHead (by omega)
        (by omega)
      rw [Int.toNat_of_nonneg (by omega)] at hSpells
      convert hSpells using 3
      omega
    · rename_i hn hPoint
      have hSpells := spells_before hDigits hNonempty (-(n + digits.length)).toNat
      rw [Int.toNat_of_nonneg (by omega)] at hSpells
      convert hSpells using 3
      omega
  · exact spells_scientific hDigits hNonempty hPlus n

theorem spells_finite (l : Layout) (hPlus : l.plus = "" ∨ l.plus = "+") {f : FloatFormat} {m : Nat}
    {q : Int} (hDigits : m ≠ 0 → (shortest f m q).digits ≠ 0) :
    SpellsNumber (l.finite f m q) (magnitudeValue f m q) := by
  unfold Layout.finite magnitudeValue
  split
  · have hText : ['0', '.', '0'] = numberChars ['0'] ['0'] none := rfl
    rw [hText]
    refine spellsNumber whole_zero (by simp) (by simp) ?_
    rw [magnitude_plain]
    have hZero : Nat.ofDigitChars 10 (['0'] ++ ['0']) 0 = 0 := rfl
    rw [hZero]
    simp
  · rename_i hm
    exact spells_decimal l hPlus (hDigits hm)

end Logline.Decimal

namespace Logline

open Decimal (Layout magnitudeValue)
open Json (Content Spells SpellsNumber signed spells_number)
open Text (utf8)

theorem FloatFormat.decode_bounds {f : FloatFormat} {bits m : Nat} {q : Int}
    (h : f.decode bits = .finite m q) :
    m < 2 * 2 ^ f.fractionBits ∧ f.lowestExponent ≤ q ∧
      q ≤ f.lowestExponent + 2 ^ f.exponentBits := by
  have hFraction : bits % 2 ^ f.fractionBits < 2 ^ f.fractionBits :=
    Nat.mod_lt _ (Nat.pow_pos (by decide))
  have hField : bits / 2 ^ f.fractionBits % 2 ^ f.exponentBits < 2 ^ f.exponentBits :=
    Nat.mod_lt _ (Nat.pow_pos (by decide))
  have hPower : ((2 ^ f.exponentBits : Nat) : Int) = 2 ^ f.exponentBits := by push_cast; rfl
  simp only [decode, Nat.pow_eq] at h
  split at h
  · split at h <;> cases h
  split at h
  · cases h
    omega
  · cases h
    omega

/-- What a number of the format stands for in a line. -/
def FloatFormat.image (f : FloatFormat) (negative : Bool) : Magnitude → Content
  | .nan => .string "NaN"
  | .infinite => .string (if negative then "-Inf" else "+Inf")
  | .finite m q => .number negative (magnitudeValue f m q)

def Binary64.image (x : Binary64) : Content := FloatFormat.double.image x.isNegative x.magnitude

def Binary32.image (x : Binary32) : Content := FloatFormat.single.image x.isNegative x.magnitude

inductive FloatFormat.Known : FloatFormat → Prop
  | double : Known .double
  | single : Known .single

/-- Words with their sign for what is not finite, and no plus in an exponent. -/
structure Decimal.Layout.Standard (l : Layout) : Prop where
  plus : l.plus = ""
  nan : l.nan = "NaN"
  infinity (negative : Bool) : l.infinity negative = if negative then "-Inf" else "+Inf"

theorem Decimal.Layout.standard_double : Layout.double.Standard := ⟨rfl, rfl, fun _ => rfl⟩

theorem Decimal.Layout.standard_single : Layout.single.Standard := ⟨rfl, rfl, fun _ => rfl⟩

/-- What stands for a finite number rounds to it, so that nothing of the number is lost. -/
theorem FloatFormat.Known.roundsTo {f : FloatFormat} (hf : f.Known) {bits m : Nat} {q : Int}
    (h : f.decode bits = .finite m q) : f.RoundsTo m q (magnitudeValue f m q) := by
  obtain ⟨hSize, hLow, hHigh⟩ := decode_bounds h
  unfold magnitudeValue
  split
  · rename_i hm
    rw [hm]
    exact f.roundsTo_zero q
  · rename_i hm
    cases hf with
    | double =>
      have hLowest : FloatFormat.double.lowestExponent = -1074 := rfl
      have hFields : (2 : Int) ^ FloatFormat.double.exponentBits = 2048 := rfl
      exact Decimal.shortest_roundsTo hm (by decide) hSize (by omega) (by omega)
    | single =>
      have hLowest : FloatFormat.single.lowestExponent = -149 := rfl
      have hFields : (2 : Int) ^ FloatFormat.single.exponentBits = 256 := rfl
      exact Decimal.shortest_roundsTo hm (by decide) hSize (by omega) (by omega)

theorem FloatFormat.Known.spellsNumber {f : FloatFormat} (hf : f.Known) (l : Layout)
    (hPlus : l.plus = "" ∨ l.plus = "+") {bits m : Nat} {q : Int}
    (h : f.decode bits = .finite m q) : SpellsNumber (l.finite f m q) (magnitudeValue f m q) := by
  refine Decimal.spells_finite l hPlus fun hm hZero => ?_
  have hPos := (hf.roundsTo h).pos hm
  rw [magnitudeValue, if_neg hm, Decimal.Number.value, hZero, Nat.cast_zero, zero_mul] at hPos
  exact lt_irrefl 0 hPos

theorem FloatFormat.Known.spells_text {f : FloatFormat} (hf : f.Known) (l : Layout)
    (hPlus : l.plus = "" ∨ l.plus = "+") {bits m : Nat} {q : Int}
    (h : f.decode bits = .finite m q) (negative : Bool) :
    Spells (utf8 (l.text f negative (.finite m q))) (.number negative (magnitudeValue f m q)) :=
  spells_number (hf.spellsNumber l hPlus h) negative

end Logline
