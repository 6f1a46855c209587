import Logline.Proofs.DistinctNumbers
import Mathlib.Data.Nat.Digits.Defs

/-! # Sizes of numbers

A shortest decimal ends at most seventeen grids behind the one that the search starts with, which
bounds its exponent and its digits. So the text of a number is short, compared with a buffer.
-/

namespace Logline

namespace Decimal

theorem Rounding.le_exponent_search (r : Rounding) (n : Nat) (unit : Int) :
    unit - n ≤ (r.search n unit).exponent := by
  induction n generalizing unit with
  | zero =>
    rw [search]
    exact (sub_zero unit).le
  | succ n ih =>
    rw [search]
    split
    · show unit - (n + 1 : Nat) ≤ unit
      omega
    · have hRest := ih (unit - 1)
      push_cast
      omega

theorem Number.le_exponent_trim (n : Nat) (d : Number) : d.exponent ≤ (d.trim n).exponent := by
  induction n generalizing d with
  | zero => exact le_refl _
  | succ n ih =>
    rw [trim]
    split
    · have hRest := ih ⟨d.digits / 10, d.exponent + 1⟩
      dsimp only at hRest
      omega
    · exact le_refl _

theorem Rounding.le_order (r : Rounding) : -(r.exponent.natAbs : Int) - 1 ≤ r.order := by
  unfold order
  dsimp only
  have hGuess : -(r.exponent.natAbs : Int) ≤
      ((r.value.log2 : Int) + r.exponent) * 78913 / 262144 := by omega
  split_ifs <;> omega

theorem le_exponent_shortest (f : FloatFormat) (m : Nat) (q : Int) :
    -((q - 2).natAbs : Int) - 18 ≤ (shortest f m q).exponent := by
  have hOrder := (Rounding.ofMagnitude f m q).le_order
  have hSearch :=
    (Rounding.ofMagnitude f m q).le_exponent_search 17 (Rounding.ofMagnitude f m q).order
  have hTrim := Number.le_exponent_trim 17
    ((Rounding.ofMagnitude f m q).search 17 (Rounding.ofMagnitude f m q).order)
  have hExponent : (Rounding.ofMagnitude f m q).exponent = q - 2 := rfl
  rw [hExponent] at hOrder
  unfold shortest
  dsimp only
  omega

theorem Number.digits_ne_zero {d : Number} (h : 0 < d.value) : d.digits ≠ 0 := by
  intro hZero
  rw [value, hZero, Nat.cast_zero, zero_mul] at h
  exact lt_irrefl 0 h

theorem Number.exponent_le {d : Number} (hDigits : d.digits ≠ 0) {n : Int}
    (hValue : d.value ≤ 10 ^ n) : d.exponent ≤ n := by
  refine (zpow_le_zpow_iff_right₀ (by norm_num : (1 : ℚ) < 10)).mp (le_trans ?_ hValue)
  refine le_mul_of_one_le_left (by positivity) ?_
  exact_mod_cast Nat.one_le_iff_ne_zero.mpr hDigits

theorem Number.length_digits_le {d : Number} {n k : Nat} (hValue : d.value ≤ 10 ^ n)
    (hExponent : -(k : Int) ≤ d.exponent) : (Nat.toDigits 10 d.digits).length ≤ n + k + 1 := by
  have hInverse : (10 : ℚ) ^ d.exponent * 10 ^ (-d.exponent) = 1 := by
    rw [← zpow_add₀ (by norm_num), add_neg_cancel, zpow_zero]
  have hLast : (10 : ℚ) ^ (-d.exponent) ≤ 10 ^ k := by
    rw [← zpow_natCast]
    exact zpow_le_zpow_right₀ (by norm_num) (by omega)
  have hMost : (d.digits : ℚ) ≤ 10 ^ (n + k) := calc
    (d.digits : ℚ) = d.value * 10 ^ (-d.exponent) := by rw [value, mul_assoc, hInverse, mul_one]
    _ ≤ 10 ^ n * 10 ^ k := mul_le_mul hValue hLast (by positivity) (by positivity)
    _ = 10 ^ (n + k) := (pow_add _ _ _).symm
  refine (Nat.length_toDigits_le_iff (by decide) (Nat.succ_pos _)).mpr ?_
  refine lt_of_le_of_lt ?_ (Nat.pow_lt_pow_right (by decide) (Nat.lt_succ_self (n + k)))
  exact_mod_cast hMost

variable {d : Number} {n : Nat}

theorem length_toString_int {power : Int} (hPower : power.natAbs < 10 ^ n) (hn : n ≠ 0) :
    (toString power).toList.length ≤ n + 1 := by
  have hDigits := (Nat.length_toDigits_le_iff (by decide) (Nat.pos_of_ne_zero hn)).mpr hPower
  rw [Json.toString_int, String.toList_ofList, Json.signed, List.length_append]
  have hSign : (if decide (power < 0) = true then ['-'] else []).length ≤ 1 := by split <;> simp
  omega

theorem length_positional (digits : List Char) (exponent : Int) :
    (Layout.positional digits exponent (exponent + digits.length)).length ≤
      digits.length + exponent.natAbs + 2 := by
  unfold Layout.positional Layout.zeros
  split
  · simp only [List.length_append, List.length_replicate, List.length_cons, List.length_nil]
    omega
  split
  · simp only [List.length_append, List.length_take, List.length_cons, List.length_drop]
    omega
  · simp only [List.length_append, List.length_replicate, List.length_cons]
    omega

theorem length_scientific {plus : String} (hPlus : plus = "") (digits : List Char) {point : Int}
    (hPoint : (point - 1).natAbs < 10 ^ 4) :
    (Layout.scientific plus digits point).length ≤ digits.length + 9 := by
  have hPower := length_toString_int hPoint (by decide)
  unfold Layout.scientific
  rw [hPlus]
  have hFraction : (if digits.length = 1 then [] else '.' :: digits.drop 1).length ≤
      digits.length + 1 := by
    split
    · exact Nat.zero_le _
    · rw [List.length_cons, List.length_drop]
      omega
  have hEmpty : (if 0 ≤ point - 1 then "".toList else []) = [] := by split <;> rfl
  dsimp only
  rw [hEmpty, List.append_assoc, List.length_append, List.length_append, List.length_take,
    List.cons_append, List.nil_append, List.length_cons]
  omega

/-- Decimals with an exponent of three digits have a short text. -/
theorem length_decimal {l : Layout} (hPlus : l.plus = "")
    (hDigits : (Nat.toDigits 10 d.digits).length ≤ 2200) (hExponent : d.exponent.natAbs < 1200) :
    (l.decimal d).length ≤ 3500 := by
  unfold Layout.decimal
  dsimp only
  split
  · have hText := length_positional (Nat.toDigits 10 d.digits) d.exponent
    omega
  · have hPoint : (d.exponent + (Nat.toDigits 10 d.digits).length - 1).natAbs < 10 ^ 4 := by omega
    have hText := length_scientific hPlus (Nat.toDigits 10 d.digits) hPoint
    omega

end Decimal

open Decimal (Layout Number shortest magnitudeValue)

namespace FloatFormat.Known

variable {f : FloatFormat} {bits m : Nat} {q : Int}

theorem bounds (hf : f.Known) (h : f.decode bits = .finite m q) :
    m < 2 ^ 53 ∧ -1074 ≤ q ∧ q ≤ 974 := by
  have hBounds := decode_bounds h
  cases hf with
  | double => exact hBounds
  | single =>
    have hDigits : m < 2 ^ 24 := hBounds.1
    have hLow : -149 ≤ q := hBounds.2.1
    have hHigh : q ≤ -149 + 256 := hBounds.2.2
    omega

theorem shortest_bounds (hf : f.Known) (h : f.decode bits = .finite m q) (hm : m ≠ 0) :
    (Nat.toDigits 10 (shortest f m q).digits).length ≤ 2200 ∧
      (shortest f m q).exponent.natAbs < 1200 := by
  obtain ⟨hDigits, hLow, hHigh⟩ := hf.bounds h
  have hBelow := Decimal.le_exponent_shortest f m q
  have hRounds := hf.roundsTo h
  have hPos := hRounds.pos hm
  have hValue : (shortest f m q).value ≤ 10 ^ (1028 : Int) := by
    have hLarge := hRounds.le
    rw [magnitudeValue, if_neg hm] at hLarge
    have hSize : (m + 1 / 2 : ℚ) ≤ 2 ^ (54 : Int) := by
      have hCast : (m : ℚ) + 1 ≤ 2 ^ 53 := by exact_mod_cast hDigits
      have hDouble : (2 : ℚ) ^ (54 : Int) = 2 * 2 ^ 53 := by norm_num
      rw [hDouble]
      linarith
    calc (shortest f m q).value ≤ (m + 1 / 2) * 2 ^ q := hLarge
      _ ≤ 2 ^ (54 : Int) * 2 ^ (974 : Int) :=
        mul_le_mul hSize (zpow_le_zpow_right₀ (by norm_num) hHigh) (by positivity) (by positivity)
      _ = 2 ^ (1028 : Int) := (zpow_add₀ (by norm_num) _ _).symm
      _ ≤ 10 ^ (1028 : Int) := zpow_le_zpow_left₀ (by norm_num) (by norm_num) (by norm_num)
  rw [magnitudeValue, if_neg hm] at hPos
  generalize shortest f m q = d at hBelow hPos hValue
  have hDigit := d.digits_ne_zero hPos
  refine ⟨?_, ?_⟩
  · have hMost := d.length_digits_le (k := 1094) (by exact_mod_cast hValue) (by omega)
    exact hMost.trans (by decide)
  · have hAbove := d.exponent_le hDigit hValue
    omega

theorem length_text (hf : f.Known) {l : Layout} (hl : l.Standard) (negative : Bool) (bits : Nat) :
    (l.text f negative (f.decode bits)).toList.length ≤ 3501 := by
  cases hMagnitude : f.decode bits with
  | nan =>
    rw [Layout.text, hl.nan]
    decide
  | infinite =>
    rw [Layout.text, hl.infinity]
    cases negative <;> decide
  | finite m q =>
    have hText : (l.finite f m q).length ≤ 3500 := by
      unfold Layout.finite
      split
      · decide
      · rename_i hm
        obtain ⟨hDigits, hExponent⟩ := hf.shortest_bounds hMagnitude hm
        exact Decimal.length_decimal hl.plus hDigits hExponent
    rw [Layout.text, String.toList_ofList, List.length_append]
    have hSign : (if negative = true then ['-'] else []).length ≤ 1 := by split <;> simp
    omega

end FloatFormat.Known

end Logline
