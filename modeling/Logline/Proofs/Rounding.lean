import Logline.Number.Binary
import Mathlib.Algebra.Order.Field.Power
import Mathlib.Algebra.Order.Field.Rat
import Mathlib.Tactic.Linarith
import Mathlib.Tactic.NormNum
import Mathlib.Tactic.Positivity
import Mathlib.Tactic.Ring

/-! # Rounding keeps the order

The bits of a format are in the order of the numbers that they stand for, and rounding a quotient
to them is monotone. So what is computed with rounded numbers stays within every bound that is a
number of the format itself.
-/

namespace Logline.FloatFormat

/-! ## Whole numbers -/

theorem roundDiv_mono {a b c d : Nat} (hb : 0 < b) (hd : 0 < d) (h : a * d ≤ c * b) :
    roundDiv a b ≤ roundDiv c d := by
  have hFloor : a / b ≤ c / d := by
    rw [Nat.le_div_iff_mul_le hd]
    refine Nat.le_of_mul_le_mul_right ?_ hb
    calc a / b * d * b = a / b * b * d := Nat.mul_right_comm ..
      _ ≤ a * d := Nat.mul_le_mul_right d (Nat.div_mul_le_self a b)
      _ ≤ c * b := h
  have hUpper : roundDiv a b ≤ a / b + 1 := by
    simp only [roundDiv]
    split_ifs <;> omega
  have hLower : c / d ≤ roundDiv c d := by
    simp only [roundDiv]
    split_ifs <;> omega
  obtain hLess | hEqual := Nat.lt_or_eq_of_le hFloor
  · omega
  · -- The floors are the same, so the remainders decide, and they are in the same order.
    have hRest : a % b * d ≤ c % d * b := by
      have ha := Nat.div_add_mod a b
      have hc := Nat.div_add_mod c d
      rw [← ha, ← hc, hEqual] at h
      nlinarith only [h]
    have hBelow (hs : 2 * (c % d) < d) : 2 * (a % b) < b := by
      have hScaled : 2 * (a % b) * d < b * d := by nlinarith only [hRest, hs, hb]
      exact Nat.lt_of_mul_lt_mul_right hScaled
    have hHalf (hs : 2 * (c % d) ≤ d) : 2 * (a % b) ≤ b := by
      have hScaled : 2 * (a % b) * d ≤ b * d := by nlinarith only [hRest, hs, hb]
      exact Nat.le_of_mul_le_mul_right hScaled hd
    simp only [roundDiv, hEqual]
    split_ifs <;> omega

theorem roundDiv_mul (k : Nat) {d : Nat} (hd : 0 < d) : roundDiv (k * d) d = k := by
  simp [roundDiv, hd]

theorem roundDiv_mono_cast {a b c d : Nat} (hb : 0 < b) (hd : 0 < d)
    (h : (a / b : ℚ) ≤ c / d) : roundDiv a b ≤ roundDiv c d := by
  have hb' : (0 : ℚ) < b := by exact_mod_cast hb
  have hd' : (0 : ℚ) < d := by exact_mod_cast hd
  rw [div_le_div_iff₀ hb' hd'] at h
  exact roundDiv_mono hb hd (by exact_mod_cast h)

theorem roundDiv_le {a b k : Nat} (hb : 0 < b) (h : (a / b : ℚ) ≤ k) : roundDiv a b ≤ k := by
  have hWhole := roundDiv_mono_cast hb Nat.one_pos (c := k) (by simpa using h)
  rwa [← Nat.mul_one k, roundDiv_mul k Nat.one_pos] at hWhole

theorem le_roundDiv {a b k : Nat} (hb : 0 < b) (h : (k : ℚ) ≤ a / b) : k ≤ roundDiv a b := by
  have hWhole := roundDiv_mono_cast (a := k) Nat.one_pos hb (by simpa using h)
  rwa [← Nat.mul_one k, roundDiv_mul k Nat.one_pos] at hWhole

/-! ## Exponents -/

theorem cast_scale_num (num den : Nat) (q : Int) :
    ((scale num den q).1 : ℚ) / (scale num den q).2 = num / den * 2 ^ (-q) := by
  rw [scale]
  split_ifs with hq
  · obtain ⟨k, rfl⟩ : ∃ k : Nat, q = -k := ⟨q.natAbs, by omega⟩
    simp [mul_div_right_comm]
  · obtain ⟨k, rfl⟩ := Int.eq_ofNat_of_zero_le (not_lt.mp hq)
    simp only [Nat.cast_mul, Nat.pow_eq, Nat.cast_pow, Nat.cast_ofNat, zpow_neg, zpow_natCast,
      Int.natAbs_natCast]
    rw [div_mul_eq_div_div, div_eq_mul_inv (_ / _)]

theorem scale_den_pos (num : Nat) {den : Nat} (h : 0 < den) (q : Int) :
    0 < (scale num den q).2 := by
  rw [scale]
  split_ifs
  · exact h
  · exact Nat.mul_pos h (Nat.pow_pos (by decide))

/-- The exponent of the spacing that a quotient is rounded to. -/
def exponent (f : FloatFormat) (num den : Nat) : Int :=
  let guess : Int := (num.log2 : Int) - (den.log2 : Int) - f.fractionBits
  let scaled := scale num den guess
  max (if scaled.1 / scaled.2 < Nat.pow 2 f.fractionBits then guess - 1 else guess)
    f.lowestExponent

theorem roundMagnitude_eq (f : FloatFormat) {num den : Nat} (hNum : num ≠ 0) (hDen : den ≠ 0) :
    f.roundMagnitude num den =
      min ((f.exponent num den - f.lowestExponent).toNat * 2 ^ f.fractionBits +
        roundDiv (scale num den (f.exponent num den)).1 (scale num den (f.exponent num den)).2)
        f.infinityBits := by
  rw [roundMagnitude, if_neg (not_or.mpr ⟨hNum, hDen⟩)]
  rfl

theorem cast_log2 {n : Nat} (h : n ≠ 0) : (2 : ℚ) ^ (n.log2 : Int) ≤ n ∧
    (n : ℚ) < 2 ^ (n.log2 + 1 : Int) := by
  constructor
  · rw [zpow_natCast]
    exact_mod_cast Nat.log2_self_le h
  · have hLog : n < 2 ^ (n.log2 + 1) := Nat.lt_log2_self
    exact_mod_cast hLog

theorem zpow_two_mul (p q : Int) : (2 : ℚ) ^ p * 2 ^ q = 2 ^ (p + q) :=
  (zpow_add₀ (by norm_num) p q).symm

/-- At that spacing the quotient has as many digits as the format, unless there is none smaller. -/
theorem exponent_spec (f : FloatFormat) {num den : Nat} (hNum : num ≠ 0) (hDen : den ≠ 0) :
    f.lowestExponent ≤ f.exponent num den ∧
      (num / den : ℚ) < 2 ^ (f.exponent num den + f.fractionBits + 1) ∧
      (f.lowestExponent < f.exponent num den →
        (2 : ℚ) ^ (f.exponent num den + f.fractionBits) ≤ num / den) := by
  obtain ⟨hNumLow, hNumHigh⟩ := cast_log2 hNum
  obtain ⟨hDenLow, hDenHigh⟩ := cast_log2 hDen
  have hDenPos : (0 : ℚ) < den := by positivity
  set guess : Int := (num.log2 : Int) - (den.log2 : Int) - f.fractionBits with hGuess
  have hAbove : (num / den : ℚ) < 2 ^ (guess + f.fractionBits + 1) := by
    rw [div_lt_iff₀ hDenPos]
    calc (num : ℚ) < 2 ^ (num.log2 + 1 : Int) := hNumHigh
      _ = 2 ^ (guess + f.fractionBits + 1) * 2 ^ (den.log2 : Int) := by
        rw [zpow_two_mul, hGuess]
        congr 1
        ring
      _ ≤ 2 ^ (guess + f.fractionBits + 1) * den := by gcongr
  have hBelow : (2 : ℚ) ^ (guess - 1 + f.fractionBits) ≤ num / den := by
    rw [le_div_iff₀ hDenPos]
    calc (2 : ℚ) ^ (guess - 1 + f.fractionBits) * den
        ≤ 2 ^ (guess - 1 + f.fractionBits) * 2 ^ (den.log2 + 1 : Int) := by gcongr
      _ = 2 ^ (num.log2 : Int) := by
        rw [zpow_two_mul, hGuess]
        congr 1
        ring
      _ ≤ num := hNumLow
  -- The guess is right or one too large, and the digits that it gives decide which.
  have hDigits : (scale num den guess).1 / (scale num den guess).2 < Nat.pow 2 f.fractionBits ↔
      (num / den : ℚ) < 2 ^ (guess + f.fractionBits) := by
    have hPos := scale_den_pos num (Nat.pos_of_ne_zero hDen) guess
    have hCast : (0 : ℚ) < (scale num den guess).2 := by exact_mod_cast hPos
    rw [Nat.div_lt_iff_lt_mul hPos, ← Nat.cast_lt (α := ℚ), Nat.cast_mul, ← div_lt_iff₀ hCast,
      cast_scale_num, zpow_neg, ← div_eq_mul_inv, div_lt_iff₀ (by positivity), add_comm guess,
      ← zpow_two_mul, zpow_natCast]
    norm_cast
  have hExact : ∃ exact : Int, f.exponent num den = max exact f.lowestExponent ∧
      (num / den : ℚ) < 2 ^ (exact + f.fractionBits + 1) ∧
      (2 : ℚ) ^ (exact + f.fractionBits) ≤ num / den := by
    by_cases hSmall : (num / den : ℚ) < 2 ^ (guess + f.fractionBits)
    · refine ⟨guess - 1, ?_, ?_, hBelow⟩
      · simp only [exponent, ← hGuess, if_pos (hDigits.mpr hSmall)]
      · rwa [sub_add_eq_add_sub, sub_add_cancel]
    · refine ⟨guess, ?_, hAbove, not_lt.mp hSmall⟩
      simp only [exponent, ← hGuess, if_neg (mt hDigits.mp hSmall)]
  obtain ⟨exact, hExponent, hHigh, hLow⟩ := hExact
  rw [hExponent]
  refine ⟨le_max_right _ _, hHigh.trans_le ?_, fun hSpace => ?_⟩
  · exact zpow_le_zpow_right₀ (by norm_num) (by omega)
  · rwa [max_eq_left (by omega)]

/-! ## Rounding -/

theorem roundMagnitude_mono (f : FloatFormat) {num den num' den' : Nat} (hDen : 0 < den)
    (hDen' : 0 < den') (h : (num / den : ℚ) ≤ num' / den') :
    f.roundMagnitude num den ≤ f.roundMagnitude num' den' := by
  by_cases hNum : num = 0
  · rw [roundMagnitude, if_pos (.inl hNum)]
    exact Nat.zero_le _
  have hNum' : num' ≠ 0 := by
    rintro rfl
    have hPos : (0 : ℚ) < num / den := by positivity
    rw [Nat.cast_zero, zero_div] at h
    exact absurd h (not_le.mpr hPos)
  obtain ⟨hLowest, hHigh, hLow⟩ := f.exponent_spec hNum hDen.ne'
  obtain ⟨hLowest', hHigh', hLow'⟩ := f.exponent_spec hNum' hDen'.ne'
  rw [roundMagnitude_eq f hNum hDen.ne', roundMagnitude_eq f hNum' hDen'.ne']
  apply min_le_min_right
  have hScale := cast_scale_num num den
  have hScale' := cast_scale_num num' den'
  have hPos := scale_den_pos num hDen
  have hPos' := scale_den_pos num' hDen'
  generalize f.exponent num den = q at *
  generalize f.exponent num' den' = q' at *
  have hDigit (p : Int) : ((2 ^ f.fractionBits : Nat) : ℚ) * 2 ^ p = 2 ^ (p + f.fractionBits) := by
    rw [Nat.cast_pow, Nat.cast_ofNat, ← zpow_natCast, zpow_two_mul, add_comm]
  obtain hLess | rfl | hMore := lt_trichotomy q q'
  · -- The smaller quotient reaches at most the first number that has the next exponent.
    have hDigits : roundDiv (scale num den q).1 (scale num den q).2 ≤ 2 * 2 ^ f.fractionBits := by
      apply roundDiv_le (hPos q)
      rw [hScale, zpow_neg, ← div_eq_mul_inv, div_le_iff₀ (by positivity), Nat.cast_mul, mul_assoc,
        hDigit, Nat.cast_ofNat, mul_comm, ← zpow_add_one₀ (by norm_num)]
      exact hHigh.le
    have hDigits' :
        2 ^ f.fractionBits ≤ roundDiv (scale num' den' q').1 (scale num' den' q').2 := by
      apply le_roundDiv (hPos' q')
      rw [hScale', zpow_neg, ← div_eq_mul_inv, le_div_iff₀ (by positivity), hDigit]
      exact hLow' (hLowest.trans_lt hLess)
    have hSteps : (q - f.lowestExponent).toNat + 1 ≤ (q' - f.lowestExponent).toNat := by omega
    have hFields := Nat.mul_le_mul_right (2 ^ f.fractionBits) hSteps
    rw [Nat.add_mul, Nat.one_mul] at hFields
    omega
  · apply Nat.add_le_add_left
    apply roundDiv_mono_cast (hPos q) (hPos' q)
    rw [hScale, hScale']
    gcongr
  · have hOrder : (2 : ℚ) ^ (q' + f.fractionBits + 1) ≤ 2 ^ (q + f.fractionBits) :=
      zpow_le_zpow_right₀ (by norm_num) (by omega)
    have hHighest := hLow (hLowest'.trans_lt hMore)
    linarith

/-! ## Bits -/

/-- The number that bits below those of infinity stand for. -/
def valueOf (f : FloatFormat) (bits : Nat) : ℚ :=
  let field := bits / 2 ^ f.fractionBits
  let fraction := bits % 2 ^ f.fractionBits
  if field = 0 then fraction * 2 ^ f.lowestExponent
  else (fraction + 2 ^ f.fractionBits : Nat) * 2 ^ (f.lowestExponent + field - 1)

theorem decode_valueOf (f : FloatFormat) {bits : Nat} (h : bits < f.infinityBits) :
    ∃ m q, f.decode bits = .finite m q ∧ (m * 2 ^ q : ℚ) = f.valueOf bits := by
  have hField : bits / 2 ^ f.fractionBits + 1 < 2 ^ f.exponentBits := by
    apply Nat.lt_sub_iff_add_lt.mp
    rw [Nat.div_lt_iff_lt_mul (by positivity)]
    exact h
  have hMod : bits / 2 ^ f.fractionBits % 2 ^ f.exponentBits = bits / 2 ^ f.fractionBits :=
    Nat.mod_eq_of_lt (Nat.lt_of_succ_lt hField)
  simp only [decode, valueOf, Nat.pow_eq, hMod, if_neg hField.ne]
  split_ifs
  · exact ⟨_, _, rfl, rfl⟩
  · exact ⟨_, _, rfl, rfl⟩

theorem valueOf_fields (f : FloatFormat) (field : Nat) {fraction : Nat}
    (h : fraction < 2 ^ f.fractionBits) :
    f.valueOf (2 ^ f.fractionBits * field + fraction) =
      if field = 0 then (fraction : ℚ) * 2 ^ f.lowestExponent
      else (fraction + 2 ^ f.fractionBits : Nat) * 2 ^ (f.lowestExponent + field - 1) := by
  have hDiv : (2 ^ f.fractionBits * field + fraction) / 2 ^ f.fractionBits = field := by
    rw [Nat.mul_add_div (by positivity), Nat.div_eq_of_lt h, Nat.add_zero]
  have hMod : (2 ^ f.fractionBits * field + fraction) % 2 ^ f.fractionBits = fraction := by
    rw [Nat.mul_add_mod, Nat.mod_eq_of_lt h]
  rw [valueOf, hDiv, hMod]

/-- The next bits stand for a larger number, with the next exponent after the last fraction. -/
theorem valueOf_mono (f : FloatFormat) : Monotone f.valueOf := by
  apply monotone_nat_of_le_succ
  intro bits
  have hUnit : 0 < 2 ^ f.fractionBits := by positivity
  obtain ⟨field, fraction, hFraction, rfl⟩ : ∃ field fraction, fraction < 2 ^ f.fractionBits ∧
      bits = 2 ^ f.fractionBits * field + fraction :=
    ⟨_, _, Nat.mod_lt _ hUnit, (Nat.div_add_mod ..).symm⟩
  rw [valueOf_fields f field hFraction]
  obtain hNext | hLast := Nat.lt_or_eq_of_le hFraction
  · rw [Nat.add_assoc, valueOf_fields f field hNext]
    split_ifs <;> gcongr <;> omega
  · have hCarry : 2 ^ f.fractionBits * field + fraction + 1 =
        2 ^ f.fractionBits * (field + 1) + 0 := by
      rw [Nat.add_assoc, ← Nat.succ_eq_add_one, hLast, Nat.mul_succ, Nat.add_zero]
    rw [hCarry, valueOf_fields f (field + 1) hUnit, if_neg (Nat.succ_ne_zero field), Nat.zero_add]
    split_ifs with hField
    · subst hField
      simp only [Nat.zero_add, Nat.cast_one, add_sub_cancel_right]
      gcongr
    · have hExponent : f.lowestExponent + ((field + 1 : Nat) : Int) - 1 =
          f.lowestExponent + field - 1 + 1 := by push_cast; ring
      rw [hExponent, zpow_add_one₀ (by norm_num), ← mul_assoc, mul_right_comm]
      gcongr
      exact_mod_cast (by omega : fraction + 2 ^ f.fractionBits ≤ 2 ^ f.fractionBits * 2)

end Logline.FloatFormat

namespace Logline.Binary64

open FloatFormat

/-- A number from zero to a bound. -/
structure Within (x : Binary64) (bound : ℚ) : Prop where
  sign : x.isNegative = false
  magnitude : ∃ m q, x.magnitude = .finite m q ∧ (m * 2 ^ q : ℚ) ≤ bound

theorem toNat_ofRatio {num den : Nat}
    (h : double.roundMagnitude num den < double.infinityBits) :
    (ofRatio false num den).bits.toNat = double.roundMagnitude num den := by
  rw [ofRatio, signBits, if_neg Bool.false_ne_true, Nat.zero_add]
  exact Nat.mod_eq_of_lt (h.trans (by decide))

theorem isNegative_ofRatio {num den : Nat}
    (h : double.roundMagnitude num den < double.infinityBits) :
    (ofRatio false num den).isNegative = false := by
  have hSign : double.roundMagnitude num den < 2 ^ 63 := h.trans (by decide)
  rw [isNegative, toNat_ofRatio h, FloatFormat.isNegative, beq_eq_false_iff_ne]
  change double.roundMagnitude num den / 2 ^ 63 % 2 ≠ 1
  rw [Nat.div_eq_of_lt hSign]
  decide

theorem magnitude_ofRatio {num den : Nat}
    (h : double.roundMagnitude num den < double.infinityBits) :
    ∃ m q, (ofRatio false num den).magnitude = .finite m q ∧
      (m * 2 ^ q : ℚ) = double.valueOf (double.roundMagnitude num den) := by
  rw [magnitude, toNat_ofRatio h]
  exact double.decode_valueOf h

/-- A quotient that is no larger than a number of the format is not rounded past it. -/
theorem within_ofRatio {num den k : Nat} (hDen : 0 < den) (h : (num / den : ℚ) ≤ k)
    (hFinite : double.roundMagnitude k 1 < double.infinityBits)
    (hExact : double.valueOf (double.roundMagnitude k 1) = k) :
    (ofRatio false num den).Within k := by
  have hRound : double.roundMagnitude num den ≤ double.roundMagnitude k 1 :=
    double.roundMagnitude_mono hDen Nat.one_pos (by simpa using h)
  have hBits := hRound.trans_lt hFinite
  obtain ⟨m, q, hMagnitude, hValue⟩ := magnitude_ofRatio hBits
  refine ⟨isNegative_ofRatio hBits, m, q, hMagnitude, ?_⟩
  rw [hValue, ← hExact]
  exact double.valueOf_mono hRound

theorem roundMagnitude_one : double.roundMagnitude 1 1 = 1023 * 2 ^ 52 := by decide

theorem roundMagnitude_hundred :
    double.roundMagnitude 100 1 = 1029 * 2 ^ 52 + 2533274790395904 := by decide

theorem valueOf_one : double.valueOf (double.roundMagnitude 1 1) = (1 : Nat) := by
  rw [roundMagnitude_one]
  norm_num [valueOf, double, lowestExponent]

theorem valueOf_hundred : double.valueOf (double.roundMagnitude 100 1) = (100 : Nat) := by
  rw [roundMagnitude_hundred]
  norm_num [valueOf, double, lowestExponent]

theorem roundMagnitude_le {a b : Nat} (h : a ≤ b) :
    double.roundMagnitude a 1 ≤ double.roundMagnitude b 1 := by
  apply double.roundMagnitude_mono Nat.one_pos Nat.one_pos
  gcongr

theorem roundMagnitude_lt {n : Nat} (h : n < 2 ^ 64) :
    double.roundMagnitude n 1 < double.infinityBits :=
  (roundMagnitude_le h.le).trans_lt (by decide)

/-- A share of a whole, both rounded and then their quotient, is no more than the whole. -/
theorem within_div {a b : Nat} (hb : 0 < b) (h : a ≤ b) (hBound : b < 2 ^ 64) :
    ((ofNat a).div (ofNat b)).Within 1 := by
  have hFinite := roundMagnitude_lt hBound
  have hFinite' := roundMagnitude_lt (h.trans_lt hBound)
  obtain ⟨m, p, hm, hmValue⟩ := magnitude_ofRatio hFinite'
  obtain ⟨n, q, hn, hnValue⟩ := magnitude_ofRatio hFinite
  have hPos : (0 : ℚ) < n * 2 ^ q := by
    have hOne := double.valueOf_mono (roundMagnitude_le hb)
    rw [valueOf_one] at hOne
    rw [hnValue]
    exact lt_of_lt_of_le (by norm_num) hOne
  have hDen : 0 < n := by
    by_contra hZero
    rw [Nat.eq_zero_of_not_pos hZero, Nat.cast_zero, zero_mul] at hPos
    exact lt_irrefl 0 hPos
  have hQuotient : (ofNat a).div (ofNat b) =
      ofRatio false (scale m n (q - p)).1 (scale m n (q - p)).2 := by
    obtain ⟨k, rfl⟩ := Nat.exists_eq_add_of_lt hDen
    simp only [div, ofNat, isNegative_ofRatio hFinite, isNegative_ofRatio hFinite', hm, hn,
      bne_self_eq_false]
  rw [hQuotient, ← Nat.cast_one]
  refine within_ofRatio (scale_den_pos m hDen _) ?_ (by decide) valueOf_one
  rw [cast_scale_num, neg_sub, zpow_sub₀ (by norm_num), div_mul_div_comm, Nat.cast_one,
    div_le_one hPos, hmValue, hnValue]
  exact double.valueOf_mono (roundMagnitude_le h)

theorem within_hundred {num den : Nat} (hDen : 0 < den) (h : (num / den : ℚ) ≤ 100) :
    (ofRatio false num den).Within 100 := by
  have hHundred : (100 : ℚ) = (100 : Nat) := by norm_num
  rw [hHundred] at h ⊢
  exact within_ofRatio hDen h (by decide) valueOf_hundred

theorem within_mul_hundred {x : Binary64} (h : x.Within 1) : (x.mul (ofNat 100)).Within 100 := by
  obtain ⟨hSign, m, p, hm, hValue⟩ := h
  have hFinite : double.roundMagnitude 100 1 < double.infinityBits := by decide
  obtain ⟨n, q, hn, hnValue⟩ := magnitude_ofRatio hFinite
  have hProduct : x.mul (ofNat 100) =
      ofRatio false (scale (m * n) 1 (-(p + q))).1 (scale (m * n) 1 (-(p + q))).2 := by
    simp only [mul, ofNat, isNegative_ofRatio hFinite, hSign, hm, hn, bne_self_eq_false]
  rw [hProduct]
  apply within_hundred (scale_den_pos (m * n) Nat.one_pos _)
  rw [cast_scale_num, neg_neg, Nat.cast_mul, Nat.cast_one, div_one, zpow_add₀ (by norm_num),
    mul_mul_mul_comm, hnValue, valueOf_hundred]
  exact mul_le_of_le_one_left (by norm_num) hValue

end Logline.Binary64
