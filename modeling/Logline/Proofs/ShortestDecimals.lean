import Logline.Number.Shortest
import Mathlib.Algebra.Order.Field.Power
import Mathlib.Algebra.Order.Field.Rat
import Mathlib.Tactic.Linarith
import Mathlib.Tactic.NormNum
import Mathlib.Tactic.Positivity
import Mathlib.Tactic.Ring

/-! # Shortest decimals

A shortest decimal rounds to its number. On a grid fine enough one of the two neighbours of the
number always does, and seventeen digits are fine enough for every number of both formats.
-/

namespace Logline

open Decimal

/-- The numbers that round to `m · 2 ^ q`: at most half a spacing away, and less than that if `m` is
odd. The spacing below a power of two is half the one above it, the lowest exponent apart. -/
def FloatFormat.RoundsTo (f : FloatFormat) (m : Nat) (q : Int) (x : ℚ) : Prop :=
  let down : ℚ := if m = 2 ^ f.fractionBits ∧ f.lowestExponent < q then 1 / 4 else 1 / 2
  if m % 2 = 0 then (m - down) * 2 ^ q ≤ x ∧ x ≤ (m + 1 / 2) * 2 ^ q
  else (m - down) * 2 ^ q < x ∧ x < (m + 1 / 2) * 2 ^ q

namespace Decimal

def Number.value (d : Number) : ℚ := d.digits * 10 ^ d.exponent

theorem Number.value_trim (n : Nat) (d : Number) : (d.trim n).value = d.value := by
  induction n generalizing d with
  | zero => rfl
  | succ n ih =>
    rw [trim]
    split
    · rename_i hZero
      have hDigits : d.digits = 10 * (d.digits / 10) := by omega
      rw [ih, Number.value, Number.value, zpow_add_one₀ (by norm_num)]
      conv_rhs => rw [hDigits]
      push_cast
      ring
    · rfl

namespace Rounding

theorem grid_num_pos (r : Rounding) (unit : Int) : 0 < (r.grid unit).num := by
  refine Nat.mul_pos ?_ ?_ <;> split
  · exact Nat.one_pos
  · exact Nat.pow_pos (by decide)
  · exact Nat.pow_pos (by decide)
  · exact Nat.one_pos

theorem grid_den_pos (r : Rounding) (unit : Int) : 0 < (r.grid unit).den := by
  refine Nat.mul_pos ?_ ?_ <;> split
  · exact Nat.pow_pos (by decide)
  · exact Nat.one_pos
  · exact Nat.one_pos
  · exact Nat.pow_pos (by decide)

theorem scales {b : Nat} (hb : b ≠ 0) (n : Int) :
    ((if n < 0 then 1 else Nat.pow b n.natAbs : Nat) : ℚ) =
      (if n < 0 then Nat.pow b n.natAbs else 1 : Nat) * (b : ℚ) ^ n := by
  have hPow : (b : ℚ) ≠ 0 := Nat.cast_ne_zero.mpr hb
  rcases Int.lt_or_le n 0 with hNeg | hPos
  · obtain ⟨k, rfl⟩ : ∃ k : Nat, n = -k := ⟨n.natAbs, by omega⟩
    rw [if_pos hNeg, if_pos hNeg]
    simp [hPow]
  · rw [if_neg (Int.not_lt.mpr hPos), if_neg (Int.not_lt.mpr hPos)]
    obtain ⟨k, rfl⟩ := Int.eq_ofNat_of_zero_le hPos
    simp

/-- A quarter of the spacing is `num` and a step of the grid is `den` times one length. -/
theorem exists_scale (r : Rounding) (unit : Int) :
    ∃ c : ℚ, 0 < c ∧ (r.grid unit).num * c = 2 ^ r.exponent ∧
      (r.grid unit).den * c = 10 ^ unit := by
  have hNum : ((r.grid unit).num : ℚ) ≠ 0 := Nat.cast_ne_zero.mpr (r.grid_num_pos unit).ne'
  have hTwo := scales (b := 2) (by decide) r.exponent
  have hTen := scales (b := 10) (by decide) unit
  have hRatio : (r.grid unit).den * (2 : ℚ) ^ r.exponent = (r.grid unit).num * 10 ^ unit := by
    push_cast at hTwo hTen
    simp only [grid, Nat.cast_mul]
    push_cast
    rw [hTwo, hTen]
    ring
  refine ⟨2 ^ r.exponent / (r.grid unit).num, ?_, mul_div_cancel₀ _ hNum, ?_⟩
  · have hPos : (0 : ℚ) < (r.grid unit).num := Nat.cast_pos.mpr (r.grid_num_pos unit)
    positivity
  · rw [← mul_div_assoc, hRatio, mul_div_cancel_left₀ _ hNum]

/-! ## The search -/

theorem holds_of_lt {r : Rounding} {g : Grid} {k : Nat} (hLow : r.low * g.num < k * g.den)
    (hHigh : k * g.den < r.high * g.num) : r.holds g k = true := by
  unfold holds
  split <;> simp only [Bool.and_eq_true, decide_eq_true_eq] <;> omega

theorem holds_of_pick? {r : Rounding} {g : Grid} {k : Nat} (h : r.pick? g = some k) :
    r.holds g k = true := by
  unfold pick? at h
  dsimp only at h
  split at h
  · rename_i hBelow hAbove
    split_ifs at h <;> obtain rfl := Option.some.inj h <;> assumption
  · rename_i hBelow _
    obtain rfl := Option.some.inj h
    exact hBelow
  · rename_i _ hAbove
    obtain rfl := Option.some.inj h
    exact hAbove
  · cases h

theorem exists_pick? {r : Rounding} {g : Grid}
    (h : r.holds g (r.value * g.num / g.den) = true ∨
      r.holds g (r.value * g.num / g.den + 1) = true) : ∃ k, r.pick? g = some k := by
  unfold pick?
  dsimp only
  split
  · split_ifs <;> exact ⟨_, rfl⟩
  · exact ⟨_, rfl⟩
  · exact ⟨_, rfl⟩
  · simp_all

/-- The nearer neighbour is at most half a step away, the one above is at most a step away. -/
theorem exists_pick?_of_lt {r : Rounding} {g : Grid} (hDen : 0 < g.den)
    (hHigh : r.high = r.value + 2)
    (hStep : g.den < 4 * g.num ∧ r.low + 2 ≤ r.value ∨ g.den < 2 * g.num ∧ r.low ≤ r.value) :
    ∃ k, r.pick? g = some k := by
  have hTop : r.high * g.num = r.value * g.num + 2 * g.num := by rw [hHigh]; ring
  have hSplit := Nat.div_add_mod' (r.value * g.num) g.den
  have hRest := Nat.mod_lt (r.value * g.num) hDen
  have hAbove : (r.value * g.num / g.den + 1) * g.den =
      r.value * g.num / g.den * g.den + g.den := by ring
  refine exists_pick? ?_
  rcases hStep with ⟨hStep, hLow⟩ | ⟨hStep, hLow⟩
  · have hBottom : r.low * g.num + 2 * g.num ≤ r.value * g.num := by
      rw [← Nat.add_mul]
      exact Nat.mul_le_mul_right _ hLow
    by_cases hNear : r.value * g.num % g.den < 2 * g.num
    · exact .inl (holds_of_lt (by omega) (by omega))
    · exact .inr (holds_of_lt (by omega) (by omega))
  · have hBottom : r.low * g.num ≤ r.value * g.num := Nat.mul_le_mul_right _ hLow
    exact .inr (holds_of_lt (by omega) (by omega))

/-- The search finds a decimal on the last grid at the latest. -/
theorem exists_search {r : Rounding} (n : Nat) (unit : Int)
    (h : ∃ k, r.pick? (r.grid (unit - n)) = some k) :
    ∃ k u, r.search (n + 1) unit = ⟨k, u⟩ ∧ r.holds (r.grid u) k = true := by
  induction n generalizing unit with
  | zero =>
    obtain ⟨k, hPick⟩ := h
    rw [Nat.cast_zero, Int.sub_zero] at hPick
    exact ⟨k, unit, by rw [search, hPick], holds_of_pick? hPick⟩
  | succ n ih =>
    rw [search]
    cases hPick : r.pick? (r.grid unit) with
    | some k => exact ⟨k, unit, rfl, holds_of_pick? hPick⟩
    | none =>
      have hUnit : unit - 1 - n = unit - (n + 1 : Nat) := by omega
      exact ih (unit - 1) (by rwa [hUnit])

/-! ## The last grid -/

/-- `78913 / 262144` stands for the logarithm of two, so the guess is no more than one too large. -/
theorem ten_pow_le {n : Nat} (hn : n ≤ 1200) : 10 ^ (n * 78913 / 262144) ≤ 2 ^ n := by
  have hAll : ∀ n < 1201, 10 ^ (n * 78913 / 262144) ≤ 2 ^ n := by decide +kernel
  exact hAll n (Nat.lt_succ_of_le hn)

theorem two_pow_le {n : Nat} (hn : n ≤ 1200) : 2 ^ n ≤ 10 ^ (n * 78913 / 262144 + 1) := by
  have hAll : ∀ n < 1201, 2 ^ n ≤ 10 ^ (n * 78913 / 262144 + 1) := by decide +kernel
  exact hAll n (Nat.lt_succ_of_le hn)

theorem ten_zpow_le {n : Int} (hLow : -1200 ≤ n) (hHigh : n ≤ 1200) :
    (10 : ℚ) ^ (n * 78913 / 262144 - 1) ≤ 2 ^ n := by
  rcases Int.lt_or_le n 0 with hNeg | hPos
  · obtain ⟨k, rfl⟩ : ∃ k : Nat, n = -k := ⟨n.natAbs, by omega⟩
    have hExponent : -(k : Int) * 78913 / 262144 - 1 ≤ -(k * 78913 / 262144 + 1 : Nat) := by omega
    refine (zpow_le_zpow_right₀ (by norm_num) hExponent).trans ?_
    rw [zpow_neg, zpow_neg, zpow_natCast, zpow_natCast]
    refine inv_anti₀ (by positivity) ?_
    exact_mod_cast two_pow_le (n := k) (by omega)
  · obtain ⟨k, rfl⟩ := Int.eq_ofNat_of_zero_le hPos
    have hExponent : (k : Int) * 78913 / 262144 - 1 ≤ (k * 78913 / 262144 : Nat) := by omega
    refine (zpow_le_zpow_right₀ (by norm_num) hExponent).trans ?_
    rw [zpow_natCast, zpow_natCast]
    exact_mod_cast ten_pow_le (n := k) (by omega)

theorem le_iff_zpow_le (r : Rounding) (unit : Int) (k : Nat) :
    k * (r.grid unit).den ≤ r.value * (r.grid unit).num ↔
      k * (10 : ℚ) ^ unit ≤ r.value * 2 ^ r.exponent := by
  obtain ⟨c, hc, hNum, hDen⟩ := r.exists_scale unit
  rw [← hNum, ← hDen, ← mul_assoc, ← mul_assoc, mul_le_mul_iff_left₀ hc]
  exact_mod_cast Iff.rfl

theorem ten_zpow_order_le {r : Rounding} (hValue : 0 < r.value)
    (hLow : -1200 ≤ r.value.log2 + r.exponent) (hHigh : r.value.log2 + r.exponent ≤ 1200) :
    (10 : ℚ) ^ r.order ≤ r.value * 2 ^ r.exponent := by
  have hReaches : ∀ e, (r.grid e).den ≤ r.value * (r.grid e).num →
      (10 : ℚ) ^ e ≤ r.value * 2 ^ r.exponent := fun e he => by
    simpa using (r.le_iff_zpow_le e 1).mp (by simpa using he)
  unfold order
  dsimp only
  split_ifs with hAbove hGuess
  · exact hReaches _ (of_decide_eq_true hAbove)
  · exact hReaches _ (of_decide_eq_true hGuess)
  · have hLog : (2 : ℚ) ^ (r.value.log2 : Int) ≤ r.value := by
      rw [zpow_natCast]
      exact_mod_cast Nat.log2_self_le (Nat.ne_of_gt hValue)
    calc (10 : ℚ) ^ ((r.value.log2 + r.exponent) * 78913 / 262144 - 1)
        ≤ 2 ^ (r.value.log2 + r.exponent) := ten_zpow_le hLow hHigh
      _ = 2 ^ (r.value.log2 : Int) * 2 ^ r.exponent := zpow_add₀ (by norm_num) _ _
      _ ≤ r.value * 2 ^ r.exponent := by gcongr

/-- Seventeen digits: the number is at least `10 ^ 16` steps of the last grid. -/
theorem last_grid {r : Rounding} (hValue : 0 < r.value)
    (hLow : -1200 ≤ r.value.log2 + r.exponent) (hHigh : r.value.log2 + r.exponent ≤ 1200) :
    10 ^ 16 * (r.grid (r.order - 16)).den ≤ r.value * (r.grid (r.order - 16)).num := by
  refine (r.le_iff_zpow_le _ _).mpr ?_
  have hUnit : ((10 ^ 16 : Nat) : ℚ) * 10 ^ (r.order - 16) = 10 ^ r.order := by
    have hCast : ((10 ^ 16 : Nat) : ℚ) = 10 ^ (16 : Int) := by norm_num
    rw [hCast, ← zpow_add₀ (by norm_num), add_sub_cancel]
  rw [hUnit]
  exact ten_zpow_order_le hValue hLow hHigh

/-! ## The shortest decimal -/

variable {f : FloatFormat} {m : Nat} {q : Int}

theorem cast_high : ((ofMagnitude f m q).high : ℚ) = 4 * (m + 1 / 2) := by
  simp only [ofMagnitude]
  push_cast
  ring

theorem cast_low (hm : m ≠ 0) : ((ofMagnitude f m q).low : ℚ) =
    4 * (m - if m = 2 ^ f.fractionBits ∧ f.lowestExponent < q then 1 / 4 else 1 / 2) := by
  simp only [ofMagnitude, Nat.pow_eq]
  split
  · rw [Nat.cast_sub (by omega)]
    push_cast
    ring
  · rw [Nat.cast_sub (by omega)]
    push_cast
    ring

theorem roundsTo_of_holds (hm : m ≠ 0) {k : Nat} {u : Int}
    (h : (ofMagnitude f m q).holds ((ofMagnitude f m q).grid u) k = true) :
    f.RoundsTo m q (k * 10 ^ u) := by
  obtain ⟨c, hc, hNum, hDen⟩ := (ofMagnitude f m q).exists_scale u
  have hPoint : (k : ℚ) * 10 ^ u = (k * ((ofMagnitude f m q).grid u).den : Nat) * c := by
    rw [Nat.cast_mul, mul_assoc, hDen]
  have hEdge : ∀ (n : Nat) (x : ℚ), (n : ℚ) = 4 * x →
      x * 2 ^ q = (n * ((ofMagnitude f m q).grid u).num : Nat) * c := fun n x hx => by
    have hQuarter : (2 : ℚ) ^ q = 4 * 2 ^ (q - 2) := by
      rw [zpow_sub₀ (by norm_num)]
      norm_num
      ring
    rw [Nat.cast_mul, mul_assoc, hNum, hx, hQuarter]
    dsimp only [ofMagnitude]
    ring
  unfold FloatFormat.RoundsTo
  dsimp only
  rw [hPoint, hEdge _ _ cast_high, hEdge _ _ (cast_low hm)]
  simp only [mul_le_mul_iff_left₀ hc, mul_lt_mul_iff_left₀ hc, Nat.cast_le, Nat.cast_lt]
  have hClosed : (ofMagnitude f m q).closed = (m % 2 == 0) := rfl
  simp only [holds, hClosed, beq_iff_eq] at h
  split at h
  · rename_i hEven
    rw [if_pos hEven]
    simpa only [Bool.and_eq_true, decide_eq_true_eq] using h
  · rename_i hOdd
    rw [if_neg hOdd]
    simpa only [Bool.and_eq_true, decide_eq_true_eq] using h

/-- The seventeenth digit brings a grid on which a neighbour of the number holds. -/
theorem exists_last (hm : m ≠ 0) (hBits : f.fractionBits ≤ 52) (hSize : m < 2 * 2 ^ f.fractionBits)
    (hLow : -1100 ≤ q) (hHigh : q ≤ 1100) :
    ∃ k, (ofMagnitude f m q).pick?
      ((ofMagnitude f m q).grid ((ofMagnitude f m q).order - 16)) = some k := by
  have hPow : 2 ^ f.fractionBits ≤ 2 ^ 52 := Nat.pow_le_pow_right (by decide) hBits
  have hLog : (4 * m).log2 < 55 := (Nat.log2_lt (by omega)).mpr (by omega)
  have hLast := last_grid (r := ofMagnitude f m q) (by simp only [ofMagnitude]; omega)
    (by simp only [ofMagnitude]; omega) (by simp only [ofMagnitude]; omega)
  have hDen := (ofMagnitude f m q).grid_den_pos ((ofMagnitude f m q).order - 16)
  generalize (ofMagnitude f m q).grid ((ofMagnitude f m q).order - 16) = g at hLast hDen
  have hValue : (ofMagnitude f m q).value * g.num = 4 * (m * g.num) := Nat.mul_assoc _ _ _
  refine exists_pick?_of_lt hDen rfl ?_
  by_cases hEdge : m = 2 ^ f.fractionBits ∧ f.lowestExponent < q
  · have hNum : m * g.num ≤ 2 ^ 52 * g.num := Nat.mul_le_mul_right _ (by omega)
    exact .inr ⟨by omega, by simp only [ofMagnitude]; split <;> omega⟩
  · have hNum : m * g.num ≤ (2 ^ 53 - 1) * g.num := Nat.mul_le_mul_right _ (by omega)
    refine .inl ⟨by omega, ?_⟩
    simp only [ofMagnitude, Nat.pow_eq, if_neg hEdge]
    omega

end Rounding

/-- A shortest decimal rounds to its number. -/
theorem shortest_roundsTo {f : FloatFormat} {m : Nat} {q : Int} (hm : m ≠ 0)
    (hBits : f.fractionBits ≤ 52) (hSize : m < 2 * 2 ^ f.fractionBits) (hLow : -1100 ≤ q)
    (hHigh : q ≤ 1100) : f.RoundsTo m q (shortest f m q).value := by
  have hLast := Rounding.exists_last hm hBits hSize hLow hHigh
  obtain ⟨k, u, hSearch, hHolds⟩ := Rounding.exists_search 16 (Rounding.ofMagnitude f m q).order
    (by exact_mod_cast hLast)
  have hValue : (shortest f m q).value = k * 10 ^ u := by
    rw [shortest, Number.value_trim, hSearch, Number.value]
  rw [hValue]
  exact Rounding.roundsTo_of_holds hm hHolds

end Decimal

theorem FloatFormat.RoundsTo.pos {f : FloatFormat} {m : Nat} {q : Int} {x : ℚ} (hm : m ≠ 0)
    (h : f.RoundsTo m q x) : 0 < x := by
  have hOne : (1 : ℚ) ≤ m := Nat.one_le_cast.mpr (Nat.pos_of_ne_zero hm)
  have hTwo : (0 : ℚ) < 2 ^ q := by positivity
  have hLow : 0 < ((m : ℚ) -
      if m = 2 ^ f.fractionBits ∧ f.lowestExponent < q then 1 / 4 else 1 / 2) * 2 ^ q := by
    refine mul_pos ?_ hTwo
    split <;> linarith
  unfold RoundsTo at h
  dsimp only at h
  split at h
  · exact hLow.trans_le h.1
  · exact hLow.trans h.1

theorem FloatFormat.roundsTo_zero (f : FloatFormat) (q : Int) : f.RoundsTo 0 q 0 := by
  have hTwo : (0 : ℚ) < 2 ^ q := by positivity
  unfold RoundsTo
  dsimp only
  rw [if_pos (Nat.zero_mod 2)]
  refine ⟨?_, by positivity⟩
  rw [Nat.cast_zero, zero_sub, neg_mul, Left.neg_nonpos_iff]
  split <;> positivity

end Logline
