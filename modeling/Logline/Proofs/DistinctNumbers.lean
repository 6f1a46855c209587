import Logline.Proofs.FloatText

/-! # Distinct numbers

The intervals that round to the numbers of a format do not meet, so a decimal stands for one number
only, and two numbers with the same text have the same bits. All that is not a number has one text.
-/

namespace Logline

namespace FloatFormat

variable {f : FloatFormat} {m m' : Nat} {q q' : Int} {x : ℚ}

/-- A magnitude of the format in the form in which its bits give it: with all of its digits, if the
exponent is not the lowest one. -/
structure Has (f : FloatFormat) (m : Nat) (q : Int) : Prop where
  digits_lt : m < 2 * 2 ^ f.fractionBits
  lowest_le : f.lowestExponent ≤ q
  le_digits : f.lowestExponent < q → 2 ^ f.fractionBits ≤ m

theorem has_decode {bits : Nat} (h : f.decode bits = .finite m q) : f.Has m q := by
  have hBounds := decode_bounds h
  refine ⟨hBounds.1, hBounds.2.1, fun hAbove => ?_⟩
  simp only [decode, Nat.pow_eq] at h
  split at h
  · split at h <;> cases h
  split at h
  · cases h
    exact absurd hAbove (lt_irrefl _)
  · cases h
    exact Nat.le_add_left _ _

/-- Half a spacing below a number, or a quarter where the spacing changes. -/
def down (f : FloatFormat) (m : Nat) (q : Int) : ℚ :=
  if m = 2 ^ f.fractionBits ∧ f.lowestExponent < q then 1 / 4 else 1 / 2

theorem down_le (f : FloatFormat) (m : Nat) (q : Int) : f.down m q ≤ 1 / 2 := by
  unfold down
  split <;> norm_num

theorem RoundsTo.le (h : f.RoundsTo m q x) : x ≤ (m + 1 / 2) * 2 ^ q := by
  unfold RoundsTo at h
  dsimp only at h
  split at h
  · exact h.2
  · exact h.2.le

theorem RoundsTo.ge (h : f.RoundsTo m q x) : (m - f.down m q) * 2 ^ q ≤ x := by
  unfold RoundsTo at h
  dsimp only at h
  split at h
  · exact h.1
  · exact h.1.le

/-- An end of the interval rounds to an even number only. -/
theorem RoundsTo.even_of_eq (h : f.RoundsTo m q x)
    (hEnd : x = (m + 1 / 2) * 2 ^ q ∨ x = (m - f.down m q) * 2 ^ q) : m % 2 = 0 := by
  unfold RoundsTo at h
  dsimp only at h
  split at h
  · assumption
  · rcases hEnd with hHigh | hLow
    · exact absurd hHigh h.2.ne
    · exact absurd hLow h.1.ne'

/-- Where the spacing is the same, there is a whole spacing between two numbers. -/
theorem gap_of_lt (hLess : m < m') :
    (m + 1 / 2 : ℚ) * 2 ^ q ≤ (m' - f.down m' q) * 2 ^ q ∧
      (m % 2 = 0 → m' % 2 = 0 → (m + 1 / 2 : ℚ) * 2 ^ q < (m' - f.down m' q) * 2 ^ q) := by
  have hTwo : (0 : ℚ) < 2 ^ q := by positivity
  have hDown := f.down_le m' q
  have hNext : (m + 1 : ℚ) ≤ m' := by exact_mod_cast hLess
  refine ⟨mul_le_mul_of_nonneg_right (by linarith) hTwo.le, fun hEven hEven' => ?_⟩
  have hFar : (m + 2 : ℚ) ≤ m' := by
    have hWhole : m + 2 ≤ m' := by omega
    exact_mod_cast hWhole
  exact mul_lt_mul_of_pos_right (by linarith) hTwo

/-- Below a larger exponent all digits have been used up. -/
theorem gap_of_exponent_lt (hm : f.Has m q) (hm' : f.Has m' q') (hLess : q < q') :
    (m + 1 / 2 : ℚ) * 2 ^ q ≤ (m' - f.down m' q') * 2 ^ q' ∧
      (m % 2 = 0 → (m + 1 / 2 : ℚ) * 2 ^ q < (m' - f.down m' q') * 2 ^ q') := by
  have hAbove : f.lowestExponent < q' := lt_of_le_of_lt hm.lowest_le hLess
  have hDigits' := hm'.le_digits hAbove
  have hDigits := hm.digits_lt
  generalize hUnit : 2 ^ f.fractionBits = n at hDigits hDigits'
  have hTwo : (0 : ℚ) < 2 ^ q := by positivity
  have hOne : (1 : ℚ) ≤ n := by
    have hPos : 1 ≤ 2 ^ f.fractionBits := Nat.one_le_two_pow
    rw [hUnit] at hPos
    exact_mod_cast hPos
  have hSpace : 2 * (2 : ℚ) ^ q ≤ 2 ^ q' := by
    rw [← zpow_one_add₀ (by norm_num)]
    exact zpow_le_zpow_right₀ (by norm_num) (by omega)
  have hStart : (n - 1 / 4 : ℚ) ≤ m' - f.down m' q' := by
    unfold down
    rw [hUnit]
    split_ifs with hEdge
    · rw [hEdge.1]
    · have hMore : n + 1 ≤ m' := by
        have hNe : m' ≠ n := fun h => hEdge ⟨h, hAbove⟩
        omega
      have hCast : (n + 1 : ℚ) ≤ m' := by exact_mod_cast hMore
      linarith
  have hEnd : (2 * n - 1 / 2 : ℚ) * 2 ^ q ≤ (m' - f.down m' q') * 2 ^ q' := calc
    (2 * n - 1 / 2 : ℚ) * 2 ^ q = (n - 1 / 4) * (2 * 2 ^ q) := by ring
    _ ≤ (n - 1 / 4) * 2 ^ q' := mul_le_mul_of_nonneg_left hSpace (by linarith)
    _ ≤ (m' - f.down m' q') * 2 ^ q' := mul_le_mul_of_nonneg_right hStart (by positivity)
  constructor
  · refine le_trans (mul_le_mul_of_nonneg_right ?_ hTwo.le) hEnd
    have hCast : (m + 1 : ℚ) ≤ 2 * n := by exact_mod_cast hDigits
    linarith
  · intro hEven
    refine lt_of_lt_of_le (mul_lt_mul_of_pos_right ?_ hTwo) hEnd
    have hLast : m + 2 ≤ 2 * n := by omega
    have hCast : (m + 2 : ℚ) ≤ 2 * n := by exact_mod_cast hLast
    linarith

/-- Nothing rounds to two numbers, of which one is the smaller one. -/
theorem RoundsTo.false_of_gap (h : f.RoundsTo m q x) (h' : f.RoundsTo m' q' x)
    (hGap : (m + 1 / 2 : ℚ) * 2 ^ q ≤ (m' - f.down m' q') * 2 ^ q')
    (hEven : m % 2 = 0 → m' % 2 = 0 → (m + 1 / 2 : ℚ) * 2 ^ q < (m' - f.down m' q') * 2 ^ q') :
    False := by
  have hHigh := h.le
  have hLow := h'.ge
  have hSame : (m + 1 / 2 : ℚ) * 2 ^ q = (m' - f.down m' q') * 2 ^ q' :=
    le_antisymm hGap (hLow.trans hHigh)
  have hEnd : x = (m + 1 / 2) * 2 ^ q := le_antisymm hHigh (hSame ▸ hLow)
  have hLess := hEven (h.even_of_eq (.inl hEnd)) (h'.even_of_eq (.inr (hEnd.trans hSame)))
  exact lt_irrefl _ (hSame ▸ hLess)

theorem RoundsTo.unique (h : f.RoundsTo m q x) (h' : f.RoundsTo m' q' x) (hm : f.Has m q)
    (hm' : f.Has m' q') : m = m' ∧ q = q' := by
  rcases lt_trichotomy q q' with hLess | rfl | hMore
  · obtain ⟨hGap, hEven⟩ := gap_of_exponent_lt hm hm' hLess
    exact (h.false_of_gap h' hGap fun hZero _ => hEven hZero).elim
  · rcases Nat.lt_trichotomy m m' with hLess | rfl | hMore
    · obtain ⟨hGap, hEven⟩ := gap_of_lt (f := f) (q := q) hLess
      exact (h.false_of_gap h' hGap hEven).elim
    · exact ⟨rfl, rfl⟩
    · obtain ⟨hGap, hEven⟩ := gap_of_lt (f := f) (q := q) hMore
      exact (h'.false_of_gap h hGap hEven).elim
  · obtain ⟨hGap, hEven⟩ := gap_of_exponent_lt hm' hm hMore
    exact (h'.false_of_gap h hGap fun hZero _ => hEven hZero).elim

/-! ## Bits and texts -/

variable {bits bits' : Nat}

/-- The sign is in front of the bits that give the magnitude. -/
theorem mod_eq_of_decode (h : f.decode bits = f.decode bits') (hNumber : f.decode bits ≠ .nan) :
    bits % (2 ^ f.fractionBits * 2 ^ f.exponentBits) =
      bits' % (2 ^ f.fractionBits * 2 ^ f.exponentBits) := by
  have hFraction : bits % 2 ^ f.fractionBits < 2 ^ f.fractionBits :=
    Nat.mod_lt _ (Nat.pow_pos (by decide))
  have hFraction' : bits' % 2 ^ f.fractionBits < 2 ^ f.fractionBits :=
    Nat.mod_lt _ (Nat.pow_pos (by decide))
  have hParts : bits % 2 ^ f.fractionBits = bits' % 2 ^ f.fractionBits ∧
      bits / 2 ^ f.fractionBits % 2 ^ f.exponentBits =
        bits' / 2 ^ f.fractionBits % 2 ^ f.exponentBits := by
    simp only [decode, Nat.pow_eq] at h hNumber
    generalize bits % 2 ^ f.fractionBits = fraction at *
    generalize bits' % 2 ^ f.fractionBits = fraction' at *
    generalize bits / 2 ^ f.fractionBits % 2 ^ f.exponentBits = field at *
    generalize bits' / 2 ^ f.fractionBits % 2 ^ f.exponentBits = field' at *
    split_ifs at h hNumber <;> simp at h hNumber <;> omega
  rw [Nat.mod_mul, Nat.mod_mul, hParts.1, hParts.2]

/-- No more bits than those of the format: the sign, the exponent and the fraction. -/
def Fits (f : FloatFormat) (bits : Nat) : Prop :=
  bits < 2 * (2 ^ f.fractionBits * 2 ^ f.exponentBits)

/-- The same bits, or neither of both stands for a number. -/
def Alike (f : FloatFormat) (bits bits' : Nat) : Prop :=
  bits = bits' ∨ f.decode bits = .nan ∧ f.decode bits' = .nan

theorem eq_of_decode (hFits : f.Fits bits) (hFits' : f.Fits bits')
    (hSign : f.isNegative bits = f.isNegative bits') (h : f.decode bits = f.decode bits')
    (hNumber : f.decode bits ≠ .nan) : bits = bits' := by
  have hRest := mod_eq_of_decode h hNumber
  rw [Fits] at hFits hFits'
  simp only [isNegative, Nat.pow_eq, Nat.pow_add] at hSign
  generalize 2 ^ f.fractionBits * 2 ^ f.exponentBits = unit at *
  have hFirst : bits / unit = bits' / unit := by
    have hLow : bits / unit < 2 := Nat.div_lt_of_lt_mul (by rwa [Nat.mul_comm])
    have hLow' : bits' / unit < 2 := Nat.div_lt_of_lt_mul (by rwa [Nat.mul_comm])
    rw [Nat.mod_eq_of_lt hLow, Nat.mod_eq_of_lt hLow', Bool.eq_iff_iff, beq_iff_eq,
      beq_iff_eq] at hSign
    generalize bits / unit = first at *
    generalize bits' / unit = first' at *
    omega
  rw [← Nat.div_add_mod bits unit, hFirst, hRest, Nat.div_add_mod]

end FloatFormat

open Decimal (Layout)
open Json (IsNumberChar)

/-- The text of the number that bits stand for. -/
def Decimal.Layout.textOf (l : Layout) (f : FloatFormat) (bits : Nat) : String :=
  l.text f (f.isNegative bits) (f.decode bits)

namespace FloatFormat.Known

variable {f : FloatFormat} {l : Layout} {negative negative' : Bool} {bits bits' : Nat}

/-- The words are told from the numbers by their letters. -/
theorem chars_text_iff (hf : f.Known) (hl : l.Standard) :
    (∀ c ∈ (l.text f negative (f.decode bits)).toList, IsNumberChar c) ↔
      ∃ m q, f.decode bits = .finite m q := by
  cases hMagnitude : f.decode bits with
  | nan =>
    rw [Layout.text, hl.nan]
    refine iff_of_false (fun hChars => ?_) (by simp)
    exact absurd (hChars 'N' (by decide)) (by simp [IsNumberChar])
  | infinite =>
    rw [Layout.text, hl.infinity]
    refine iff_of_false (fun hChars => ?_) (by simp)
    exact absurd (hChars 'I' (by cases negative <;> decide)) (by simp [IsNumberChar])
  | finite m q =>
    refine iff_of_true ?_ ⟨m, q, rfl⟩
    rw [Layout.text, String.toList_ofList]
    exact Json.chars_signed (hf.spellsNumber l (.inl hl.plus) hMagnitude).chars

theorem decode_of_text (hf : f.Known) (hl : l.Standard)
    (h : l.text f negative (f.decode bits) = l.text f negative' (f.decode bits')) :
    (f.decode bits = .nan ∧ f.decode bits' = .nan) ∨
      (negative = negative' ∧ f.decode bits = f.decode bits' ∧ f.decode bits ≠ .nan) := by
  have hFinite : (∃ m q, f.decode bits = .finite m q) ↔ ∃ m q, f.decode bits' = .finite m q := by
    rw [← hf.chars_text_iff hl, h, hf.chars_text_iff hl]
  cases hMagnitude : f.decode bits with
  | finite m q =>
    obtain ⟨m', q', hMagnitude'⟩ := hFinite.mp ⟨m, q, hMagnitude⟩
    have hSpells := hf.spells_text l (.inl hl.plus) hMagnitude negative
    have hSpells' := hf.spells_text l (.inl hl.plus) hMagnitude' negative'
    rw [hMagnitude, hMagnitude'] at h
    rw [h] at hSpells
    obtain ⟨hSign, hValue⟩ := Json.Content.number.inj
      (Option.some.inj (hSpells.content?_eq.symm.trans hSpells'.content?_eq))
    have hRounds := hf.roundsTo hMagnitude'
    rw [← hValue] at hRounds
    obtain ⟨rfl, rfl⟩ := (hf.roundsTo hMagnitude).unique hRounds (has_decode hMagnitude)
      (has_decode hMagnitude')
    exact .inr ⟨hSign, hMagnitude'.symm, by simp⟩
  | nan =>
    cases hMagnitude' : f.decode bits' with
    | nan => exact .inl ⟨rfl, rfl⟩
    | infinite =>
      rw [hMagnitude, hMagnitude', Layout.text, Layout.text, hl.nan, hl.infinity] at h
      cases negative' <;> exact absurd h (by decide)
    | finite m q =>
      obtain ⟨_, _, hOther⟩ := hFinite.mpr ⟨m, q, hMagnitude'⟩
      rw [hMagnitude] at hOther
      cases hOther
  | infinite =>
    cases hMagnitude' : f.decode bits' with
    | nan =>
      rw [hMagnitude, hMagnitude', Layout.text, Layout.text, hl.nan, hl.infinity] at h
      cases negative <;> exact absurd h (by decide)
    | infinite =>
      rw [hMagnitude, hMagnitude', Layout.text, Layout.text, hl.infinity, hl.infinity] at h
      refine .inr ⟨?_, rfl, by simp⟩
      revert h
      cases negative <;> cases negative' <;> decide
    | finite m q =>
      obtain ⟨_, _, hOther⟩ := hFinite.mpr ⟨m, q, hMagnitude'⟩
      rw [hMagnitude] at hOther
      cases hOther

/-- Two numbers with one text have the same bits, and all that is not a number has one text. -/
theorem text_eq_iff (hf : f.Known) (hl : l.Standard) (hFits : f.Fits bits)
    (hFits' : f.Fits bits') : l.textOf f bits = l.textOf f bits' ↔ f.Alike bits bits' := by
  constructor
  · intro h
    rcases hf.decode_of_text hl h with hNan | ⟨hSign, hMagnitude, hNumber⟩
    · exact .inr hNan
    · exact .inl (eq_of_decode hFits hFits' hSign hMagnitude hNumber)
  · rintro (rfl | ⟨hNan, hNan'⟩)
    · rfl
    · rw [Layout.textOf, Layout.textOf, hNan, hNan']
      rfl

end FloatFormat.Known

end Logline
