import Logline.Proofs.JsonContent
import Mathlib.Tactic.Ring

/-! # Texts of numbers

Whole numbers, positional decimals and decimals with an exponent read back as the numbers they
stand for. The digits before the point do not start with a zero, unless it is the only one.
-/

namespace Logline.Json

open Text (utf8 asciiBytes)

def digitOf (c : Char) : Nat := c.toNat - '0'.toNat

theorem digitsValue_digits (cs : List Char) :
    digitsValue (cs.map digitOf) = Nat.ofDigitChars 10 cs 0 := by
  rw [digitsValue, Nat.ofDigitChars_eq_foldl, List.foldl_map]
  simp only [digitOf, Nat.mul_comm]

theorem isDigit_bounds {c : Char} (hc : c.isDigit = true) : 48 ≤ c.toNat ∧ c.toNat ≤ 57 := by
  simpa [Char.isDigit, UInt32.le_iff_toNat_le] using hc

theorem digit?_of_isDigit {c : Char} (hc : c.isDigit = true) :
    digit? (UInt8.ofNat c.toNat) = some (digitOf c) := by
  have hRange := isDigit_bounds hc
  have hByte : (UInt8.ofNat c.toNat).toNat = c.toNat := Text.toNat_ofNat (by omega)
  rw [digit?, if_pos]
  · rw [hByte]
    rfl
  · rw [UInt8.le_iff_toNat_le, UInt8.le_iff_toNat_le, hByte]
    exact hRange

def NoDigit : List UInt8 → Prop
  | [] => True
  | b :: _ => digit? b = none

theorem noDigit_of_stops {rest : List UInt8} (h : Stops rest) : NoDigit rest := by
  cases rest with
  | nil => trivial
  | cons b r => exact digit?_of_stops h

theorem readDigits_text {cs : List Char} (hDigits : ∀ c ∈ cs, c.isDigit = true) {rest : List UInt8}
    (hRest : NoDigit rest) :
    readDigits (asciiBytes cs ++ rest) = (cs.map digitOf, rest) := by
  induction cs with
  | nil =>
    cases rest with
    | nil => rfl
    | cons b r =>
      show readDigits (b :: r) = ([], b :: r)
      rw [readDigits, hRest]
  | cons c r ih =>
    show readDigits (UInt8.ofNat c.toNat :: (asciiBytes r ++ rest)) = _
    rw [readDigits, digit?_of_isDigit (hDigits c List.mem_cons_self),
      ih fun d hd => hDigits d (List.mem_cons_of_mem _ hd)]
    rfl

structure Whole (cs : List Char) : Prop where
  digits : ∀ c ∈ cs, c.isDigit = true
  nonempty : cs ≠ []
  zero : cs.head? = some '0' → cs = ['0']

theorem Whole.not_zero {cs : List Char} (h : Whole cs) (d : Nat) (ds : List Nat) :
    cs.map digitOf ≠ 0 :: d :: ds := by
  obtain ⟨c, r, rfl⟩ := List.exists_cons_of_ne_nil h.nonempty
  rw [List.map_cons]
  intro hCons
  obtain ⟨hZero, hRest⟩ := List.cons.inj hCons
  have hRange := isDigit_bounds (h.digits c List.mem_cons_self)
  have hChar : c = '0' := by
    refine Char.toNat_inj.mp ?_
    have hSub : c.toNat - 48 = 0 := hZero
    show c.toNat = 48
    omega
  obtain ⟨-, rfl⟩ := List.cons.inj (h.zero (by rw [hChar]; rfl))
  cases hRest

/-- An exponent behind its `e`: a sign, if one is written, and digits. -/
structure Power where
  sign : List Char
  below : Bool
  digits : List Char

def Power.text (p : Power) : List Char := 'e' :: (p.sign ++ p.digits)

def Power.Good (p : Power) : Prop :=
  (p.sign = [] ∧ p.below = false ∨ p.sign = ['+'] ∧ p.below = false ∨
    p.sign = ['-'] ∧ p.below = true) ∧
  p.digits ≠ [] ∧ ∀ c ∈ p.digits, c.isDigit = true

/-- A number without its sign: digits, a point and more digits, an exponent. -/
def numberChars (whole fraction : List Char) (power : Option Power) : List Char :=
  whole ++ (if fraction = [] then [] else '.' :: fraction) ++ (power.map Power.text).getD []

def numeralOf (negative : Bool) (whole fraction : List Char) (power : Option Power) : Numeral where
  negative
  whole := whole.map digitOf
  fraction := if fraction = [] then none else some (fraction.map digitOf)
  exponent := power.map fun p => (p.below, p.digits.map digitOf)

theorem asciiBytes_append (cs ds : List Char) :
    asciiBytes (cs ++ ds) = asciiBytes cs ++ asciiBytes ds := List.map_append

theorem readSign_text {p : Power} (hp : p.Good) (rest : List UInt8) :
    readSign (asciiBytes (p.sign ++ p.digits) ++ rest) =
      (p.below, asciiBytes p.digits ++ rest) := by
  obtain ⟨hSign, hNonempty, hDigits⟩ := hp
  rcases hSign with ⟨hSign, hBelow⟩ | ⟨hSign, hBelow⟩ | ⟨hSign, hBelow⟩ <;> rw [hSign, hBelow]
  · cases hCases : p.digits with
    | nil => exact absurd hCases hNonempty
    | cons c r =>
      have hDigit := digit?_of_isDigit (hDigits c (by simp [hCases]))
      show readSign (UInt8.ofNat c.toNat :: (asciiBytes r ++ rest)) = _
      rw [readSign]
      · rfl
      · intro t hCons
        rw [(List.cons.inj hCons).1] at hDigit
        cases hDigit
      · intro t hCons
        rw [(List.cons.inj hCons).1] at hDigit
        cases hDigit
  · rfl
  · rfl

theorem readExponent_text {power : Option Power} (hPower : ∀ p ∈ power, p.Good) {rest : List UInt8}
    (hRest : Stops rest) :
    readExponent (asciiBytes ((power.map Power.text).getD []) ++ rest) =
      some (power.map fun p => (p.below, p.digits.map digitOf), rest) := by
  cases power with
  | none =>
    cases rest with
    | nil => rfl
    | cons b r => rcases hRest with rfl | rfl | rfl <;> rfl
  | some p =>
    have hp := hPower p rfl
    have hDigits := readDigits_text hp.2.2 (noDigit_of_stops hRest)
    obtain ⟨c, r, hCons⟩ := List.exists_cons_of_ne_nil hp.2.1
    show readExponent (0x65 :: (asciiBytes (p.sign ++ p.digits) ++ rest)) = _
    rw [readExponent, if_pos (.inl rfl), readSign_text hp]
    simp only [hDigits]
    simp [hCons]

theorem readFraction_text {fraction : List Char} (hFraction : ∀ c ∈ fraction, c.isDigit = true)
    {rest : List UInt8} (hRest : NoDigit rest) (hPoint : ∀ t, rest ≠ 0x2e :: t) :
    readFraction (asciiBytes (if fraction = [] then [] else '.' :: fraction) ++ rest) =
      some (if fraction = [] then none else some (fraction.map digitOf), rest) := by
  cases fraction with
  | nil => exact readFraction_plain hPoint
  | cons c r =>
    have hDigits := readDigits_text hFraction hRest
    show readFraction (0x2e :: (asciiBytes (c :: r) ++ rest)) = _
    rw [readFraction, hDigits]
    rfl

theorem readNumeral_text {negative : Bool} {whole fraction : List Char} {power : Option Power}
    (hWhole : Whole whole) (hFraction : ∀ c ∈ fraction, c.isDigit = true)
    (hPower : ∀ p ∈ power, p.Good) {rest : List UInt8} (hRest : Stops rest) :
    readNumeral negative (asciiBytes (numberChars whole fraction power) ++ rest) =
      some (numeralOf negative whole fraction power, rest) := by
  have hExponent := readExponent_text hPower hRest
  rw [numberChars, asciiBytes_append, asciiBytes_append, List.append_assoc, List.append_assoc]
  generalize hEnd : asciiBytes ((power.map Power.text).getD []) ++ rest = ending at hExponent ⊢
  have hNoDigit : NoDigit ending := by
    subst hEnd
    cases power with
    | none => exact noDigit_of_stops hRest
    | some p => rfl
  have hNoPoint : ∀ t, ending ≠ 0x2e :: t := by
    subst hEnd
    cases power with
    | none =>
      rintro t rfl
      rcases hRest with h | h | h <;> cases h
    | some p => exact fun t hCons => absurd (List.cons.inj hCons).1 (by decide)
  have hTail := readFraction_text hFraction hNoDigit hNoPoint
  have hStart : NoDigit (asciiBytes (if fraction = [] then [] else '.' :: fraction) ++ ending) := by
    cases fraction with
    | nil => exact hNoDigit
    | cons c r => rfl
  have hDigits := readDigits_text hWhole.digits hStart
  rw [readNumeral, hDigits]
  split
  · rename_i hNil
    exact absurd (List.map_eq_nil_iff.mp (Prod.mk.inj hNil).1) hWhole.nonempty
  · rename_i hZero
    exact absurd (Prod.mk.inj hZero).1 (hWhole.not_zero _ _)
  · rename_i hParts
    obtain ⟨rfl, rfl⟩ := Prod.mk.inj hParts
    simp [hTail, hExponent, numeralOf]

/-! ## Numbers as values -/

def IsNumberChar (c : Char) : Prop := c.isDigit = true ∨ c ∈ ['.', 'e', '+', '-']

theorem IsNumberChar.bounds {c : Char} (h : IsNumberChar c) : 0x2b ≤ c.toNat ∧ c.toNat < 128 := by
  rcases h with h | h
  · have hRange := isDigit_bounds h
    omega
  · simp only [List.mem_cons, List.not_mem_nil, or_false] at h
    rcases h with rfl | rfl | rfl | rfl <;> decide

/-- Characters of a number without its sign, which stands for `magnitude`. -/
structure SpellsNumber (cs : List Char) (magnitude : ℚ) : Prop where
  parts : ∃ (whole fraction : List Char) (power : Option Power),
    cs = numberChars whole fraction power ∧ Whole whole ∧ (∀ c ∈ fraction, c.isDigit = true) ∧
      ∀ p ∈ power, p.Good
  read : ∀ negative, ∃ x : Numeral, x.negative = negative ∧ x.magnitude = magnitude ∧
    ∀ rest, Stops rest → readNumeral negative (asciiBytes cs ++ rest) = some (x, rest)

theorem Power.Good.chars {p : Power} (hp : p.Good) : ∀ c ∈ p.text, IsNumberChar c := by
  obtain ⟨hSign, -, hDigits⟩ := hp
  intro c hc
  rcases List.mem_cons.mp hc with rfl | hc
  · exact .inr (by decide)
  rcases List.mem_append.mp hc with hc | hc
  · rcases hSign with ⟨hSign, -⟩ | ⟨hSign, -⟩ | ⟨hSign, -⟩ <;> rw [hSign] at hc
    · cases hc
    · obtain rfl := List.mem_singleton.mp hc
      exact .inr (by decide)
    · obtain rfl := List.mem_singleton.mp hc
      exact .inr (by decide)
  · exact .inl (hDigits c hc)

theorem chars_numberChars {whole fraction : List Char} {power : Option Power} (hWhole : Whole whole)
    (hFraction : ∀ c ∈ fraction, c.isDigit = true) (hPower : ∀ p ∈ power, p.Good) :
    ∀ c ∈ numberChars whole fraction power, IsNumberChar c := by
  intro c hc
  rcases List.mem_append.mp hc with hc | hc
  · rcases List.mem_append.mp hc with hc | hc
    · exact .inl (hWhole.digits c hc)
    · split at hc
      · cases hc
      · rcases List.mem_cons.mp hc with rfl | hc
        · exact .inr (by decide)
        · exact .inl (hFraction c hc)
  · cases power with
    | none => cases hc
    | some p => exact (hPower p rfl).chars c hc

theorem SpellsNumber.chars {cs : List Char} {magnitude : ℚ} (h : SpellsNumber cs magnitude) :
    ∀ c ∈ cs, IsNumberChar c := by
  obtain ⟨whole, fraction, power, rfl, hWhole, hFraction, hPower⟩ := h.parts
  exact chars_numberChars hWhole hFraction hPower

theorem spellsNumber {whole fraction : List Char} {power : Option Power} (hWhole : Whole whole)
    (hFraction : ∀ c ∈ fraction, c.isDigit = true) (hPower : ∀ p ∈ power, p.Good) {magnitude : ℚ}
    (hMagnitude : (numeralOf false whole fraction power).magnitude = magnitude) :
    SpellsNumber (numberChars whole fraction power) magnitude := by
  refine ⟨⟨whole, fraction, power, rfl, hWhole, hFraction, hPower⟩, ?_⟩
  intro negative
  exact ⟨numeralOf negative whole fraction power, rfl, hMagnitude, fun rest hRest =>
    readNumeral_text hWhole hFraction hPower hRest⟩

def signed (negative : Bool) (cs : List Char) : List Char := (if negative then ['-'] else []) ++ cs

theorem chars_signed {negative : Bool} {cs : List Char} (h : ∀ c ∈ cs, IsNumberChar c) :
    ∀ c ∈ signed negative cs, IsNumberChar c := by
  intro c hc
  rcases List.mem_append.mp hc with hSign | hRest
  · cases negative with
    | true =>
      obtain rfl := List.mem_singleton.mp hSign
      exact .inr (by decide)
    | false => cases hSign
  · exact h c hRest

theorem spells_number {cs : List Char} {magnitude : ℚ} (h : SpellsNumber cs magnitude)
    (negative : Bool) :
    Spells (utf8 (String.ofList (signed negative cs))) (.number negative magnitude) := by
  have hBounds : ∀ c ∈ signed negative cs, 0x2b ≤ c.toNat ∧ c.toNat < 128 := fun c hc =>
    (chars_signed h.chars c hc).bounds
  obtain ⟨x, hNegative, hMagnitude, hRead⟩ := h.read negative
  refine ⟨⟨.number x, ?_, ?_⟩, ?_, Text.isText_utf8 _⟩
  · rw [Raw.content?, hNegative, hMagnitude]
  · rw [Text.utf8_ascii fun c hc => (hBounds c hc).2]
    refine reads_of_readValue fun rest n hRest _ => ?_
    cases negative with
    | true =>
      show (readNumeral true (asciiBytes cs ++ rest)).map _ = _
      rw [hRead rest hRest]
      rfl
    | false =>
      cases cs with
      | nil =>
        have hEmpty := hRead [] trivial
        cases hEmpty
      | cons c r => exact readValue_numeral (hRead rest hRest)
  · rw [Text.utf8_ascii fun c hc => (hBounds c hc).2]
    intro hFeed
    obtain ⟨c, hc, hByte⟩ := List.mem_map.mp hFeed
    obtain ⟨hLow, hHigh⟩ := hBounds c hc
    have hNat : (UInt8.ofNat c.toNat).toNat = c.toNat := Text.toNat_ofNat (by omega)
    have hTen : c.toNat = 10 := by
      rw [← hNat, hByte]
      rfl
    omega

/-! ## Decimal digits -/

theorem head?_toDigits {n : Nat} (hn : n ≠ 0) : (Nat.toDigits 10 n).head? ≠ some '0' := by
  induction n using Nat.strongRecOn with
  | _ n ih =>
    rcases Nat.lt_or_ge n 10 with hLt | hGe
    · rw [Nat.toDigits_of_lt_base hLt]
      simpa using hn
    · rw [Nat.toDigits_of_base_le (by decide) hGe,
        List.head?_append_of_ne_nil _ Nat.toDigits_ne_nil]
      exact ih (n / 10) (by omega) (by omega)

theorem isDigit_toDigits {n : Nat} {c : Char} (hc : c ∈ Nat.toDigits 10 n) : c.isDigit = true :=
  Nat.isDigit_of_mem_toDigits (by decide) (by decide) hc

theorem whole_toDigits (n : Nat) : Whole (Nat.toDigits 10 n) := by
  refine ⟨fun c hc => isDigit_toDigits hc, Nat.toDigits_ne_nil, ?_⟩
  intro hHead
  rcases Nat.eq_zero_or_pos n with rfl | hPos
  · rfl
  · exact absurd hHead (head?_toDigits (Nat.ne_of_gt hPos))

theorem spellsNumber_nat (n : Nat) : SpellsNumber (Nat.toDigits 10 n) n := by
  have hText : numberChars (Nat.toDigits 10 n) [] none = Nat.toDigits 10 n := by simp [numberChars]
  rw [← hText]
  refine spellsNumber (whole_toDigits n) (by simp) (by simp) ?_
  simp [Numeral.magnitude, numeralOf, Numeral.power, digitsValue_digits]

theorem toString_int (n : Int) :
    toString n = String.ofList (signed (decide (n < 0)) (Nat.toDigits 10 n.natAbs)) := by
  cases n with
  | ofNat n =>
    show n.repr = _
    have hSign : ¬ (Int.ofNat n < 0) := Int.not_lt.mpr (Int.natCast_nonneg n)
    rw [Nat.repr_eq_ofList_toDigits, decide_eq_false hSign]
    rfl
  | negSucc n =>
    show "-" ++ (n + 1).repr = _
    rw [Nat.repr_eq_ofList_toDigits, signed, String.ofList_append]
    simp [Int.negSucc_lt_zero]

theorem spells_int (n : Int) : Spells (utf8 (toString n)) (.number (n < 0) n.natAbs) := by
  rw [toString_int]
  exact spells_number (spellsNumber_nat n.natAbs) _

theorem spells_nat (n : Nat) : Spells (utf8 (toString n)) (.number false n) := by
  rw [Nat.toString_eq_ofList_toDigits]
  exact spells_number (spellsNumber_nat n) false

end Logline.Json
