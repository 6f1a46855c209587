import Logline.Proofs.Appending
import Logline.Proofs.NumberSizes
import Logline.Proofs.PlainText

/-! # Texts of complex numbers

Inside of a part a sign stands behind an `e` only, where it belongs to an exponent. The last sign
that stands elsewhere is the one between the parts, so a text can be cut there, and each part is
read back from its own text.
-/

namespace Logline

open Text (utf8 Bare)
open Decimal (Layout)
open Json (Power SpellsNumber numberChars)

def IsSign (c : Char) : Prop := c = '+' ∨ c = '-'

instance : DecidablePred IsSign := fun _ => inferInstanceAs (Decidable (_ ∨ _))

theorem notSign_of_isDigit {c : Char} (hc : c.isDigit = true) : ¬ IsSign c := by
  rintro (rfl | rfl)
  · exact absurd hc (by decide)
  · exact absurd hc (by decide)

/-! ## Cutting a text -/

/-- The text before its last sign that does not stand behind an `e`, and the text from there on. -/
def cut (previous : Char) : List Char → Option (List Char × List Char)
  | [] => none
  | c :: r =>
    match cut c r with
    | some (before, after) => some (c :: before, after)
    | none => if IsSign c ∧ previous ≠ 'e' then some ([], c :: r) else none

variable {previous sign : Char} {cs rest : List Char}

theorem cut_cons_eq_none {c : Char} :
    cut previous (c :: rest) = none ↔ cut c rest = none ∧ ¬ (IsSign c ∧ previous ≠ 'e') := by
  rw [cut]
  cases cut c rest with
  | none =>
    simp only [true_and]
    split <;> simp_all
  | some parts => simp

/-- A text is cut at a sign if none behind it can be the one. -/
theorem cut_append (hSign : IsSign sign) (hRest : cut sign rest = none)
    (hLast : (previous :: cs).getLast? ≠ some 'e') :
    cut previous (cs ++ sign :: rest) = some (cs, sign :: rest) := by
  induction cs generalizing previous with
  | nil =>
    have hFree : previous ≠ 'e' := fun hEq => hLast (congrArg some hEq)
    rw [List.nil_append, cut, hRest]
    exact if_pos ⟨hSign, hFree⟩
  | cons c r ih =>
    rw [List.getLast?_cons_cons] at hLast
    rw [List.cons_append, cut, ih hLast]

theorem cut_unsigned_append (hChars : ∀ c ∈ cs, ¬ IsSign c)
    (hRest : ∀ previous, cut previous rest = none) : cut previous (cs ++ rest) = none := by
  induction cs generalizing previous with
  | nil => exact hRest previous
  | cons c r ih =>
    refine cut_cons_eq_none.mpr ⟨ih fun d hd => hChars d (List.mem_cons_of_mem _ hd), ?_⟩
    exact fun hCut => hChars c List.mem_cons_self hCut.1

theorem cut_unsigned (hChars : ∀ c ∈ cs, ¬ IsSign c) : cut previous cs = none := by
  rw [← List.append_nil cs]
  exact cut_unsigned_append hChars fun _ => rfl

theorem cut_append_unsigned (h : cut previous cs = none) (hRest : ∀ c ∈ rest, ¬ IsSign c) :
    cut previous (cs ++ rest) = none := by
  induction cs generalizing previous with
  | nil => exact cut_unsigned hRest
  | cons c r ih =>
    obtain ⟨hInside, hFirst⟩ := cut_cons_eq_none.mp h
    exact cut_cons_eq_none.mpr ⟨ih hInside, hFirst⟩

/-! ## Texts of the parts -/

theorem cut_power {p : Power} (hp : p.Good) : cut previous p.text = none := by
  obtain ⟨hSign, -, hDigits⟩ := hp
  have hPlain {last : Char} : cut last p.digits = none :=
    cut_unsigned fun c hc => notSign_of_isDigit (hDigits c hc)
  refine cut_cons_eq_none.mpr ⟨?_, fun h => absurd h.1 (by decide)⟩
  rcases hSign with ⟨hSign, -⟩ | ⟨hSign, -⟩ | ⟨hSign, -⟩ <;> rw [hSign]
  · exact hPlain
  · exact cut_cons_eq_none.mpr ⟨hPlain, fun h => h.2 rfl⟩
  · exact cut_cons_eq_none.mpr ⟨hPlain, fun h => h.2 rfl⟩

section

variable {magnitude : ℚ} (h : SpellsNumber cs magnitude)
include h

theorem Json.SpellsNumber.cut_eq_none : cut previous cs = none := by
  obtain ⟨whole, fraction, power, rfl, hWhole, hFraction, hPower⟩ := h.parts
  refine cut_unsigned_append (fun c hc => ?_) fun last => ?_
  · rcases List.mem_append.mp hc with hc | hc
    · exact notSign_of_isDigit (hWhole.digits c hc)
    · split at hc
      · cases hc
      · rcases List.mem_cons.mp hc with rfl | hc
        · decide
        · exact notSign_of_isDigit (hFraction c hc)
  · cases power with
    | none => rfl
    | some p => exact cut_power (hPower p rfl)

theorem Json.SpellsNumber.exists_cons : ∃ c r, cs = c :: r ∧ c.isDigit = true := by
  obtain ⟨whole, fraction, power, rfl, hWhole, -⟩ := h.parts
  obtain ⟨c, r, rfl⟩ := List.exists_cons_of_ne_nil hWhole.nonempty
  exact ⟨c, _, rfl, hWhole.digits c List.mem_cons_self⟩

/-- A number ends with a digit. -/
theorem Json.SpellsNumber.exists_append :
    ∃ front c, cs = front ++ [c] ∧ c.isDigit = true := by
  obtain ⟨whole, fraction, power, rfl, hWhole, hFraction, hPower⟩ := h.parts
  have hEnd {front digits : List Char} (hNonempty : digits ≠ [])
      (hDigits : ∀ c ∈ digits, c.isDigit = true) :
      ∃ start c, front ++ digits = start ++ [c] ∧ c.isDigit = true :=
    ⟨front ++ digits.dropLast, digits.getLast hNonempty,
      by rw [List.append_assoc, List.dropLast_concat_getLast],
      hDigits _ (List.getLast_mem hNonempty)⟩
  cases power with
  | some p =>
    obtain ⟨-, hNonempty, hDigits⟩ := hPower p rfl
    have hText : numberChars whole fraction (some p) =
        (whole ++ (if fraction = [] then [] else '.' :: fraction) ++ 'e' :: p.sign) ++
          p.digits := by
      simp [numberChars, Power.text]
    rw [hText]
    exact hEnd hNonempty hDigits
  | none =>
    cases fraction with
    | nil =>
      have hText : numberChars whole [] none = [] ++ whole := by simp [numberChars]
      rw [hText]
      exact hEnd hWhole.nonempty hWhole.digits
    | cons d r =>
      have hText : numberChars whole (d :: r) none = (whole ++ ['.']) ++ d :: r := by
        simp [numberChars]
      rw [hText]
      exact hEnd (List.cons_ne_nil d r) hFraction

end

/-- Texts of a part; with `true` for those that have no sign of their own. -/
inductive PartChars : Bool → List Char → Prop
  | nan : PartChars true ['N', 'a', 'N']
  | infinite {sign : Char} : IsSign sign → PartChars false [sign, 'I', 'n', 'f']
  | below {cs : List Char} {magnitude : ℚ} : SpellsNumber cs magnitude → PartChars false ('-' :: cs)
  | above {cs : List Char} {magnitude : ℚ} : SpellsNumber cs magnitude → PartChars true cs

def Magnitude.unsigned (negative : Bool) : Magnitude → Bool
  | .nan => true
  | .infinite => false
  | .finite .. => !negative

theorem FloatFormat.Known.partChars {f : FloatFormat} (hf : f.Known) {l : Layout} (hl : l.Standard)
    (bits : Nat) :
    PartChars ((f.decode bits).unsigned (f.isNegative bits)) (l.textOf f bits).toList := by
  rw [Layout.textOf]
  cases hMagnitude : f.decode bits with
  | nan =>
    rw [Layout.text, hl.nan]
    exact .nan
  | infinite =>
    rw [Layout.text, hl.infinity]
    cases f.isNegative bits with
    | true => exact .infinite (.inr rfl)
    | false => exact .infinite (.inl rfl)
  | finite m q =>
    have hSpells := hf.spellsNumber l (.inl hl.plus) hMagnitude
    rw [Layout.text, String.toList_ofList]
    cases f.isNegative bits with
    | true => exact .below hSpells
    | false => exact .above hSpells

namespace PartChars

variable {unsigned : Bool}

theorem getLast?_ne (h : PartChars unsigned cs) : (previous :: cs).getLast? ≠ some 'e' := by
  have hNumber (front : List Char) {c : Char} (hc : c.isDigit = true) :
      (front ++ [c]).getLast? ≠ some 'e' := by
    rw [List.getLast?_concat]
    rintro ⟨⟩
    exact absurd hc (by decide)
  cases h with
  | nan => simp
  | infinite => simp
  | below hSpells =>
    obtain ⟨front, c, rfl, hc⟩ := hSpells.exists_append
    exact hNumber (previous :: '-' :: front) hc
  | above hSpells =>
    obtain ⟨front, c, rfl, hc⟩ := hSpells.exists_append
    exact hNumber (previous :: front) hc

end PartChars

/-- A part without the plus that was put before it: `+Inf` has its own. -/
def withoutPlus : List Char → List Char
  | '+' :: r => if r = ['I', 'n', 'f'] then '+' :: r else r
  | cs => cs

/-- An imaginary part as it stands between the parts and the end: one sign and a magnitude. -/
structure SignedPart (cs : List Char) (sign : Char) (magnitude : List Char) : Prop where
  isSign : IsSign sign
  head : ∀ c ∈ magnitude.head?, ¬ IsSign c
  own : cs = sign :: magnitude ∨ sign = '+' ∧ cs = magnitude

theorem PartChars.exists_signed {unsigned : Bool} (h : PartChars unsigned cs) :
    ∃ sign magnitude, (if unsigned then ['+'] else []) ++ cs = sign :: magnitude ∧
      SignedPart cs sign magnitude ∧ cut sign magnitude = none ∧
      withoutPlus (sign :: magnitude) = cs := by
  cases h with
  | nan =>
    refine ⟨'+', _, rfl, ⟨.inl rfl, by simp [IsSign], .inr ⟨rfl, rfl⟩⟩, ?_, rfl⟩
    exact cut_unsigned (by simp [IsSign])
  | @infinite sign hSign =>
    refine ⟨sign, _, rfl, ⟨hSign, by simp [IsSign], .inl rfl⟩, ?_, ?_⟩
    · exact cut_unsigned (by simp [IsSign])
    · rcases hSign with rfl | rfl <;> rfl
  | @below body _ hSpells =>
    obtain ⟨c, r, rfl, hc⟩ := hSpells.exists_cons
    refine ⟨'-', c :: r, rfl, ⟨.inr rfl, ?_, .inl rfl⟩, hSpells.cut_eq_none, rfl⟩
    rintro d ⟨⟩
    exact notSign_of_isDigit hc
  | above hSpells =>
    obtain ⟨c, r, rfl, hc⟩ := hSpells.exists_cons
    refine ⟨'+', c :: r, rfl, ⟨.inl rfl, ?_, .inr ⟨rfl, rfl⟩⟩, hSpells.cut_eq_none, ?_⟩
    · rintro d ⟨⟩
      exact notSign_of_isDigit hc
    · refine if_neg ?_
      rintro ⟨⟩
      exact absurd hc (by decide)

/-! ## Texts of two parts -/

/-- Both parts of a text, cut at its last sign that does not stand behind an `e`. -/
def takeApart? (text : String) : Option (String × String) :=
  match text.toList with
  | '(' :: r => (cut '(' r).map fun (re, im) =>
    (String.ofList re, String.ofList (withoutPlus (im.take (im.length - 2))))
  | _ => none

theorem takeApart?_eq_some {text : String} {cs im : List Char} (hText : text.toList = '(' :: cs)
    {re : List Char} (hCut : cut '(' cs = some (re, im)) :
    takeApart? text =
      some (String.ofList re, String.ofList (withoutPlus (im.take (im.length - 2)))) := by
  rw [takeApart?, hText]
  show (cut '(' cs).map _ = _
  rw [hCut]
  rfl

theorem toList_complexText (unsigned : Bool) (re im : String) :
    (complexText unsigned re im).toList =
      '(' :: (re.toList ++ (((if unsigned then ['+'] else []) ++ im.toList) ++ ['i', ')'])) := by
  cases unsigned <;> simp [complexText]

theorem takeApart?_complexText {first unsigned : Bool} {re im : String}
    (hRe : PartChars first re.toList) (hIm : PartChars unsigned im.toList) :
    takeApart? (complexText unsigned re im) = some (re, im) := by
  obtain ⟨sign, magnitude, hText, hPart, hCut, hBack⟩ := hIm.exists_signed
  have hInside : cut sign (magnitude ++ ['i', ')']) = none :=
    cut_append_unsigned hCut (by simp [IsSign])
  have hChars := toList_complexText unsigned re im
  rw [hText, List.cons_append] at hChars
  have hEnd : ((sign :: magnitude) ++ ['i', ')']).take (magnitude.length + 1) =
      sign :: magnitude := List.take_left' rfl
  rw [takeApart?_eq_some hChars (cut_append hPart.isSign hInside hRe.getLast?_ne), List.length_cons,
    List.length_append]
  show some (_, String.ofList (withoutPlus
    (List.take (magnitude.length + 1) ((sign :: magnitude) ++ ['i', ')'])))) = _
  rw [hEnd, hBack, String.ofList_toList, String.ofList_toList]

example : takeApart? "(1e-7-2.5e-9i)" = some ("1e-7", "-2.5e-9") := by decide

theorem length_complexText_le (unsigned : Bool) {re im : String} (hRe : Bare re) (hIm : Bare im)
    {n : Nat} (hLength : re.toList.length ≤ n) (hLength' : im.toList.length ≤ n) :
    (utf8 (complexText unsigned re im)).length ≤ 2 * n + 4 := by
  have hAscii (c : Char) (hc : c ∈ (complexText unsigned re im).toList) : c.toNat < 128 :=
    (bare_complex unsigned hRe hIm c hc).2.1
  have hPlus : (if unsigned then ['+'] else []).length ≤ 1 := by cases unsigned <;> simp
  rw [← String.ofList_toList (s := complexText unsigned re im), Text.utf8_ascii hAscii,
    Text.asciiBytes, List.length_map, toList_complexText]
  simp only [List.length_cons, List.length_append, List.length_nil]
  omega

/-- A text of two parts is written to every buffer with room for it: one sign and a magnitude
stand for the second part, and a cut gives both parts back. -/
structure WritesParts (write : Buffer → Buffer.Result) (text re im : String) : Prop where
  writes : Buffer.Writes 0 write (utf8 text)
  completes : ∃ d, write Buffer.new = .ok d ∧ d.toList = utf8 text
  form : ∃ sign magnitude, SignedPart im.toList sign magnitude ∧
    text = "(" ++ re ++ String.ofList (sign :: magnitude) ++ "i)"
  parts : takeApart? text = some (re, im)

theorem Buffer.Writes.writesParts {write : Buffer → Buffer.Result} {first unsigned : Bool}
    {re im : String} (hWrite : Buffer.Writes 0 write (utf8 (complexText unsigned re im)))
    (hRe : PartChars first re.toList) (hIm : PartChars unsigned im.toList)
    (hSize : (utf8 (complexText unsigned re im)).length ≤ Buffer.maxSize) :
    WritesParts write (complexText unsigned re im) re im := by
  refine ⟨hWrite, hWrite.completes hSize, ?_, takeApart?_complexText hRe hIm⟩
  obtain ⟨sign, magnitude, hText, hPart, -⟩ := hIm.exists_signed
  refine ⟨sign, magnitude, hPart, String.toList_inj.mp ?_⟩
  rw [toList_complexText, hText]
  simp

/-- The text of two parts that are given by their bits. -/
def Decimal.Layout.complexOf (l : Layout) (f : FloatFormat) (re im : Nat) : String :=
  complexText ((f.decode im).unsigned (f.isNegative im)) (l.textOf f re) (l.textOf f im)

namespace FloatFormat.Known

variable {f : FloatFormat} {l : Layout} {re im re' im' : Nat}

theorem writesParts (hf : f.Known) (hl : l.Standard) {write : Buffer → Buffer.Result}
    (hWrite : Buffer.Writes 0 write (utf8 (l.complexOf f re im))) :
    WritesParts write (l.complexOf f re im) (l.textOf f re) (l.textOf f im) := by
  refine hWrite.writesParts (hf.partChars hl re) (hf.partChars hl im) ?_
  have hSize := length_complexText_le ((f.decode im).unsigned (f.isNegative im))
    (hf.bare_text hl (f.isNegative re) re) (hf.bare_text hl (f.isNegative im) im)
    (hf.length_text hl _ re) (hf.length_text hl _ im)
  exact hSize.trans (by decide)

theorem complexOf_eq_iff (hf : f.Known) (hl : l.Standard) (hRe : f.Fits re) (hRe' : f.Fits re')
    (hIm : f.Fits im) (hIm' : f.Fits im') :
    l.complexOf f re im = l.complexOf f re' im' ↔ f.Alike re re' ∧ f.Alike im im' := by
  constructor
  · intro hText
    have hParts := takeApart?_complexText (hf.partChars hl re) (hf.partChars hl im)
    have hParts' := takeApart?_complexText (hf.partChars hl re') (hf.partChars hl im')
    change takeApart? (l.complexOf f re im) = _ at hParts
    rw [hText] at hParts
    obtain ⟨hTextRe, hTextIm⟩ := Prod.mk.inj (Option.some.inj (hParts.symm.trans hParts'))
    exact ⟨(hf.text_eq_iff hl hRe hRe').mp hTextRe, (hf.text_eq_iff hl hIm hIm').mp hTextIm⟩
  · rintro ⟨hAlike, hAlike'⟩
    have hTextRe := (hf.text_eq_iff hl hRe hRe').mpr hAlike
    have hTextIm := (hf.text_eq_iff hl hIm hIm').mpr hAlike'
    have hUnsigned : (f.decode im).unsigned (f.isNegative im) =
        (f.decode im').unsigned (f.isNegative im') := by
      rcases hAlike' with rfl | ⟨hNan, hNan'⟩
      · rfl
      · rw [hNan, hNan']
        rfl
    rw [Layout.complexOf, Layout.complexOf, hTextRe, hTextIm, hUnsigned]

end FloatFormat.Known

namespace Binary64

/-- The same number, or neither of both is one. -/
def Alike (x y : Binary64) : Prop := x = y ∨ x.isNaN = true ∧ y.isNaN = true

theorem alike_iff {x y : Binary64} :
    FloatFormat.double.Alike x.bits.toNat y.bits.toNat ↔ x.Alike y := by
  have hBits : x.bits.toNat = y.bits.toNat ↔ x = y :=
    ⟨fun h => congrArg mk (UInt64.toNat_inj.mp h), fun h => h ▸ rfl⟩
  rw [FloatFormat.Alike, Alike, hBits, isNaN, isNaN, beq_iff_eq, beq_iff_eq]
  rfl

theorem complexText_eq (re im : Binary64) :
    re.complexText im = Layout.double.complexOf .double re.bits.toNat im.bits.toNat := by
  have hUnsigned : ((!im.isNegative && im.isFinite) || im.isNaN) =
      im.magnitude.unsigned im.isNegative := by
    unfold isFinite isNaN
    cases im.magnitude <;> simp [Magnitude.unsigned]
  rw [complexText, hUnsigned]
  rfl

theorem writesParts (re im : Binary64) :
    WritesParts (·.writeComplex re im) (re.complexText im) re.text im.text := by
  have hWrite : Buffer.Writes 0 (·.writeComplex re im) _ := .writeComplex re im
  rw [complexText_eq] at hWrite ⊢
  exact FloatFormat.Known.double.writesParts Layout.standard_double hWrite

theorem complexText_eq_iff {re im re' im' : Binary64} :
    re.complexText im = re'.complexText im' ↔ re.Alike re' ∧ im.Alike im' := by
  have hIff := FloatFormat.Known.double.complexOf_eq_iff Layout.standard_double re.bits.toNat_lt
    re'.bits.toNat_lt im.bits.toNat_lt im'.bits.toNat_lt
  rwa [← complexText_eq, ← complexText_eq, alike_iff, alike_iff] at hIff

end Binary64

namespace Binary32

/-- The same number, or neither of both is one. -/
def Alike (x y : Binary32) : Prop := x = y ∨ x.isNaN = true ∧ y.isNaN = true

theorem alike_iff {x y : Binary32} :
    FloatFormat.single.Alike x.bits.toNat y.bits.toNat ↔ x.Alike y := by
  have hBits : x.bits.toNat = y.bits.toNat ↔ x = y :=
    ⟨fun h => congrArg mk (UInt32.toNat_inj.mp h), fun h => h ▸ rfl⟩
  rw [FloatFormat.Alike, Alike, hBits, isNaN, isNaN, beq_iff_eq, beq_iff_eq]
  rfl

theorem complexText_eq (re im : Binary32) :
    re.complexText im = Layout.single.complexOf .single re.bits.toNat im.bits.toNat := by
  have hUnsigned : ((!im.isNegative && im.isFinite) || im.isNaN) =
      im.magnitude.unsigned im.isNegative := by
    unfold isFinite isNaN
    cases im.magnitude <;> simp [Magnitude.unsigned]
  rw [complexText, hUnsigned]
  rfl

theorem writesParts (re im : Binary32) :
    WritesParts (·.writeComplex32 re im) (re.complexText im) re.text im.text := by
  have hWrite : Buffer.Writes 0 (·.writeComplex32 re im) _ := .writeComplex32 re im
  rw [complexText_eq] at hWrite ⊢
  exact FloatFormat.Known.single.writesParts Layout.standard_single hWrite

theorem complexText_eq_iff {re im re' im' : Binary32} :
    re.complexText im = re'.complexText im' ↔ re.Alike re' ∧ im.Alike im' := by
  have hIff := FloatFormat.Known.single.complexOf_eq_iff Layout.standard_single re.bits.toNat_lt
    re'.bits.toNat_lt im.bits.toNat_lt im'.bits.toNat_lt
  rwa [← complexText_eq, ← complexText_eq, alike_iff, alike_iff] at hIff

end Binary32

/-- Complex numbers of both formats are written without ambiguity: one sign stands between the
parts, where the text can be cut, and two numbers with one text differ in a NaN only. -/
theorem complex_unambiguous :
    (∀ re im : Binary64,
      WritesParts (·.writeComplex re im) (re.complexText im) re.text im.text) ∧
    (∀ re im : Binary32,
      WritesParts (·.writeComplex32 re im) (re.complexText im) re.text im.text) ∧
    (∀ re im re' im' : Binary64,
      re.complexText im = re'.complexText im' ↔ re.Alike re' ∧ im.Alike im') ∧
    ∀ re im re' im' : Binary32,
      re.complexText im = re'.complexText im' ↔ re.Alike re' ∧ im.Alike im' := by
  refine ⟨Binary64.writesParts, Binary32.writesParts, ?_, ?_⟩
  · exact fun _ _ _ _ => Binary64.complexText_eq_iff
  · exact fun _ _ _ _ => Binary32.complexText_eq_iff

end Logline
