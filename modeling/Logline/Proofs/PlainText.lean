import Logline.Proofs.FloatText

/-! # Texts without escapes

Between quotes some texts are written as they are. They hold no character that would need an
escape, so they stand for themselves. The texts of numbers need no quotes either.
-/

namespace Logline

open Text (utf8)
open Buffer (escaped quotedText)

namespace Text

/-- A character that stands for itself between quotes: no control character, no quote and no
backslash. -/
def IsPlainChar (c : Char) : Prop :=
  0x20 ≤ c.toNat ∧ c.toNat ≠ 0x22 ∧ c.toNat ≠ 0x5c ∧ c.toNat ≠ 0x7f

instance (c : Char) : Decidable (IsPlainChar c) := inferInstanceAs (Decidable (_ ∧ _ ∧ _ ∧ _))

/-- A character that stands for itself without quotes. -/
def IsBareChar (c : Char) : Prop :=
  IsPlainChar c ∧ c.toNat < 128 ∧ c.toNat ≠ 0x20 ∧ c.toNat ≠ 0x3d

instance (c : Char) : Decidable (IsBareChar c) := inferInstanceAs (Decidable (_ ∧ _ ∧ _ ∧ _))

def Every (P : Char → Prop) (s : String) : Prop := ∀ c ∈ s.toList, P c

abbrev Plain (s : String) : Prop := Every IsPlainChar s

abbrev Bare (s : String) : Prop := Every IsBareChar s

variable {P : Char → Prop}

theorem every_ofList {cs : List Char} : Every P (String.ofList cs) ↔ ∀ c ∈ cs, P c := by
  rw [Every, String.toList_ofList]

theorem every_of_all [DecidablePred P] {cs : List Char}
    (h : cs.all (fun c => decide (P c)) = true) : Every P (String.ofList cs) :=
  every_ofList.mpr fun c hc => of_decide_eq_true (List.all_eq_true.mp h c hc)

theorem Every.append {s t : String} (hs : Every P s) (ht : Every P t) : Every P (s ++ t) := by
  intro c hc
  rw [String.toList_append] at hc
  rcases List.mem_append.mp hc with hc | hc
  · exact hs c hc
  · exact ht c hc

theorem Every.foldl {pieces : List String} (h : ∀ piece ∈ pieces, Every P piece) {s : String}
    (hs : Every P s) : Every P (pieces.foldl (· ++ ·) s) := by
  induction pieces generalizing s with
  | nil => exact hs
  | cons piece r ih =>
    exact ih (fun p hp => h p (List.mem_cons_of_mem _ hp)) (hs.append (h piece List.mem_cons_self))

theorem Bare.plain {s : String} (h : Bare s) : Plain s := fun c hc => (h c hc).1

theorem escaped_of_plainChar {c : Char} (hc : IsPlainChar c) :
    escaped (String.utf8EncodeChar c) = String.utf8EncodeChar c := by
  by_cases hAscii : c.toNat < 128
  · obtain ⟨hLow, hQuote, hSlash, hDelete⟩ := hc
    have hNat : (UInt8.ofNat c.toNat).toNat = c.toNat := toNat_ofNat (by omega)
    have hNe : ∀ b : UInt8, c.toNat ≠ b.toNat → UInt8.ofNat c.toNat ≠ b := by
      rintro b hb rfl
      exact hb hNat.symm
    have hBlank : 0x20 ≤ UInt8.ofNat c.toNat := by
      rw [UInt8.le_iff_toNat_le, hNat]
      exact hLow
    have hSelf := (Buffer.escape_getD _).eq_self hBlank (hNe 0x7f hDelete) (hNe 0x22 hQuote)
      (hNe 0x5c hSlash)
    rw [utf8EncodeChar_ascii hAscii, Buffer.escaped_cons, hSelf]
    rfl
  · exact Buffer.escaped_of_le fun b hb => le_of_mem_utf8EncodeChar (Nat.le_of_not_lt hAscii) hb

theorem escaped_of_plain {s : String} (h : Plain s) : escaped (utf8 s) = utf8 s := by
  rw [utf8_eq_flatMap, escaped, List.flatMap_assoc]
  refine List.flatMap_congr ?_
  intro c hc
  exact escaped_of_plainChar (h c hc)

theorem bareChar_of_isDigit {c : Char} (hc : c.isDigit = true) : IsBareChar c := by
  have hRange := Json.isDigit_bounds hc
  exact ⟨⟨by omega, by omega, by omega, by omega⟩, by omega, by omega, by omega⟩

theorem bareChar_of_number {c : Char} (hc : Json.IsNumberChar c) : IsBareChar c := by
  rcases hc with hDigit | hSign
  · exact bareChar_of_isDigit hDigit
  · simp only [List.mem_cons, List.not_mem_nil, or_false] at hSign
    rcases hSign with rfl | rfl | rfl | rfl <;> decide

theorem bare_toDigits (n : Nat) : ∀ c ∈ Nat.toDigits 10 n, IsBareChar c := fun _ hc =>
  bareChar_of_isDigit (Json.isDigit_toDigits hc)

theorem bare_nat (n : Nat) : Bare (toString n) := by
  rw [Nat.toString_eq_ofList_toDigits]
  exact every_ofList.mpr (bare_toDigits n)

theorem bare_int (n : Int) : Bare (toString n) := by
  rw [Json.toString_int]
  refine every_ofList.mpr fun c hc => ?_
  refine bareChar_of_number (Json.chars_signed (fun d hd => ?_) c hc)
  exact .inl (Json.isDigit_toDigits hd)

theorem bare_zeroPadded (width n : Nat) : Bare (zeroPadded width n) := by
  refine every_ofList.mpr fun c hc => ?_
  rcases List.mem_append.mp hc with hc | hc
  · rw [List.eq_of_mem_replicate hc]
    decide
  · exact bare_toDigits n c hc

end Text

open Text (Plain Bare every_ofList every_of_all)

/-! ## Complex numbers and durations -/

theorem FloatFormat.Known.bare_text {f : FloatFormat} (hf : f.Known) {l : Decimal.Layout}
    (hl : l.Standard) (negative : Bool) (bits : Nat) :
    Bare (l.text f negative (f.decode bits)) := by
  cases hMagnitude : f.decode bits with
  | nan =>
    rw [Decimal.Layout.text, hl.nan]
    exact every_of_all (by decide)
  | infinite =>
    rw [Decimal.Layout.text, hl.infinity]
    cases negative <;> exact every_of_all (by decide)
  | finite m q =>
    refine every_ofList.mpr fun c hc => Text.bareChar_of_number ?_
    exact Json.chars_signed (hf.spellsNumber l (.inl hl.plus) hMagnitude).chars c hc

theorem bare_double (x : Binary64) : Bare x.text :=
  FloatFormat.Known.double.bare_text Decimal.Layout.standard_double _ _

theorem bare_single (x : Binary32) : Bare x.text :=
  FloatFormat.Known.single.bare_text Decimal.Layout.standard_single _ _

theorem bare_complex (unsigned : Bool) {re im : String} (hRe : Bare re) (hIm : Bare im) :
    Bare (complexText unsigned re im) := by
  have hOpen : Bare "(" := every_of_all (by decide)
  have hSign : Bare (if unsigned then "+" else "") := by
    cases unsigned <;> exact every_of_all (by decide)
  have hClose : Bare "i)" := every_of_all (by decide)
  exact (((hOpen.append hRe).append hSign).append hIm).append hClose

theorem bare_fractionDigits (width part : Nat) : Bare (fractionDigits width part) := by
  refine every_ofList.mpr fun c hc => Text.bare_zeroPadded width part c ?_
  exact List.mem_reverse.mp ((List.dropWhile_sublist _).subset (List.mem_reverse.mp hc))

theorem plain_unit (d : Duration) : Plain d.parts.2.2.2 := by
  unfold Duration.parts
  split_ifs <;> exact every_of_all (by decide)

theorem Text.utf8_foldl (pieces : List String) (s : String) :
    utf8 (pieces.foldl (· ++ ·) s) = utf8 s ++ pieces.flatMap utf8 := by
  induction pieces generalizing s with
  | nil => simp
  | cons piece r ih => simp [ih, utf8_append]

theorem plain_duration (d : Duration) : Plain d.text := by
  refine Text.Every.foldl ?_ (every_of_all (by decide))
  have hUnit := plain_unit d
  unfold Duration.pieces
  generalize d.parts = parts at hUnit ⊢
  obtain ⟨whole, part, width, unit⟩ := parts
  have hWhole := (Text.bare_nat whole).plain
  have hPoint : Plain "." := every_of_all (by decide)
  have hPart := (bare_fractionDigits width part).plain
  dsimp only at hUnit ⊢
  split
  · rw [List.forall_mem_cons, List.forall_mem_singleton]
    exact ⟨hWhole, hUnit⟩
  · rw [List.forall_mem_cons, List.forall_mem_cons, List.forall_mem_cons,
      List.forall_mem_singleton]
    exact ⟨hWhole, hPoint, hPart, hUnit⟩

theorem utf8_duration (d : Duration) : d.pieces.flatMap utf8 = utf8 d.text := by
  rw [Duration.text, Text.utf8_foldl]
  rfl

end Logline
