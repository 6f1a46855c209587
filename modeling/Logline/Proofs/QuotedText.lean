import Logline.Json.Raw
import Logline.Proofs.Appending

/-! # Quoted texts

Escaping works byte by byte, so what a reader makes of an escaped text is put together from what it
makes of the bytes: it stops at the closing quote and gives the bytes back.
-/

namespace Logline

open Buffer (Escape escaped escaped_cons quotedText hexByte)
open Json (CodeUnit readString unitBytes)

/-- Inside of a string, `text` reads as the units, which stand for `bytes`. -/
structure ReadsInside (text : List UInt8) (units : List CodeUnit) (bytes : List UInt8) : Prop where
  read : ∀ r more rest, readString r = some (more, rest) →
    readString (text ++ r) = some (units ++ more, rest)
  stands : ∀ more tail, unitBytes more = some tail →
    unitBytes (units ++ more) = some (bytes ++ tail)

namespace ReadsInside

theorem nil : ReadsInside [] [] [] := ⟨fun _ _ _ h => h, fun _ _ h => h⟩

theorem append {s t : List UInt8} {us vs : List CodeUnit} {bs cs : List UInt8}
    (hs : ReadsInside s us bs) (ht : ReadsInside t vs cs) :
    ReadsInside (s ++ t) (us ++ vs) (bs ++ cs) := by
  constructor
  · intro r more rest h
    rw [List.append_assoc, List.append_assoc]
    exact hs.read _ _ _ (ht.read _ _ _ h)
  · intro more tail h
    rw [List.append_assoc, List.append_assoc]
    exact hs.stands _ _ (ht.stands _ _ h)

theorem stands_byte (b : UInt8) (more : List CodeUnit) (tail : List UInt8)
    (h : unitBytes more = some tail) : unitBytes ([.byte b] ++ more) = some ([b] ++ tail) := by
  simp [unitBytes, h]

theorem plain {b : UInt8} (hLow : ¬ b < 0x20) (hQuote : b ≠ 0x22) (hSlash : b ≠ 0x5c) :
    ReadsInside [b] [.byte b] [b] := by
  refine ⟨?_, stands_byte b⟩
  intro r more rest h
  rw [List.singleton_append, readString]
  · simp [hLow, hSlash, h]
  · exact fun hb => absurd hb hQuote
  · exact fun _ _ _ _ _ hb _ => absurd hb hSlash
  · exact fun _ _ hb _ => absurd hb hSlash

theorem letter {e b : UInt8} (he : Json.letterEscape? e = some b) :
    ReadsInside [0x5c, e] [.byte b] [b] := by
  refine ⟨?_, stands_byte b⟩
  intro r more rest h
  show readString (0x5c :: e :: r) = _
  rw [readString]
  · simp [he, h]
  · rintro _ _ _ _ _ rfl
    cases he

theorem hexDigit?_hexByte {n : Nat} (hn : n < 16) : Json.hexDigit? (hexByte n) = some n := by
  have hAll : ∀ k : Fin 16, Json.hexDigit? (hexByte k) = some k.val := by decide
  exact hAll ⟨n, hn⟩

/-- A byte below 128 as the number of its character. -/
theorem numbered {b : UInt8} (hb : b < 0x80) :
    ReadsInside [0x5c, 0x75, 0x30, 0x30, hexByte (b.toNat / 16), hexByte (b.toNat % 16)]
      [.escape b.toNat] [b] := by
  have hNat : b.toNat < 128 := UInt8.lt_iff_toNat_lt.mp hb
  constructor
  · intro r more rest h
    have hZero : Json.hexDigit? 0x30 = some 0 := rfl
    have hHigh := hexDigit?_hexByte (n := b.toNat / 16) (by omega)
    have hLow := hexDigit?_hexByte (n := b.toNat % 16) (by omega)
    have hSum : b.toNat / 16 * 16 + b.toNat % 16 = b.toNat := by omega
    simp [readString, hZero, hHigh, hLow, h, hSum]
  · intro more tail h
    have hPoint : Json.pointBytes b.toNat = [b] := by
      rw [Json.pointBytes, Text.utf8EncodeChar_ascii] <;>
        rw [Text.toNat_charOfNat hNat]
      · rw [UInt8.ofNat_toNat]
      · exact hNat
    have hSurrogate : ¬ (0xd800 ≤ b.toNat ∧ b.toNat < 0xdc00) := by omega
    have hLow : ¬ (0xdc00 ≤ b.toNat ∧ b.toNat < 0xe000) := by omega
    show unitBytes (.escape b.toNat :: more) = some (b :: tail)
    unfold unitBytes
    rw [if_neg hSurrogate, if_neg hLow, h, hPoint]
    rfl

theorem ofEscape {b : UInt8} {piece : List UInt8} (h : Escape b piece) :
    ∃ unit, ReadsInside piece [unit] [b] := by
  cases h with
  | quote => exact ⟨_, letter (e := 0x22) rfl⟩
  | slash => exact ⟨_, letter (e := 0x5c) rfl⟩
  | lineFeed => exact ⟨_, letter (e := 0x6e) rfl⟩
  | carriageReturn => exact ⟨_, letter (e := 0x72) rfl⟩
  | tab => exact ⟨_, letter (e := 0x74) rfl⟩
  | numbered hControl =>
    refine ⟨_, numbered ?_⟩
    rcases hControl with hLow | rfl
    · exact UInt8.lt_trans hLow (by decide)
    · decide
  | plain hBlank _ hQuote hSlash => exact ⟨_, plain (UInt8.not_lt.mpr hBlank) hQuote hSlash⟩

theorem ofEscaped (bytes : List UInt8) : ∃ units, ReadsInside (escaped bytes) units bytes := by
  induction bytes with
  | nil => exact ⟨[], nil⟩
  | cons b r ih =>
    obtain ⟨unit, hByte⟩ := ofEscape (Buffer.escape_getD b)
    obtain ⟨units, hRest⟩ := ih
    exact ⟨unit :: units, hByte.append hRest⟩

theorem close {text bytes : List UInt8} {units : List CodeUnit} (h : ReadsInside text units bytes) :
    unitBytes units = some bytes ∧
      ∀ rest, readString (text ++ 0x22 :: rest) = some (units, rest) := by
  constructor
  · simpa using h.stands [] [] rfl
  · intro rest
    simpa using h.read (0x22 :: rest) [] rest (by rw [readString])

end ReadsInside

namespace Buffer

theorem hexByte_bounds {n : Nat} (hn : n < 16) :
    0x20 ≤ hexByte n ∧ hexByte n < 0x7f ∧ hexByte n ≠ 0x22 ∧ hexByte n ≠ 0x5c := by
  have hAll : ∀ k : Fin 16, 0x20 ≤ hexByte k ∧ hexByte k < 0x7f ∧ hexByte k ≠ 0x22 ∧
    hexByte k ≠ 0x5c := by decide
  exact hAll ⟨n, hn⟩

namespace Escape

variable {b c : UInt8} {piece : List UInt8}

theorem eq_self (h : Escape b piece) (hBlank : 0x20 ≤ b) (hDelete : b ≠ 0x7f) (hQuote : b ≠ 0x22)
    (hSlash : b ≠ 0x5c) : piece = [b] := by
  cases h with
  | quote => exact absurd rfl hQuote
  | slash => exact absurd rfl hSlash
  | lineFeed => exact absurd hBlank (by decide)
  | carriageReturn => exact absurd hBlank (by decide)
  | tab => exact absurd hBlank (by decide)
  | numbered hControl =>
    rcases hControl with hLow | hEnd
    · exact absurd hLow (UInt8.not_lt.mpr hBlank)
    · exact absurd hEnd hDelete
  | plain => rfl

/-- An escape is printable ASCII, and a byte that stands for itself is no control byte. -/
theorem printable_or_eq (h : Escape b piece) :
    (∀ c ∈ piece, 0x20 ≤ c ∧ c < 0x7f) ∨ piece = [b] ∧ 0x20 ≤ b ∧ b ≠ 0x7f := by
  have hLetter {e : UInt8} (he : 0x20 ≤ e ∧ e < 0x7f) : ∀ c ∈ [0x5c, e], 0x20 ≤ c ∧ c < 0x7f := by
    intro c hc
    rcases List.mem_pair.mp hc with rfl | rfl
    · decide
    · exact he
  cases h with
  | quote => exact .inl (hLetter (by decide))
  | slash => exact .inl (hLetter (by decide))
  | lineFeed => exact .inl (hLetter (by decide))
  | carriageReturn => exact .inl (hLetter (by decide))
  | tab => exact .inl (hLetter (by decide))
  | numbered =>
    have hNat := b.toNat_lt
    have hHigh := hexByte_bounds (n := b.toNat / 16) (by omega)
    have hLow := hexByte_bounds (n := b.toNat % 16) (by omega)
    refine .inl fun c hc => ?_
    rcases List.mem_append.mp hc with hc | hc
    · have hStart : (Text.utf8 "\\u00").all fun c => 0x20 ≤ c ∧ c < 0x7f := by decide
      exact of_decide_eq_true (List.all_eq_true.mp hStart c hc)
    · rcases List.mem_pair.mp hc with rfl | rfl
      · exact ⟨hHigh.1, hHigh.2.1⟩
      · exact ⟨hLow.1, hLow.2.1⟩
  | plain hBlank hDelete => exact .inr ⟨rfl, hBlank, hDelete⟩

theorem bounds (h : Escape b piece) (hc : c ∈ piece) : 0x20 ≤ c ∧ c ≠ 0x7f := by
  obtain hPrintable | ⟨rfl, hBounds⟩ := h.printable_or_eq
  · obtain ⟨hLow, hHigh⟩ := hPrintable c hc
    exact ⟨hLow, UInt8.ne_of_lt hHigh⟩
  · obtain rfl := List.mem_singleton.mp hc
    exact hBounds

theorem ascii (h : Escape b piece) (hb : b < 0x80) (hc : c ∈ piece) : c < 0x80 := by
  obtain hPrintable | ⟨rfl, -⟩ := h.printable_or_eq
  · exact UInt8.lt_trans (hPrintable c hc).2 (by decide)
  · obtain rfl := List.mem_singleton.mp hc
    exact hb

end Escape

theorem bounds_of_mem_escaped {bytes : List UInt8} {c : UInt8} (hc : c ∈ escaped bytes) :
    0x20 ≤ c ∧ c ≠ 0x7f := by
  obtain ⟨b, -, hc⟩ := List.mem_flatMap.mp hc
  exact (escape_getD b).bounds hc

/-- A character outside of the first 128 has no escapes in its bytes. -/
theorem escaped_of_le {bytes : List UInt8} (h : ∀ b ∈ bytes, 0x80 ≤ b) : escaped bytes = bytes := by
  induction bytes with
  | nil => rfl
  | cons b r ih =>
    have hb : 0x80 ≤ b := h b List.mem_cons_self
    have hNe : ∀ k : UInt8, k < 0x80 → b ≠ k := by
      rintro k hk rfl
      exact absurd (UInt8.lt_of_lt_of_le hk hb) (UInt8.lt_irrefl _)
    have hSelf := (escape_getD b).eq_self (UInt8.le_trans (by decide) hb) (hNe _ (by decide))
      (hNe _ (by decide)) (hNe _ (by decide))
    rw [escaped_cons, hSelf, ih fun d hd => h d (List.mem_cons_of_mem _ hd)]
    rfl

theorem feed_notMem_quotedText (bytes : List UInt8) : 0x0a ∉ quotedText bytes := by
  intro hMem
  simp only [quotedText, List.mem_cons, List.mem_append, List.not_mem_nil, or_false] at hMem
  rcases hMem with h | h | h
  · cases h
  · exact absurd (bounds_of_mem_escaped h).1 (by decide)
  · cases h

end Buffer

namespace Text

def IsText (bytes : List UInt8) : Prop := ∃ s, bytes = utf8 s

theorem isText_utf8 (s : String) : IsText (utf8 s) := ⟨s, rfl⟩

theorem IsText.append {xs ys : List UInt8} (hx : IsText xs) (hy : IsText ys) :
    IsText (xs ++ ys) := by
  obtain ⟨s, rfl⟩ := hx
  obtain ⟨t, rfl⟩ := hy
  exact ⟨s ++ t, (utf8_append s t).symm⟩

theorem isText_flatMap {α : Type} {f : α → List UInt8} {xs : List α} (h : ∀ x ∈ xs, IsText (f x)) :
    IsText (xs.flatMap f) := by
  induction xs with
  | nil => exact ⟨"", rfl⟩
  | cons x r ih =>
    exact (h x List.mem_cons_self).append (ih fun y hy => h y (List.mem_cons_of_mem _ hy))

theorem isText_ascii {bytes : List UInt8} (h : ∀ b ∈ bytes, b < 0x80) : IsText bytes := by
  induction bytes with
  | nil => exact ⟨"", rfl⟩
  | cons b r ih =>
    have hNat : b.toNat < 128 := UInt8.lt_iff_toNat_lt.mp (h b List.mem_cons_self)
    have hByte : IsText [b] := by
      refine ⟨String.ofList [Char.ofNat b.toNat], ?_⟩
      rw [utf8_ofList, List.flatMap_singleton, utf8EncodeChar_ascii, toNat_charOfNat hNat,
        UInt8.ofNat_toNat]
      rw [toNat_charOfNat hNat]
      exact hNat
    exact hByte.append (ih fun d hd => h d (List.mem_cons_of_mem _ hd))

theorem isText_joined {separator : UInt8} (hSeparator : separator < 0x80)
    {texts : List (List UInt8)} (h : ∀ text ∈ texts, IsText text) (first : Bool) :
    IsText (joined separator first texts) := by
  induction texts generalizing first with
  | nil => exact ⟨"", rfl⟩
  | cons text r ih =>
    have hRest := ih (fun t ht => h t (List.mem_cons_of_mem _ ht)) false
    have hText := h text List.mem_cons_self
    cases first with
    | true => exact hText.append hRest
    | false =>
      have hOne : IsText [separator] := isText_ascii fun b hb => by
        rwa [List.mem_singleton.mp hb]
      exact (hOne.append hText).append hRest

theorem isText_escaped (s : String) : IsText (escaped (utf8 s)) := by
  rw [utf8_eq_flatMap, escaped, List.flatMap_assoc]
  refine isText_flatMap fun c _ => ?_
  by_cases hc : c.toNat < 128
  · refine isText_ascii fun b hb => ?_
    rw [utf8EncodeChar_ascii hc, List.flatMap_singleton] at hb
    refine (Buffer.escape_getD _).ascii ?_ hb
    rw [UInt8.lt_iff_toNat_lt, toNat_ofNat (by omega)]
    exact hc
  · have hBytes : ∀ b ∈ String.utf8EncodeChar c, 0x80 ≤ b := fun b hb =>
      le_of_mem_utf8EncodeChar (Nat.le_of_not_lt hc) hb
    refine ⟨String.ofList [c], ?_⟩
    rw [utf8_ofList, List.flatMap_singleton]
    exact Buffer.escaped_of_le hBytes

theorem isText_quotedText (s : String) : IsText (quotedText (utf8 s)) :=
  (isText_utf8 "\"").append ((isText_escaped s).append (isText_utf8 "\""))

end Text

end Logline
