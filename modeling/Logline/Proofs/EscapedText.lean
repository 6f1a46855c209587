import Logline.Proofs.FramedWrites
import Logline.Proofs.JsonContent

/-! # Escaped texts

Escaping copies runs of bytes and writes the escapes between them, and what comes out is the same as
if each byte was written alone. A reader takes the escapes back, so no two texts are escaped to the
same bytes.
-/

namespace Logline.Buffer

open Json (readString unitString?)
open Text (utf8 IsText)

/-- Bytes in which a quote stands behind a backslash only, and each backslash has a byte of its
own. -/
inductive Unquoted : List UInt8 → Prop
  | nil : Unquoted []
  | escape {b : UInt8} {r : List UInt8} : Unquoted r → Unquoted (0x5c :: b :: r)
  | plain {b : UInt8} {r : List UInt8} : b ≠ 0x22 → b ≠ 0x5c → Unquoted r → Unquoted (b :: r)

theorem exists_escapes (bytes : List UInt8) :
    ∃ pieces, List.Forall₂ Escape bytes pieces ∧ escaped bytes = pieces.flatten := by
  induction bytes with
  | nil => exact ⟨[], .nil, rfl⟩
  | cons b r ih =>
    obtain ⟨pieces, hPieces, hText⟩ := ih
    refine ⟨(escape? b).getD [b] :: pieces, .cons (escape_getD b) hPieces, ?_⟩
    rw [escaped_cons, hText, List.flatten_cons]

namespace Escape

variable {b : UInt8} {piece rest : List UInt8}

theorem unquoted (h : Escape b piece) (hRest : Unquoted rest) : Unquoted (piece ++ rest) := by
  cases h with
  | quote => exact .escape hRest
  | slash => exact .escape hRest
  | lineFeed => exact .escape hRest
  | carriageReturn => exact .escape hRest
  | tab => exact .escape hRest
  | numbered =>
    have hNat := b.toNat_lt
    have hHigh := hexByte_bounds (n := b.toNat / 16) (by omega)
    have hLow := hexByte_bounds (n := b.toNat % 16) (by omega)
    have hDigits := (Unquoted.plain hHigh.2.2.1 hHigh.2.2.2
      (.plain hLow.2.2.1 hLow.2.2.2 hRest))
    exact .escape (.plain (by decide) (by decide) (.plain (by decide) (by decide) hDigits))
  | plain _ _ hQuote hSlash => exact .plain hQuote hSlash hRest

end Escape

theorem unquoted_escaped (bytes : List UInt8) : Unquoted (escaped bytes) := by
  induction bytes with
  | nil => exact .nil
  | cons b r ih => exact (escape_getD b).unquoted ih

/-- A reader inside of a string takes the escapes back, up to the closing quote. -/
theorem readString_escaped (s : String) : ∃ units, unitString? units = some s ∧
    ∀ rest, readString (escaped (utf8 s) ++ 0x22 :: rest) = some (units, rest) := by
  obtain ⟨units, hInside⟩ := ReadsInside.ofEscaped (utf8 s)
  obtain ⟨hBytes, hRead⟩ := hInside.close
  refine ⟨units, ?_, hRead⟩
  rw [unitString?, hBytes, Option.bind_some, Text.strict?_utf8]

theorem escaped_injective {s t : String} (h : escaped (utf8 s) = escaped (utf8 t)) : s = t := by
  obtain ⟨units, hText, hRead⟩ := readString_escaped s
  obtain ⟨units', hText', hRead'⟩ := readString_escaped t
  have hSame := hRead []
  rw [h, hRead'] at hSame
  obtain ⟨rfl, -⟩ := Prod.mk.inj (Option.some.inj hSame)
  exact Option.some.inj (hText.symm.trans hText')

/-- The text of an escaped string is appended to every buffer with room for it. Without room, what
stood there stays. -/
theorem writeEscaped_decided (s : String) (b : Buffer) :
    (b.size + (escaped (utf8 s)).length ≤ maxSize →
      ∃ d, b.writeEscaped s = .ok d ∧ d.toList = b.toList ++ escaped (utf8 s)) ∧
    (maxSize < b.size + (escaped (utf8 s)).length →
      ∃ fault, b.writeEscaped s = .error fault ∧ fault.message = "buffer too large" ∧
        b.toList <+: fault.buffer.toList) := by
  have hBehind : Behind 0 b (escaped (utf8 s)) (b.writeEscaped s) := Framed.writeEscaped s b
  obtain ⟨hWrite, hKept⟩ := hBehind
  cases hResult : b.writeEscaped s with
  | ok d =>
    have hLimit : d.size ≤ maxSize := size_of_writeEscapedFrom hResult
    rw [hResult] at hWrite
    cases hWrite with
    | ok hText =>
      have hSize : d.size = b.size + (escaped (utf8 s)).length := by
        rw [size_eq_length, hText, List.length_append, size_eq_length]
      exact ⟨fun _ => ⟨d, rfl, hText⟩, fun hFull => absurd hFull (by omega)⟩
  | error fault =>
    rw [hResult] at hWrite hKept
    cases hWrite with
    | full hCause hFull =>
      exact ⟨fun hRoom => absurd hRoom (by omega),
        fun _ => ⟨fault, rfl, Operation.message_tooLarge hCause, hKept⟩⟩

/-- A string is escaped byte by byte, to a text without control bytes and without a quote that is
not escaped. Its reader gives the string back, and no other string is escaped to the same text. -/
theorem writeEscaped_escapes (s : String) :
    (∃ pieces, List.Forall₂ Escape (utf8 s) pieces ∧ escaped (utf8 s) = pieces.flatten) ∧
    (∀ b : Buffer,
      (b.size + (escaped (utf8 s)).length ≤ maxSize →
        ∃ d, b.writeEscaped s = .ok d ∧ d.toList = b.toList ++ escaped (utf8 s)) ∧
      (maxSize < b.size + (escaped (utf8 s)).length →
        ∃ fault, b.writeEscaped s = .error fault ∧ fault.message = "buffer too large" ∧
          b.toList <+: fault.buffer.toList)) ∧
    IsText (escaped (utf8 s)) ∧
    (∀ c ∈ escaped (utf8 s), 0x20 ≤ c ∧ c ≠ 0x7f) ∧
    Unquoted (escaped (utf8 s)) ∧
    (∃ units, unitString? units = some s ∧
      ∀ rest, readString (escaped (utf8 s) ++ 0x22 :: rest) = some (units, rest)) ∧
    ∀ t : String, escaped (utf8 s) = escaped (utf8 t) → s = t := by
  refine ⟨exists_escapes _, writeEscaped_decided s, Text.isText_escaped s, ?_, unquoted_escaped _,
    readString_escaped s, fun _ => escaped_injective⟩
  exact fun c hc => bounds_of_mem_escaped hc

/-- Nothing can be appended to a full buffer. -/
theorem writeEscaped_without_room : ∃ b : Buffer,
    (Operation.pad maxSize).run (withCapacity maxSize) = .ok b ∧
    (∃ fault, b.writeEscaped "a" = .error fault ∧ fault.message = "buffer too large") ∧
    ¬ ∃ d, b.writeEscaped "a" = .ok d ∧ d.toList = b.toList ++ escaped (utf8 "a") := by
  obtain ⟨b, hRun, hLength⟩ := exists_full
  have hOne : (escaped (utf8 "a")).length = 1 := rfl
  obtain ⟨fault, hFault, hMessage, -⟩ := (writeEscaped_decided "a" b).2 (by omega)
  refine ⟨b, hRun, ⟨fault, hFault, hMessage⟩, ?_⟩
  rintro ⟨d, hOk, -⟩
  rw [hFault] at hOk
  cases hOk

end Logline.Buffer
