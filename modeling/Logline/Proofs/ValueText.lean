import Logline.Proofs.PlainText

/-! # Texts of JSON values

The compact text of a JSON value stands for the value. Strings are escaped character by character
here, where the quoted texts of a line are escaped byte by byte.
-/

namespace Logline.Json

open Text (utf8 IsText IsPlainChar)
open Buffer (escaped)

def charText (c : Char) : List UInt8 := ((escape? c).map utf8).getD (String.utf8EncodeChar c)

theorem readsInside_high {bytes : List UInt8} (h : ∀ b ∈ bytes, 0x80 ≤ b) :
    ∃ units, ReadsInside bytes units bytes := by
  obtain ⟨units, hReads⟩ := ReadsInside.ofEscaped bytes
  rw [Buffer.escaped_of_le h] at hReads
  exact ⟨units, hReads⟩

theorem hexDigit_byte {n : Nat} (hn : n < 16) :
    (hexDigit n).toNat < 128 ∧ UInt8.ofNat (hexDigit n).toNat = Buffer.hexByte n := by
  have hAll : ∀ k : Fin 16, (hexDigit k).toNat < 128 ∧
      UInt8.ofNat (hexDigit k).toNat = Buffer.hexByte k := by decide
  exact hAll ⟨n, hn⟩

theorem utf8_numbered {n : Nat} (hn : n < 128) :
    utf8 (String.ofList ['\\', 'u', '0', '0', hexDigit (n / 16), hexDigit (n % 16)]) =
      [0x5c, 0x75, 0x30, 0x30, Buffer.hexByte (n / 16), Buffer.hexByte (n % 16)] := by
  obtain ⟨hHigh, hHighByte⟩ := hexDigit_byte (n := n / 16) (by omega)
  obtain ⟨hLow, hLowByte⟩ := hexDigit_byte (n := n % 16) (by omega)
  rw [Text.utf8_ascii]
  · simp only [Text.asciiBytes, List.map_cons, List.map_nil, hHighByte, hLowByte]
    rfl
  · simp only [List.forall_mem_cons]
    exact ⟨by decide, by decide, by decide, by decide, hHigh, hLow, by simp⟩

/-- The cases are those of the escapes. -/
theorem readsInside_char (c : Char) :
    ∃ units, ReadsInside (charText c) units (String.utf8EncodeChar c) := by
  unfold charText escape?
  split_ifs with hQuote hSlash hBack hForm hFeed hReturn hTab hControl
  · subst hQuote
    exact ⟨_, ReadsInside.letter (e := 0x22) rfl⟩
  · subst hSlash
    exact ⟨_, ReadsInside.letter (e := 0x5c) rfl⟩
  · subst hBack
    exact ⟨_, ReadsInside.letter (e := 0x62) rfl⟩
  · subst hForm
    exact ⟨_, ReadsInside.letter (e := 0x66) rfl⟩
  · subst hFeed
    exact ⟨_, ReadsInside.letter (e := 0x6e) rfl⟩
  · subst hReturn
    exact ⟨_, ReadsInside.letter (e := 0x72) rfl⟩
  · subst hTab
    exact ⟨_, ReadsInside.letter (e := 0x74) rfl⟩
  · have hNat := Text.toNat_ofNat (n := c.toNat) (by omega)
    have hReads := ReadsInside.numbered (b := UInt8.ofNat c.toNat) (by
      rw [UInt8.lt_iff_toNat_lt, hNat]
      exact Nat.lt_trans hControl (by decide))
    rw [hNat] at hReads
    rw [Option.map_some, Option.getD_some, utf8_numbered (by omega),
      Text.utf8EncodeChar_ascii (by omega)]
    exact ⟨_, hReads⟩
  · by_cases hAscii : c.toNat < 128
    · have hNat := Text.toNat_ofNat (n := c.toNat) (by omega)
      have hNe : ∀ d : Char, c ≠ d → c.toNat ≠ d.toNat := fun d hd h => hd (Char.toNat_inj.mp h)
      rw [Option.map_none, Option.getD_none, Text.utf8EncodeChar_ascii hAscii]
      refine ⟨_, ReadsInside.plain ?_ ?_ ?_⟩
      · rwa [UInt8.lt_iff_toNat_lt, hNat]
      · rintro h
        exact hNe '"' hQuote (by rw [← hNat, h]; rfl)
      · rintro h
        exact hNe '\\' hSlash (by rw [← hNat, h]; rfl)
    · exact readsInside_high fun b hb => Text.le_of_mem_utf8EncodeChar (Nat.le_of_not_lt hAscii) hb

theorem feed_notMem_charText (c : Char) : 0x0a ∉ charText c := by
  have hLetter : ∀ e : String, 0x0a ∉ utf8 e →
      0x0a ∉ ((some e).map utf8).getD (String.utf8EncodeChar c) := fun _ he => he
  unfold charText escape?
  split_ifs with hQuote hSlash hBack hForm hFeed hReturn hTab hControl
  · exact hLetter _ (by decide)
  · exact hLetter _ (by decide)
  · exact hLetter _ (by decide)
  · exact hLetter _ (by decide)
  · exact hLetter _ (by decide)
  · exact hLetter _ (by decide)
  · exact hLetter _ (by decide)
  · rw [Option.map_some, Option.getD_some, utf8_numbered (by omega)]
    have hHigh := (Buffer.hexByte_bounds (n := c.toNat / 16) (by omega)).1
    have hLow := (Buffer.hexByte_bounds (n := c.toNat % 16) (by omega)).1
    have hNe : ∀ b : UInt8, 0x20 ≤ b → 0x0a ≠ b := by
      rintro _ hb rfl
      exact absurd hb (by decide)
    simp [hNe _ hHigh, hNe _ hLow]
  · intro hMem
    by_cases hAscii : c.toNat < 128
    · rw [Option.map_none, Option.getD_none, Text.utf8EncodeChar_ascii hAscii,
        List.mem_singleton] at hMem
      have hNat := congrArg UInt8.toNat hMem
      rw [Text.toNat_ofNat (by omega)] at hNat
      exact hControl (by rw [← hNat]; decide)
    · exact absurd (Text.le_of_mem_utf8EncodeChar (Nat.le_of_not_lt hAscii) hMem) (by decide)

theorem isText_charText (c : Char) : IsText (charText c) := by
  cases h : escape? c with
  | none =>
    refine ⟨String.ofList [c], ?_⟩
    rw [charText, h, Text.utf8_ofList, List.flatMap_singleton]
    rfl
  | some e => exact ⟨e, by simp [charText, h]⟩

theorem utf8_escapePieces (run cs : List Char) :
    (escapePieces run cs).flatMap utf8 =
      utf8 (String.ofList run.reverse) ++ cs.flatMap charText := by
  induction cs generalizing run with
  | nil => simp [escapePieces]
  | cons c r ih =>
    cases hEscape : escape? c with
    | some e => simp [escapePieces, hEscape, ih, charText]
    | none =>
      rw [escapePieces, hEscape, ih, List.reverse_cons, Text.utf8_ofList, Text.utf8_ofList,
        List.flatMap_append, List.flatMap_singleton, List.flatMap_cons, charText, hEscape,
        List.append_assoc]
      rfl

def stringText (s : String) : List UInt8 := 0x22 :: (s.toList.flatMap charText ++ [0x22])

theorem utf8_stringPieces (s : String) : (stringPieces s).flatMap utf8 = stringText s := by
  have hQuote : utf8 "\"" = [0x22] := rfl
  simp [stringPieces, stringText, utf8_escapePieces, hQuote]

theorem readsInside_chars (cs : List Char) :
    ∃ units, ReadsInside (cs.flatMap charText) units (cs.flatMap String.utf8EncodeChar) := by
  induction cs with
  | nil => exact ⟨[], .nil⟩
  | cons c r ih =>
    obtain ⟨unit, hChar⟩ := readsInside_char c
    obtain ⟨units, hRest⟩ := ih
    exact ⟨unit ++ units, hChar.append hRest⟩

theorem spellsString_stringText (s : String) : SpellsString (stringText s) s := by
  obtain ⟨units, hInside⟩ := readsInside_chars s.toList
  obtain ⟨hBytes, hRead⟩ := hInside.close
  have hLine : 0x0a ∉ s.toList.flatMap charText := by
    intro hMem
    obtain ⟨c, -, hc⟩ := List.mem_flatMap.mp hMem
    exact feed_notMem_charText c hc
  refine ⟨⟨units, ?_, _, rfl, hRead⟩, by simp [stringText, hLine], ?_⟩
  · rw [unitString?, hBytes, Option.bind_some, ← Text.utf8_eq_flatMap, Text.strict?_utf8]
  · exact (Text.isText_utf8 "\"").append
      ((Text.isText_flatMap fun c _ => isText_charText c).append (Text.isText_utf8 "\""))

/-! ## Values -/

/-- What a binary number stands for; one that is not finite is null. -/
def floatImage (x : Binary64) : Content :=
  match x.magnitude with
  | .finite m q => .number x.isNegative (Decimal.magnitudeValue .double m q)
  | _ => .null

mutual

def image : Json → Content
  | .null => .null
  | .bool b => .bool b
  | .natural n => .number false n
  | .negative n => .number (n < 0) n.natAbs
  | .float x => floatImage x
  | .string s => .string s
  | .array items => .array (itemImages items)
  | .object members => .object (memberImages members)

def itemImages : List Json → List Content
  | [] => []
  | x :: r => x.image :: itemImages r

def memberImages : List (String × Json) → List (String × Content)
  | [] => []
  | (key, x) :: r => (key, x.image) :: memberImages r

end

theorem spells_floatText (x : Binary64) : Spells (utf8 (floatText x)) (floatImage x) := by
  unfold floatText floatImage
  cases h : x.magnitude with
  | nan => exact spells_null
  | infinite => exact spells_null
  | finite m q => exact FloatFormat.Known.double.spells_text _ (.inr rfl) h _

def bytes (j : Json) : List UInt8 := j.pieces.flatMap utf8

def memberBytes (member : String × Json) : List UInt8 :=
  stringText member.1 ++ 0x3a :: member.2.bytes

theorem utf8_comma (first : Bool) (text : List UInt8) :
    ((if first then [] else [","] : List String).flatMap utf8) ++ text =
      if first then text else 0x2c :: text := by
  cases first <;> rfl

theorem utf8_itemPieces (first : Bool) (items : List Json) :
    (itemPieces first items).flatMap utf8 = joined 0x2c first (items.map bytes) ++ [0x5d] := by
  induction items generalizing first with
  | nil => rfl
  | cons x r ih =>
    rw [itemPieces, List.flatMap_append, List.flatMap_append, ih, utf8_comma, List.map_cons, joined,
      List.append_assoc]
    rfl

theorem utf8_memberPieces (first : Bool) (members : List (String × Json)) :
    (memberPieces first members).flatMap utf8 =
      joined 0x2c first (members.map memberBytes) ++ [0x7d] := by
  induction members generalizing first with
  | nil => rfl
  | cons member r ih =>
    have hColon : utf8 ":" = [0x3a] := rfl
    obtain ⟨key, x⟩ := member
    simp only [memberPieces, List.flatMap_append, List.flatMap_cons, ih, utf8_stringPieces, hColon,
      List.map_cons, joined, memberBytes, bytes, List.append_assoc, List.cons_append,
      List.nil_append]
    rw [utf8_comma]
    cases first <;> simp

mutual

theorem spells_json (j : Json) : Spells j.bytes j.image := by
  cases j with
  | null => simpa [bytes, pieces, image] using spells_null
  | bool b => simpa [bytes, pieces, image] using spells_bool b
  | natural n => simpa [bytes, pieces, image] using spells_nat n
  | negative n => simpa [bytes, pieces, image] using spells_int n
  | float x => simpa [bytes, pieces, image] using spells_floatText x
  | string s =>
    rw [bytes, pieces, utf8_stringPieces, image]
    exact (spellsString_stringText s).spells
  | array items =>
    rw [bytes, pieces, List.flatMap_cons, utf8_itemPieces, image]
    exact spells_array (spells_items items)
  | object members =>
    rw [bytes, pieces, List.flatMap_cons, utf8_memberPieces, image]
    exact spells_object (spells_members members)

theorem spells_items (items : List Json) :
    List.Forall₂ Spells (items.map bytes) (itemImages items) := by
  cases items with
  | nil => exact .nil
  | cons x r => exact .cons (spells_json x) (spells_items r)

theorem spells_members (members : List (String × Json)) :
    List.Forall₂ SpellsMember (members.map memberBytes) (memberImages members) := by
  cases members with
  | nil => exact .nil
  | cons member r =>
    obtain ⟨key, x⟩ := member
    exact .cons ((spellsString_stringText key).member (spells_json x)) (spells_members r)

end

end Logline.Json
