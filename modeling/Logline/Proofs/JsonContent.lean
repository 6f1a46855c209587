import Logline.Proofs.JsonLocality
import Mathlib.Data.Rat.Defs
import Mathlib.Algebra.Field.Rat

/-! # What JSON texts say

The content of a document: members in their order with all their duplicates, numbers as a sign and
an exact magnitude, strings decoded without any replacement. A text spells a content when it can
stand for it inside of a line.
-/

namespace Logline.Json

open Text (utf8 IsText strict?)
open Buffer (quotedText)

inductive Content where
  | null
  | bool (b : Bool)
  | number (negative : Bool) (magnitude : ℚ)
  | string (s : String)
  | array (items : List Content)
  | object (members : List (String × Content))
  deriving Inhabited

def digitsValue (digits : List Nat) : Nat := digits.foldl (fun n d => n * 10 + d) 0

def Numeral.power (x : Numeral) : Int :=
  match x.exponent with
  | none => 0
  | some (below, digits) => if below then -digitsValue digits else digitsValue digits

def Numeral.magnitude (x : Numeral) : ℚ :=
  let fraction := x.fraction.getD []
  digitsValue (x.whole ++ fraction) * 10 ^ (x.power - fraction.length)

def unitString? (units : List CodeUnit) : Option String := (unitBytes units).bind strict?

mutual

def Raw.content? : Raw → Option Content
  | .null => some .null
  | .bool b => some (.bool b)
  | .number n => some (.number n.negative n.magnitude)
  | .string units => (unitString? units).map .string
  | .array items => (itemContents? items).map .array
  | .object members => (memberContents? members).map .object

def itemContents? : List Raw → Option (List Content)
  | [] => some []
  | x :: r => do
    let item ← x.content?
    let items ← itemContents? r
    some (item :: items)

def memberContents? : List (List CodeUnit × Raw) → Option (List (String × Content))
  | [] => some []
  | (key, x) :: r => do
    let key ← unitString? key
    let value ← x.content?
    let members ← memberContents? r
    some ((key, value) :: members)

end

/-- The content of a document in UTF-8. -/
def content? (text : List UInt8) : Option Content := do
  let _ ← strict? text
  let raw ← readDocument text
  raw.content?

/-- A text on one line that stands for a value. -/
structure Spells (text : List UInt8) (content : Content) : Prop where
  reads : ∃ raw : Raw, raw.content? = some content ∧ Reads text raw
  oneLine : 0x0a ∉ text
  isText : IsText text

structure SpellsString (text : List UInt8) (s : String) : Prop where
  reads : ∃ units, unitString? units = some s ∧ ReadsString text units
  oneLine : 0x0a ∉ text
  isText : IsText text

structure SpellsMember (text : List UInt8) (member : String × Content) : Prop where
  reads : ∃ key raw, unitString? key = some member.1 ∧ raw.content? = some member.2 ∧
    ReadsMember text (key, raw)
  oneLine : 0x0a ∉ text
  isText : IsText text

/-- A string that needs no replacement is read as it is. -/
theorem unitText_eq {units : List CodeUnit} {s : String} (h : unitString? units = some s) :
    unitText units = some s := by
  obtain ⟨bytes, hBytes, hText⟩ := Option.bind_eq_some_iff.mp h
  obtain rfl := Text.strict?_eq_some.mp hText
  rw [unitText, hBytes, Option.map_some, Text.lossy_utf8]

theorem Spells.content?_eq {text : List UInt8} {content : Content} (h : Spells text content) :
    content? text = some content := by
  obtain ⟨raw, hContent, hReads⟩ := h.reads
  obtain ⟨s, rfl⟩ := h.isText
  simp [content?, Text.strict?_utf8, hReads.readDocument, hContent]

/-- A document on one line can stand for its content in a longer one. -/
theorem spells_of_content? {text : List UInt8} {content : Content}
    (h : content? text = some content) (hLine : 0x0a ∉ text) : Spells text content := by
  simp only [content?, Option.bind_eq_bind, Option.bind_eq_some_iff] at h
  obtain ⟨s, hText, raw, hRead, hContent⟩ := h
  exact ⟨⟨raw, hContent, reads_of_readDocument hRead⟩, hLine, s,
    Text.strict?_eq_some.mp hText⟩

theorem spells_null : Spells (utf8 "null") .null :=
  ⟨⟨.null, rfl, reads_null⟩, by decide, _, rfl⟩

theorem spells_bool (b : Bool) : Spells (utf8 (if b then "true" else "false")) (.bool b) := by
  cases b with
  | true => exact ⟨⟨.bool true, rfl, reads_true⟩, by decide, _, rfl⟩
  | false => exact ⟨⟨.bool false, rfl, reads_false⟩, by decide, _, rfl⟩

theorem spellsString_quotedText (s : String) : SpellsString (quotedText (utf8 s)) s := by
  obtain ⟨units, hInside⟩ := ReadsInside.ofEscaped (utf8 s)
  obtain ⟨hBytes, hRead⟩ := hInside.close
  refine ⟨⟨units, ?_, _, rfl, hRead⟩, Buffer.feed_notMem_quotedText _, Text.isText_quotedText s⟩
  rw [unitString?, hBytes, Option.bind_some, Text.strict?_utf8]

theorem SpellsString.spells {text : List UInt8} {s : String} (h : SpellsString text s) :
    Spells text (.string s) := by
  obtain ⟨units, hString, hReads⟩ := h.reads
  refine ⟨⟨.string units, ?_, reads_string hReads⟩, h.oneLine, h.isText⟩
  rw [Raw.content?, hString]
  rfl

theorem SpellsString.member {text value : List UInt8} {key : String} {content : Content}
    (hKey : SpellsString text key) (h : Spells value content) :
    SpellsMember (text ++ 0x3a :: value) (key, content) := by
  obtain ⟨units, hString, hReads⟩ := hKey.reads
  obtain ⟨raw, hContent, hRead⟩ := h.reads
  refine ⟨⟨units, raw, hString, hContent, _, _, rfl, hReads, hRead⟩, ?_, ?_⟩
  · simp [hKey.oneLine, h.oneLine]
  · exact hKey.isText.append ((Text.isText_utf8 ":").append h.isText)

theorem spells_string (s : String) : Spells (quotedText (utf8 s)) (.string s) :=
  (spellsString_quotedText s).spells

theorem spells_array {texts : List (List UInt8)} {contents : List Content}
    (hItems : List.Forall₂ Spells texts contents) :
    Spells (0x5b :: (joined 0x2c true texts ++ [0x5d])) (.array contents) := by
  have hReads : ∃ raws, itemContents? raws = some contents ∧ List.Forall₂ Reads texts raws := by
    induction hItems with
    | nil => exact ⟨[], rfl, .nil⟩
    | cons hItem _ ih =>
      obtain ⟨raw, hContent, hRead⟩ := hItem.reads
      obtain ⟨raws, hContents, hReads⟩ := ih
      exact ⟨raw :: raws, by simp [itemContents?, hContent, hContents], .cons hRead hReads⟩
  obtain ⟨raws, hContents, hReads⟩ := hReads
  refine ⟨⟨.array raws, ?_, reads_array hReads⟩, ?_, ?_⟩
  · rw [Raw.content?, hContents]
    rfl
  · have hInside : 0x0a ∉ joined 0x2c true texts :=
      notMem_joined (by decide) (forall_of_forall₂ hItems fun _ _ h => h.oneLine) true
    simp [hInside]
  · have hInside : IsText (joined 0x2c true texts) :=
      Text.isText_joined (by decide) (forall_of_forall₂ hItems fun _ _ h => h.isText) true
    exact (Text.isText_utf8 "[").append (hInside.append (Text.isText_utf8 "]"))

theorem spells_object {texts : List (List UInt8)} {members : List (String × Content)}
    (hMembers : List.Forall₂ SpellsMember texts members) :
    Spells (0x7b :: (joined 0x2c true texts ++ [0x7d])) (.object members) := by
  have hReads : ∃ raws, memberContents? raws = some members ∧
      List.Forall₂ ReadsMember texts raws := by
    induction hMembers with
    | nil => exact ⟨[], rfl, .nil⟩
    | cons hMember _ ih =>
      obtain ⟨key, raw, hKey, hContent, hRead⟩ := hMember.reads
      obtain ⟨raws, hContents, hReads⟩ := ih
      refine ⟨(key, raw) :: raws, ?_, .cons hRead hReads⟩
      simp [memberContents?, hKey, hContent, hContents]
  obtain ⟨raws, hContents, hReads⟩ := hReads
  refine ⟨⟨.object raws, ?_, reads_object hReads⟩, ?_, ?_⟩
  · rw [Raw.content?, hContents]
    rfl
  · have hInside : 0x0a ∉ joined 0x2c true texts :=
      notMem_joined (by decide) (forall_of_forall₂ hMembers fun _ _ h => h.oneLine) true
    simp [hInside]
  · have hInside : IsText (joined 0x2c true texts) :=
      Text.isText_joined (by decide) (forall_of_forall₂ hMembers fun _ _ h => h.isText) true
    exact (Text.isText_utf8 "\x7b").append (hInside.append (Text.isText_utf8 "\x7d"))

end Logline.Json
