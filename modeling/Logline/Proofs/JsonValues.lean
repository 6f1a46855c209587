import Logline.Proofs.Leaves
import Logline.Proofs.TimeText
import Logline.Proofs.ValueText

/-! # Values in JSON lines

Every value is written as a text that stands for its image. A group is an object with its attributes
as members, in their order and with all their duplicates.
-/

namespace Logline

open Buffer (Writes Grows quotedText)
open Json (Content Spells SpellsMember content?)
open Text (utf8 Plain)

/-- A document on one line, or nothing, or an error after any text. -/
def Marshal.Output.IsJson (out : Marshal.Output) : Prop :=
  out.failure = none → out.text = [] ∨ ((content? out.text).isSome ∧ 0x0a ∉ out.text)

/-- A value that writes itself stands for what it says; one that fails is a string, and one that
says nothing is null. -/
def Marshal.Output.image (out : Marshal.Output) : Content :=
  match out.failure with
  | some e => .string (errorMarker ++ e.message)
  | none => if out.text = [] then .null else (content? out.text).getD .null

/-- Instants are valid, and what writes itself does so as a document. -/
def Value.JsonLeaf (slack : Nat) (output : Marshal → Marshal.Output) : Value → Prop
  | .time t => t.Valid
  | .marshal m => m.Appends slack .json (output m) ∧ (output m).IsJson
  | _ => True

mutual

def Value.image (output : Marshal → Marshal.Output) : Value → Content
  | .null => .null
  | .bool b => .bool b
  | .int n => .number (n < 0) n.natAbs
  | .uint n => .number false n
  | .float x => x.image
  | .float32 x => x.image
  | .complex re im => .string (re.complexText im)
  | .complex32 re im => .string (re.complexText im)
  | .string s => .string s
  | .bytes data => .string (Text.lossy data)
  | .duration d => .string d.text
  | .time t => .string t.nanosText
  | .strings items => .array (items.map .string)
  | .bools items => .array (items.map .bool)
  | .ints items => .array (items.map fun n => .number (n < 0) n.natAbs)
  | .floats items => .array (items.map Binary64.image)
  | .json j => j.image
  | .marshal m => (output m).image
  | .foreign f => .string f.debug
  | .group attrs => .object (Value.members output attrs)

def Value.members (output : Marshal → Marshal.Output) : List (Entry Value) → List (String × Content)
  | [] => []
  | ⟨key, value⟩ :: r => (key, value.image output) :: Value.members output r

end

namespace JsonPainter

variable {slack : Nat}

theorem writes_quoted {f : Buffer → Buffer.Result} {s : String} (hf : Writes slack f (utf8 s))
    (hs : Plain s) : Writes slack (quoted f) (quotedText (utf8 s)) := by
  rw [quotedText, Text.escaped_of_plain hs]
  exact (Writes.pushByte 0x22).bind (hf.bind (Writes.pushByte 0x22))

def Images (slack : Nat) (f : Buffer → Buffer.Result) (content : Content) : Prop :=
  ∃ text, Writes slack f text ∧ Spells text content

theorem images_quoted {f : Buffer → Buffer.Result} {s : String} (hf : Writes slack f (utf8 s))
    (hs : Plain s) : Images slack (quoted f) (.string s) :=
  ⟨_, writes_quoted hf hs, Json.spells_string s⟩

theorem images_writeQuoted (s : String) : Images slack (·.writeQuoted s) (.string s) :=
  ⟨_, Writes.writeQuoted s, Json.spells_string s⟩

theorem images_writeBool (v : Bool) : Images slack (·.writeBool v) (.bool v) :=
  ⟨_, Writes.writeBool v, Json.spells_bool v⟩

theorem images_writeInt (n : Int) : Images slack (·.writeInt n) (.number (n < 0) n.natAbs) :=
  ⟨_, Writes.writeInt n, Json.spells_int n⟩

theorem images_number {f : FloatFormat} (hf : f.Known) {l : Decimal.Layout} (hPlus : l.plus = "")
    (hNan : l.nan = "NaN")
    (hInfinity : ∀ negative, l.infinity negative = if negative then "-Inf" else "+Inf")
    {write : Buffer → Buffer.Result} {negative : Bool} {bits : Nat}
    (hWrite : Writes slack write (utf8 (l.text f negative (f.decode bits))))
    (hPlain : Plain (l.text f negative (f.decode bits))) :
    Images slack (fun b =>
      if (match f.decode bits with | .finite .. => true | _ => false) then write b
      else quoted write b) (f.image negative (f.decode bits)) := by
  cases hMagnitude : f.decode bits with
  | nan =>
    have hQuoted := images_quoted hWrite hPlain
    rw [hMagnitude, Decimal.Layout.text, hNan] at hQuoted
    exact hQuoted
  | infinite =>
    have hQuoted := images_quoted hWrite hPlain
    rw [hMagnitude, Decimal.Layout.text, hInfinity] at hQuoted
    exact hQuoted
  | finite m q =>
    rw [hMagnitude] at hWrite
    exact ⟨_, hWrite, hf.spells_text l (.inl hPlus) hMagnitude negative⟩

theorem images_writeFloat (x : Binary64) : Images slack (writeFloat x) x.image :=
  images_number .double rfl rfl (fun _ => rfl) (Writes.writeFloat x) (bare_double x).plain

theorem images_writeFloat32 (x : Binary32) : Images slack (writeFloat32 x) x.image :=
  images_number .single rfl rfl (fun _ => rfl) (Writes.writeFloat32 x) (bare_single x).plain

/-! ## Lists -/

theorem writes_items {α : Type} {write : α → Buffer → Buffer.Result} {content : α → Content}
    (hWrite : ∀ x, Images slack (write x) (content x)) (items : List α) :
    ∃ texts, List.Forall₂ Spells texts (items.map content) ∧
      Writes slack (writeItems write items) (joined 0x2c false texts ++ [0x5d]) := by
  induction items with
  | nil => exact ⟨[], .nil, Writes.pushByte 0x5d⟩
  | cons x r ih =>
    obtain ⟨text, hText, hSpells⟩ := hWrite x
    obtain ⟨texts, hTexts, hRest⟩ := ih
    refine ⟨text :: texts, .cons hSpells hTexts, ?_⟩
    have hItems := (Writes.pushByte 0x2c).bind (hText.bind hRest)
    rwa [← List.append_assoc text] at hItems

theorem images_writeList {α : Type} {write : α → Buffer → Buffer.Result} {content : α → Content}
    (hWrite : ∀ x, Images slack (write x) (content x)) (items : List α) :
    Images slack (writeList write items) (.array (items.map content)) := by
  cases items with
  | nil =>
    exact ⟨_, (Writes.pushByte 0x5b).bind (Writes.pushByte 0x5d), Json.spells_array .nil⟩
  | cons x r =>
    obtain ⟨text, hText, hSpells⟩ := hWrite x
    obtain ⟨texts, hTexts, hRest⟩ := writes_items hWrite r
    refine ⟨_, (Writes.pushByte 0x5b).bind (hText.bind hRest), ?_⟩
    rw [← List.append_assoc text]
    exact Json.spells_array (.cons hSpells hTexts)

/-! ## Nested values -/

theorem images_writeMarshal {m : Marshal} {out : Marshal.Output} (hm : m.Appends slack .json out)
    (hOut : out.IsJson) : Images slack (writeMarshal m) out.image := by
  unfold Marshal.Output.image
  cases hFailure : out.failure with
  | some e =>
    refine ⟨_, fun b => hm.grows fun d hd => ?_, Json.spells_string (errorMarker ++ e.message)⟩
    rw [hFailure]
    exact (Writes.writeQuoted _ _).of_toList (Buffer.truncate_of_append hd)
  | none =>
    have hSize : ∀ {b d : Buffer}, d.toList = b.toList ++ out.text →
        (d.size = b.size ↔ out.text = []) := by
      intro b d hd
      rw [Buffer.size_eq_length, Buffer.size_eq_length, hd, List.length_append]
      simp
    by_cases hEmpty : out.text = []
    · refine ⟨utf8 "null", fun b => hm.grows fun d hd => ?_, ?_⟩
      · rw [hFailure]
        simp only [(hSize hd).mpr hEmpty, if_true]
        rw [hEmpty, List.append_nil] at hd
        exact (Writes.pushText "null" d).of_toList hd
      · rw [if_pos hEmpty]
        exact Json.spells_null
    · refine ⟨out.text, fun b => hm.grows fun d hd => ?_, ?_⟩
      · rw [hFailure]
        simp only [mt (hSize hd).mp hEmpty, if_false]
        exact .ok hd
      · obtain ⟨hSome, hLine⟩ := (hOut hFailure).resolve_left hEmpty
        obtain ⟨content, hContent⟩ := Option.isSome_iff_exists.mp hSome
        rw [if_neg hEmpty, hContent]
        exact Json.spells_of_content? hContent hLine

variable {output : Marshal → Marshal.Output}

mutual

theorem images_writeValue (v : Value) (hv : v.Leaves (Value.JsonLeaf slack output)) :
    Images slack (writeValue v) (v.image output) := by
  cases v with
  | null => exact ⟨_, Writes.pushText "null", Json.spells_null⟩
  | bool v => exact images_writeBool v
  | int n => exact images_writeInt n
  | uint n => exact ⟨_, Writes.writeNat n, Json.spells_nat n⟩
  | float x => exact images_writeFloat x
  | float32 x => exact images_writeFloat32 x
  | complex re im =>
    exact images_quoted (.writeComplex re im)
      (bare_complex _ (bare_double re) (bare_double im)).plain
  | complex32 re im =>
    exact images_quoted (.writeComplex32 re im)
      (bare_complex _ (bare_single re) (bare_single im)).plain
  | string s => exact images_writeQuoted s
  | bytes bytes => exact images_writeQuoted _
  | duration d =>
    refine images_quoted ?_ (plain_duration d)
    rw [← utf8_duration]
    exact .writeDuration d
  | time t => exact images_quoted (.writeTime t) (plain_nanosText hv)
  | strings items => exact images_writeList images_writeQuoted items
  | bools items => exact images_writeList images_writeBool items
  | ints items => exact images_writeList images_writeInt items
  | floats items => exact images_writeList images_writeFloat items
  | json j => exact ⟨_, Writes.pushPieces _, Json.spells_json j⟩
  | marshal m => exact images_writeMarshal hv.1 hv.2
  | foreign f => exact images_writeQuoted _
  | group attrs =>
    obtain ⟨texts, hTexts, hWrites⟩ := writes_writeAttrs attrs hv
    exact ⟨_, (Writes.pushByte 0x7b).bind ((hWrites true).bind (.pushByte 0x7d)),
      Json.spells_object hTexts⟩

theorem writes_writeAttrs (attrs : List (Entry Value))
    (hAttrs : Value.LeavesOf (Value.JsonLeaf slack output) attrs) :
    ∃ texts, List.Forall₂ SpellsMember texts (Value.members output attrs) ∧
      ∀ first, Writes slack (writeAttrs first attrs) (joined 0x2c first texts) := by
  cases attrs with
  | nil => exact ⟨[], .nil, fun _ => .nil⟩
  | cons a r =>
    obtain ⟨key, value⟩ := a
    obtain ⟨text, hText, hSpells⟩ := images_writeValue value hAttrs.1
    obtain ⟨texts, hTexts, hRest⟩ := writes_writeAttrs r hAttrs.2
    refine ⟨_ :: texts, .cons ((Json.spellsString_quotedText key).member hSpells) hTexts, ?_⟩
    have hMember := (Writes.writeQuoted key).bind
      ((Writes.pushByte 0x3a).bind (hText.bind (hRest false)))
    have hOrder : quotedText (utf8 key) ++ ([0x3a] ++ (text ++ joined 0x2c false texts)) =
        (quotedText (utf8 key) ++ 0x3a :: text) ++ joined 0x2c false texts := by simp
    rw [hOrder] at hMember
    intro first
    cases first with
    | true => exact Writes.nil.bind hMember
    | false => exact (Writes.pushByte 0x2c).bind hMember

end

end JsonPainter

end Logline
