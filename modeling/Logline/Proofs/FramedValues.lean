import Logline.Proofs.FieldValues
import Logline.Proofs.FramedWrites
import Logline.Proofs.JsonValues
import Logline.Proofs.LayoutInstants

/-! # Framed values

What is quoted again, rolled back or replaced while a value is written stands behind the mark at
which the value starts. So a value is written as the same text behind any bytes, and the same holds
of lists, of tails that are written again and of instants.
-/

namespace Logline

open Buffer (Behind Framed Retains Writes Grows left escaped quotedText)
open TextPainter (needsQuote)
open Text (utf8 lossy IsText)

variable {slack : Nat}

/-- A value that writes itself leaves what stands in a buffer, also where it is refused. -/
def Marshal.Retains (m : Marshal) (mode : FormatMode) : Prop :=
  ∀ b fault, m.write mode b = .error fault → b.toList <+: fault.buffer.toList

/-- What writes itself appends a text of its own in each format. -/
def Value.Appending (slack : Nat) (output : FormatMode → Marshal → Marshal.Output) : Value → Prop
  | .marshal m => ∀ mode, m.Appends slack mode (output mode m) ∧ m.Retains mode
  | _ => True

theorem Marshal.Appends.behind {m : Marshal} {mode : FormatMode} {out : Marshal.Output}
    (hm : m.Appends slack mode out) (hKept : m.Retains mode) {b : Buffer} {text : List UInt8}
    {f : Buffer × Option LogError → Buffer.Result}
    (hNext : ∀ d : Buffer, d.toList = b.toList ++ out.text →
      Behind slack b text (f (d, out.failure))) :
    Behind slack b text (m.write mode b >>= f) := by
  refine ⟨hm.grows fun d hd => (hNext d hd).grows, ?_⟩
  have hOutcome := hm b
  cases hResult : m.write mode b with
  | ok x =>
    rw [hResult] at hOutcome
    cases hOutcome with
    | ok hText => exact (hNext _ hText).kept
  | error fault => exact hKept b fault hResult

/-! ## Text formats -/

namespace TextPainter

theorem framed_writeText (s : String) : Framed slack (writeText s) (tokenText (utf8 s)) := by
  intro b
  unfold writeText tokenText
  split
  · exact Framed.writeQuoted s b
  · exact Framed.pushText s b

theorem behind_quoteTail {b d : Buffer} {bytes : List UInt8} (hd : d.toList = b.toList ++ bytes) :
    Behind slack b (shownText bytes) (quoteTail d b.size) := by
  refine ⟨grows_quoteTail hd, ?_⟩
  rw [quoteTail, Buffer.tail_of_append hd]
  show b.toList <+: (left (if needsQuote (utf8 (lossy bytes)) then
    (d.truncate b.size).writeQuoted (lossy bytes) else .ok d)).toList
  split
  · rw [← Buffer.truncate_of_append hd]
    exact Retains.writeQuoted _ _
  · exact ⟨bytes, hd.symm⟩

section

variable {α : Type} {write : α → Buffer → Buffer.Result}

theorem retains_items (hWrite : ∀ x, Retains (write x)) (items : List α) :
    Retains (writeItems write items) := by
  induction items with
  | nil => exact Retains.pushByte 0x5d
  | cons x r ih => exact (Retains.pushByte 0x2c).bind ((hWrite x).bind ih)

theorem retains_brackets (hWrite : ∀ x, Retains (write x)) (items : List α) :
    Retains (writeBrackets write items) := by
  cases items with
  | nil => exact (Retains.pushByte 0x5b).bind (.pushByte 0x5d)
  | cons x r => exact (Retains.pushByte 0x5b).bind ((hWrite x).bind (retains_items hWrite r))

variable {text : α → List UInt8} (hWrite : ∀ x, Framed slack (write x) (text x))
include hWrite

theorem framed_brackets (items : List α) :
    Framed slack (writeBrackets write items) (listBytes (items.map text)) :=
  .of_writes (writes_brackets (fun x => (hWrite x).writes) items)
    (retains_brackets (fun x => (hWrite x).retains) items)

theorem framed_list {more : Nat} (items : List α)
    (hLength : (listBytes (items.map text)).length + slack ≤
      (shownText (listBytes (items.map text))).length + more) :
    Framed more (writeList write items) (shownText (listBytes (items.map text))) := by
  intro b
  rw [writeList_eq]
  exact (framed_brackets hWrite items b).replace hLength fun _ hd => behind_quoteTail hd

theorem framed_writeList (hText : ∀ x, IsText (text x)) (items : List α) :
    Framed slack (writeList write items) (tokenText (listBytes (items.map text))) := by
  obtain ⟨s, hs⟩ := isText_listBytes hText items
  have hShown :
      shownText (listBytes (items.map text)) = tokenText (listBytes (items.map text)) := by
    rw [hs, shownText_utf8]
  rw [← hShown]
  refine framed_list hWrite items (Nat.add_le_add_right ?_ slack)
  rw [hShown]
  exact length_le_tokenText _

end

theorem framed_writeMarshal {m : Marshal} {mode : FormatMode} {out : Marshal.Output}
    (hm : m.Appends slack mode out) (hKept : m.Retains mode) :
    Framed slack (writeMarshal m mode) out.fieldText := by
  intro b
  refine hm.behind hKept fun d hd => ?_
  unfold Marshal.Output.fieldText
  cases out.failure with
  | some e => exact (framed_writeText _ _).of_toList (Buffer.truncate_of_append hd)
  | none => exact behind_quoteTail hd

theorem framed_writeValue {output : FormatMode → Marshal → Marshal.Output} {v : Value}
    (hv : v.Leaves (Value.Appending slack output)) (mode : FormatMode) :
    Framed slack (writeValue mode v) (v.fieldText (output mode)) := by
  cases v with
  | null => exact Framed.pushText "null"
  | bool v => exact Framed.pushText _
  | int n => exact Framed.pushText _
  | uint n => exact Framed.pushText _
  | float x => exact Framed.pushText _
  | float32 x => exact Framed.pushText _
  | complex re im => exact Framed.writeComplex re im
  | complex32 re im => exact Framed.writeComplex32 re im
  | string s => exact framed_writeText s
  | bytes data => exact framed_writeText _
  | duration d => exact (Framed.writeDuration d).enclosed
  | time t => exact (Framed.pushText t.nanosText).enclosed
  | strings items => exact framed_writeList framed_writeText isText_tokenText items
  | bools items => exact framed_writeList (fun _ => .pushText _) (fun _ => Text.isText_utf8 _) items
  | ints items => exact framed_writeList (fun _ => .pushText _) (fun _ => Text.isText_utf8 _) items
  | floats items =>
    exact framed_writeList (fun _ => .pushText _) (fun _ => Text.isText_utf8 _) items
  | json j => exact framed_writeText _
  | marshal m => exact framed_writeMarshal (hv mode).1 (hv mode).2
  | foreign f => exact framed_writeText _
  | group attrs => exact Framed.nil

end TextPainter

/-! ## JSON -/

/-- What a value that writes itself leaves in a JSON line: its text, `null` for none, and for a
failure the marker alone. -/
def Marshal.Output.jsonText (out : Marshal.Output) : List UInt8 :=
  match out.failure with
  | some e => quotedText (utf8 (errorMarker ++ e.message))
  | none => if out.text = [] then utf8 "null" else out.text

/-- The text of a number, in quotes if it is none. -/
def numeralText (finite : Bool) (text : String) : List UInt8 :=
  if finite then utf8 text else 0x22 :: (utf8 text ++ [0x22])

namespace Value

variable (output : Marshal → Marshal.Output)

mutual

def jsonText : Value → List UInt8
  | .null => utf8 "null"
  | .bool b => utf8 (if b then "true" else "false")
  | .int n => utf8 (toString n)
  | .uint n => utf8 (toString n)
  | .float x => numeralText x.isFinite x.text
  | .float32 x => numeralText x.isFinite x.text
  | .complex re im => 0x22 :: (utf8 (re.complexText im) ++ [0x22])
  | .complex32 re im => 0x22 :: (utf8 (re.complexText im) ++ [0x22])
  | .string s => quotedText (utf8 s)
  | .bytes data => quotedText (utf8 (lossy data))
  | .duration d => 0x22 :: (utf8 d.text ++ [0x22])
  | .time t => 0x22 :: (utf8 t.nanosText ++ [0x22])
  | .strings items => listBytes (items.map fun s => quotedText (utf8 s))
  | .bools items => listBytes (items.map fun b => utf8 (if b then "true" else "false"))
  | .ints items => listBytes (items.map fun n => utf8 (toString n))
  | .floats items => listBytes (items.map fun x => numeralText x.isFinite x.text)
  | .json j => j.pieces.flatMap utf8
  | .marshal m => (output m).jsonText
  | .foreign f => quotedText (utf8 f.debug)
  | .group attrs => 0x7b :: (membersText true attrs ++ [0x7d])

def membersText (first : Bool) : List (Entry Value) → List UInt8
  | [] => []
  | ⟨key, value⟩ :: r => (if first then [] else [0x2c]) ++
    (quotedText (utf8 key) ++ ([0x3a] ++ (value.jsonText ++ membersText false r)))

end

end Value

namespace JsonPainter

theorem framed_numeral (finite : Bool) (text : String) :
    Framed slack (fun b => if finite then b.pushText text else quoted (·.pushText text) b)
      (numeralText finite text) := by
  cases finite with
  | true => exact Framed.pushText text
  | false => exact (Framed.pushText text).enclosed

theorem writeItems_eq {α : Type} (write : α → Buffer → Buffer.Result) (items : List α) :
    writeItems write items = TextPainter.writeItems write items := by
  induction items with
  | nil => rfl
  | cons x r ih =>
    funext b
    rw [writeItems, TextPainter.writeItems, ih]

theorem framed_writeList {α : Type} {write : α → Buffer → Buffer.Result} {text : α → List UInt8}
    (hWrite : ∀ x, Framed slack (write x) (text x)) (items : List α) :
    Framed slack (writeList write items) (listBytes (items.map text)) := by
  have hSame : writeList write items = TextPainter.writeBrackets write items := by
    funext b
    cases items with
    | nil => rfl
    | cons x r =>
      simp only [writeList, TextPainter.writeBrackets, writeItems_eq]
  rw [hSame]
  exact TextPainter.framed_brackets hWrite items

theorem framed_writeMarshal {m : Marshal} {out : Marshal.Output} (hm : m.Appends slack .json out)
    (hKept : m.Retains .json) : Framed slack (writeMarshal m) out.jsonText := by
  intro b
  refine hm.behind hKept fun d hd => ?_
  unfold Marshal.Output.jsonText
  cases out.failure with
  | some e => exact (Framed.writeQuoted _ _).of_toList (Buffer.truncate_of_append hd)
  | none =>
    have hSize : d.size = b.size ↔ out.text = [] := by
      rw [Buffer.size_eq_length, Buffer.size_eq_length, hd, List.length_append]
      simp
    show Behind slack b _ (if d.size = b.size then d.pushText "null" else .ok d)
    by_cases hEmpty : out.text = []
    · rw [if_pos (hSize.mpr hEmpty), if_pos hEmpty]
      rw [hEmpty, List.append_nil] at hd
      exact (Framed.pushText "null" d).of_toList hd
    · rw [if_neg (mt hSize.mp hEmpty), if_neg hEmpty]
      exact ⟨.ok hd, _, hd.symm⟩

variable {output : FormatMode → Marshal → Marshal.Output}

mutual

theorem framed_writeValue (v : Value) (hv : v.Leaves (Value.Appending slack output)) :
    Framed slack (writeValue v) (v.jsonText (output .json)) := by
  cases v with
  | null => exact Framed.pushText "null"
  | bool v => exact Framed.pushText _
  | int n => exact Framed.pushText _
  | uint n => exact Framed.pushText _
  | float x => exact framed_numeral x.isFinite x.text
  | float32 x => exact framed_numeral x.isFinite x.text
  | complex re im => exact (Framed.writeComplex re im).enclosed
  | complex32 re im => exact (Framed.writeComplex32 re im).enclosed
  | string s => exact Framed.writeQuoted s
  | bytes data => exact Framed.writeQuoted _
  | duration d => exact (Framed.writeDuration d).enclosed
  | time t => exact (Framed.pushText t.nanosText).enclosed
  | strings items => exact framed_writeList Framed.writeQuoted items
  | bools items => exact framed_writeList (fun _ => .pushText _) items
  | ints items => exact framed_writeList (fun _ => .pushText _) items
  | floats items => exact framed_writeList (fun x => framed_numeral x.isFinite x.text) items
  | json j => exact Framed.pushPieces _
  | marshal m => exact framed_writeMarshal (hv .json).1 (hv .json).2
  | foreign f => exact Framed.writeQuoted _
  | group attrs =>
    exact (Framed.pushByte 0x7b).bind ((framed_writeAttrs true attrs hv).bind (.pushByte 0x7d))

theorem framed_writeAttrs (first : Bool) (attrs : List (Entry Value))
    (hAttrs : Value.LeavesOf (Value.Appending slack output) attrs) :
    Framed slack (writeAttrs first attrs) (Value.membersText (output .json) first attrs) := by
  cases attrs with
  | nil => exact Framed.nil
  | cons a r =>
    obtain ⟨key, value⟩ := a
    have hMember := (Framed.writeQuoted key).bind ((Framed.pushByte 0x3a).bind
      ((framed_writeValue value hAttrs.1).bind (framed_writeAttrs false r hAttrs.2)))
    cases first with
    | true => exact Framed.nil.bind hMember
    | false => exact (Framed.pushByte 0x2c).bind hMember

end

theorem behind_escapeTail {b d : Buffer} {bytes : List UInt8}
    (hd : d.toList = b.toList ++ bytes) :
    Behind slack b (escaped (utf8 (lossy bytes))) (escapeTail d b.size) := by
  rw [escapeTail, Buffer.tail_of_append hd]
  exact (Framed.writeEscaped (lossy bytes) _).of_toList (Buffer.truncate_of_append hd)

end JsonPainter

/-- Each encoder leaves what stands in a buffer and puts the same text behind it whatever that is:
the values of both kinds of lines, lists, tails that are written again and instants. A value that
fails leaves its marker only, and a pattern that cannot be read the finest date only. -/
theorem Value.encoders_framed (slack : Nat) (output : FormatMode → Marshal → Marshal.Output) :
    (∀ v : Value, v.Leaves (Value.Appending slack output) →
      Framed slack (JsonPainter.writeValue v) (v.jsonText (output .json)) ∧
      ∀ mode, Framed slack (TextPainter.writeValue mode v) (v.fieldText (output mode))) ∧
    (∀ (m : Marshal) (mode : FormatMode) part e, m.Appends slack mode ⟨part, some e⟩ →
      m.Retains mode →
      Framed slack (TextPainter.writeValue mode (.marshal m))
        (tokenText (utf8 (errorMarker ++ e.message))) ∧
      (mode = .json → Framed slack (JsonPainter.writeValue (.marshal m))
        (quotedText (utf8 (errorMarker ++ e.message))))) ∧
    (∀ {α : Type} (write : α → Buffer → Buffer.Result) (text : α → List UInt8) (items : List α),
      (∀ x, Framed slack (write x) (text x)) →
      Framed (slack + (listBytes (items.map text)).length) (TextPainter.writeList write items)
        (shownText (listBytes (items.map text)))) ∧
    (∀ (b d : Buffer) tail, d.toList = b.toList ++ tail →
      Behind 0 b (shownText tail) (TextPainter.quoteTail d b.size) ∧
      Behind 0 b (escaped (utf8 (lossy tail))) (JsonPainter.escapeTail d b.size)) ∧
    (∀ home partly layout t utc,
      Framed (utf8 partly).length (·.writeLayoutIn home partly layout t utc)
        (utf8 (layout.text home t utc))) ∧
    (∀ pattern, Time.items? pattern.toList = none → ∀ home t utc,
      (TimeLayout.custom pattern).text home t utc = t.nanosText) ∧
    (∀ (b : Buffer) home layout t utc,
      b.writeLayout home layout t utc = b.pushText (layout.text home t utc)) ∧
    ∀ (f : Buffer → Buffer.Result) (text : List UInt8), Framed slack f text →
      ∀ b d e c : Buffer, e.toList = [] → f e = .ok c → f b = .ok d →
        d.toList = b.toList ++ c.toList := by
  refine ⟨?_, ?_, ?_, ?_, ?_, ?_, ?_, ?_⟩
  · intro v hv
    exact ⟨JsonPainter.framed_writeValue v hv, TextPainter.framed_writeValue hv⟩
  · intro m mode part e hm hKept
    refine ⟨TextPainter.framed_writeMarshal hm hKept, ?_⟩
    rintro rfl
    exact JsonPainter.framed_writeMarshal hm hKept
  · intro α write text items hWrite
    exact TextPainter.framed_list hWrite items (by omega)
  · intro b d tail hd
    exact ⟨TextPainter.behind_quoteTail hd, JsonPainter.behind_escapeTail hd⟩
  · intro home partly layout t utc
    exact Buffer.framed_layoutIn (Nat.le_refl _) home layout t utc
  · intro pattern hNone home t utc
    rw [TimeLayout.text_custom hNone, TimeLayout.text_nanos]
  · intro b home layout t utc
    exact b.writeLayout_eq home layout t utc
  · intro f text hf b d e c hEmpty hAlone hHere
    exact hf.alone hEmpty hAlone hHere

/-! ## A value that fails -/

/-- A value that fails after it has opened an object. -/
def Marshal.faulty : Marshal :=
  ⟨0, fun _ b => (b.pushText "\x7b\"part\":").map (·, some (.other "no")), ""⟩

def Marshal.Output.faulty : Marshal.Output := ⟨utf8 "\x7b\"part\":", some (.other "no")⟩

theorem Marshal.appends_faulty (mode : FormatMode) :
    faulty.Appends 8 mode .faulty ∧ faulty.Retains mode := by
  have hPush (b : Buffer) : Behind 0 b (utf8 "\x7b\"part\":") (b.pushText "\x7b\"part\":") :=
    Framed.pushText _ b
  constructor
  · intro b
    have hGrows := (hPush b).grows
    unfold faulty
    dsimp only
    cases hResult : b.pushText "\x7b\"part\":" with
    | ok d =>
      rw [hResult] at hGrows
      cases hGrows with
      | ok hText => exact .ok hText
    | error fault =>
      rw [hResult] at hGrows
      cases hGrows with
      | full hCause hSize => exact .full hCause hSize
  · intro b fault hFault
    have hKept := (hPush b).kept
    unfold faulty at hFault
    dsimp only at hFault
    cases hResult : b.pushText "\x7b\"part\":" with
    | ok d =>
      rw [hResult] at hFault
      cases hFault
    | error other =>
      rw [hResult] at hFault hKept
      cases hFault
      exact hKept

theorem Value.encoders_framed_of_faulty :
    let output : FormatMode → Marshal → Marshal.Output := fun _ _ => .faulty
    let v : Value := .group [⟨"k", .marshal .faulty⟩]
    v.Leaves (Value.Appending 8 output) ∧
      Framed 8 (JsonPainter.writeValue v) (utf8 "\x7b\"k\":\"!ERROR:no\"\x7d") ∧
      Framed 8 (TextPainter.writeValue .logfmt (.marshal .faulty)) (utf8 "!ERROR:no") := by
  intro output v
  have hv : v.Leaves (Value.Appending 8 output) := ⟨Marshal.appends_faulty, trivial⟩
  obtain ⟨hValues, hFaults, -⟩ := Value.encoders_framed 8 output
  refine ⟨hv, (hValues v hv).1, ?_⟩
  obtain ⟨hAppends, hKept⟩ := Marshal.appends_faulty .logfmt
  exact (hFaults .faulty .logfmt _ _ hAppends hKept).1

/-- What fits into an empty buffer does not fit behind a full one. -/
theorem Value.writeValue_without_room : ∃ b : Buffer,
    (Buffer.Operation.pad Buffer.maxSize).run (.withCapacity Buffer.maxSize) = .ok b ∧
    (∃ c, JsonPainter.writeValue .null Buffer.new = .ok c ∧ c.toList = utf8 "null") ∧
    (∃ fault, JsonPainter.writeValue .null b = .error fault ∧
      fault.message = "buffer too large") ∧
    ¬ ∃ d, JsonPainter.writeValue .null b = .ok d ∧ d.toList = b.toList ++ utf8 "null" := by
  obtain ⟨b, hRun, hSize⟩ := Buffer.exists_full
  have hNull : JsonPainter.writeValue .null b = .error ⟨.tooLarge, b⟩ := by
    refine if_pos ?_
    have hFour : "null".toByteArray.size = 4 := rfl
    omega
  have hWrites : Writes 0 (JsonPainter.writeValue .null) (utf8 "null") := Writes.pushText "null"
  refine ⟨b, hRun, hWrites.completes (by decide), ⟨_, hNull, rfl⟩, ?_⟩
  rintro ⟨d, hOk, -⟩
  rw [hNull] at hOk
  cases hOk

end Logline
