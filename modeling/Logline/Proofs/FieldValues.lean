import Logline.Proofs.FieldReading
import Logline.Proofs.Leaves
import Logline.Proofs.TimeText

/-! # Values in fields

A value is written as it is where no reader could take it for something else, and quoted otherwise.
A list is quoted as a whole after it was written, and so is what a value writes of itself.
-/

namespace Logline

open Buffer (Writes Grows quotedText)
open Fields (Token isBare isWord)
open TextPainter (isDelimiter isKeyByte needsQuote)
open Text (utf8 lossy IsText Plain Bare)

def tokenText (bytes : List UInt8) : List UInt8 :=
  if needsQuote bytes then quotedText bytes else bytes

theorem isBare_of_isDelimiter {b : UInt8} (h : isDelimiter b = false) : isBare b = true := by
  simp only [isDelimiter, Bool.or_eq_false_iff, decide_eq_false_iff_not, beq_eq_false_iff_ne,
    UInt8.not_le] at h
  obtain ⟨⟨⟨⟨hSpace, hEquals⟩, hQuote⟩, hSlash⟩, hDelete⟩ := h
  simp [isBare, hSpace, hEquals, hQuote, hSlash, hDelete]

theorem token_of_needsQuote {bytes : List UInt8} (h : needsQuote bytes = false) :
    Token bytes bytes := by
  rw [needsQuote, Bool.or_eq_false_iff, List.isEmpty_eq_false_iff, List.any_eq_false] at h
  exact .bare h.1 fun b hb => isBare_of_isDelimiter (Bool.eq_false_iff.mpr (h.2 b hb))

theorem token_tokenText (bytes : List UInt8) : Token (tokenText bytes) bytes := by
  unfold tokenText
  split
  · exact .quoted bytes
  · rename_i h
    exact token_of_needsQuote (Bool.eq_false_iff.mpr h)

theorem isText_tokenText (s : String) : IsText (tokenText (utf8 s)) := by
  unfold tokenText
  split
  · exact Text.isText_quotedText s
  · exact Text.isText_utf8 s

theorem length_le_tokenText (bytes : List UInt8) : bytes.length ≤ (tokenText bytes).length := by
  unfold tokenText
  split
  · rw [Buffer.length_quotedText]
    exact (Buffer.length_le_escaped bytes).trans (Nat.le_add_right _ 2)
  · exact Nat.le_refl _

/-- What is read where any bytes were written: they themselves, or with the replacement character
in place of what is no character, if they have to be quoted. -/
def shownBytes (bytes : List UInt8) : List UInt8 :=
  if needsQuote (utf8 (lossy bytes)) then utf8 (lossy bytes) else bytes

def shownText (bytes : List UInt8) : List UInt8 :=
  if needsQuote (utf8 (lossy bytes)) then quotedText (utf8 (lossy bytes)) else bytes

/-- Replacing what is no character takes no delimiter away. -/
theorem needsQuote_of_lossy {bytes : List UInt8} (h : needsQuote (utf8 (lossy bytes)) = false) :
    needsQuote bytes = false := by
  rw [needsQuote, Bool.or_eq_false_iff, List.isEmpty_eq_false_iff, List.any_eq_false] at h ⊢
  refine ⟨fun hEmpty => h.1 (Text.utf8_lossy_eq_nil.mpr hEmpty), fun b hb hDelimiter => ?_⟩
  have hAscii : b < 0x80 := by
    simp only [isDelimiter, Bool.or_eq_true, decide_eq_true_eq, beq_iff_eq] at hDelimiter
    rcases hDelimiter with (((hSpace | rfl) | rfl) | rfl) | rfl
    · exact UInt8.lt_of_le_of_lt hSpace (by decide)
    all_goals decide
  exact h.2 b (Text.mem_utf8_lossy hAscii hb) hDelimiter

theorem token_shownText (bytes : List UInt8) : Token (shownText bytes) (shownBytes bytes) := by
  unfold shownText shownBytes
  split
  · exact .quoted _
  · rename_i h
    exact token_of_needsQuote (needsQuote_of_lossy (Bool.eq_false_iff.mpr h))

theorem shownText_utf8 (s : String) : shownText (utf8 s) = tokenText (utf8 s) := by
  rw [shownText, Text.lossy_utf8, tokenText]

/-! ## Texts without quotes -/

theorem isBare_of_bareChar {c : Char} (hc : Text.IsBareChar c) :
    isBare (UInt8.ofNat c.toNat) = true := by
  obtain ⟨⟨hLow, hQuote, hSlash, hDelete⟩, hAscii, hSpace, hEquals⟩ := hc
  have hNat : (UInt8.ofNat c.toNat).toNat = c.toNat := Text.toNat_ofNat (by omega)
  have hNe : ∀ b : UInt8, c.toNat ≠ b.toNat → UInt8.ofNat c.toNat ≠ b := by
    rintro b hb rfl
    exact hb hNat.symm
  have hAbove : (0x20 : UInt8) < UInt8.ofNat c.toNat := by
    rw [UInt8.lt_iff_toNat_lt, hNat]
    exact Nat.lt_of_le_of_ne hLow (Ne.symm hSpace)
  simp [isBare, hAbove, hNe 0x7f hDelete, hNe 0x3d hEquals, hNe 0x22 hQuote, hNe 0x5c hSlash]

theorem token_bare {s : String} (h : Bare s) (hNonempty : utf8 s ≠ []) :
    Token (utf8 s) (utf8 s) := by
  have hAscii : utf8 s = Text.asciiBytes s.toList := by
    rw [← String.ofList_toList (s := s), Text.utf8_ascii fun c hc => ?_, String.toList_ofList]
    exact (h c (by simpa using hc)).2.1
  refine .bare hNonempty fun b hb => ?_
  rw [hAscii] at hb
  obtain ⟨c, hc, rfl⟩ := List.mem_map.mp hb
  exact isBare_of_bareChar (h c hc)

theorem ne_nil_of_spells {text : List UInt8} {content : Json.Content}
    (h : Json.Spells text content) : text ≠ [] := by
  rintro rfl
  cases h.content?_eq

theorem token_int (n : Int) : Token (utf8 (toString n)) (utf8 (toString n)) :=
  token_bare (Text.bare_int n) (ne_nil_of_spells (Json.spells_int n))

theorem token_nat (n : Nat) : Token (utf8 (toString n)) (utf8 (toString n)) :=
  token_bare (Text.bare_nat n) (ne_nil_of_spells (Json.spells_nat n))

theorem FloatFormat.Known.token_text {f : FloatFormat} (hf : f.Known) {l : Decimal.Layout}
    (hl : l.Standard) (negative : Bool) (bits : Nat) :
    Token (utf8 (l.text f negative (f.decode bits)))
      (utf8 (l.text f negative (f.decode bits))) := by
  refine token_bare (hf.bare_text hl negative bits) ?_
  cases hMagnitude : f.decode bits with
  | nan =>
    rw [Decimal.Layout.text, hl.nan]
    decide
  | infinite =>
    rw [Decimal.Layout.text, hl.infinity]
    cases negative <;> decide
  | finite m q => exact ne_nil_of_spells (hf.spells_text l (.inl hl.plus) hMagnitude negative)

theorem token_double (x : Binary64) : Token (utf8 x.text) (utf8 x.text) :=
  FloatFormat.Known.double.token_text Decimal.Layout.standard_double _ _

theorem token_single (x : Binary32) : Token (utf8 x.text) (utf8 x.text) :=
  FloatFormat.Known.single.token_text Decimal.Layout.standard_single _ _

theorem token_complex (unsigned : Bool) {re im : String} (hRe : Bare re) (hIm : Bare im) :
    Token (utf8 (complexText unsigned re im)) (utf8 (complexText unsigned re im)) := by
  have hOpen : utf8 "(" = [0x28] := rfl
  refine token_bare (bare_complex unsigned hRe hIm) ?_
  simp [complexText, Text.utf8_append, hOpen]

theorem token_null : Token (utf8 "null") (utf8 "null") :=
  token_bare (Text.every_of_all (by decide)) (by decide)

theorem token_bool (b : Bool) : Token (utf8 (if b then "true" else "false"))
    (utf8 (if b then "true" else "false")) := by
  cases b with
  | true => exact token_bare (Text.every_of_all (by decide)) (by decide)
  | false => exact token_bare (Text.every_of_all (by decide)) (by decide)

/-! ## Values -/

def listBytes (items : List (List UInt8)) : List UInt8 := 0x5b :: (joined 0x2c true items ++ [0x5d])

def Marshal.Output.fieldBytes (out : Marshal.Output) : List UInt8 :=
  match out.failure with
  | some e => utf8 (errorMarker ++ e.message)
  | none => shownBytes out.text

def Marshal.Output.fieldText (out : Marshal.Output) : List UInt8 :=
  match out.failure with
  | some e => tokenText (utf8 (errorMarker ++ e.message))
  | none => shownText out.text

/-- Instants are valid, and what writes itself appends its text. -/
def Value.FieldLeaf (slack : Nat) (mode : FormatMode) (output : Marshal → Marshal.Output) :
    Value → Prop
  | .time t => t.Valid
  | .marshal m => m.Appends slack mode (output m)
  | _ => True

def Value.fieldBytes (output : Marshal → Marshal.Output) : Value → List UInt8
  | .null => utf8 "null"
  | .bool b => utf8 (if b then "true" else "false")
  | .int n => utf8 (toString n)
  | .uint n => utf8 (toString n)
  | .float x => utf8 x.text
  | .float32 x => utf8 x.text
  | .complex re im => utf8 (re.complexText im)
  | .complex32 re im => utf8 (re.complexText im)
  | .string s => utf8 s
  | .bytes data => utf8 (lossy data)
  | .duration d => utf8 d.text
  | .time t => utf8 t.nanosText
  | .strings items => listBytes (items.map fun s => tokenText (utf8 s))
  | .bools items => listBytes (items.map fun b => utf8 (if b then "true" else "false"))
  | .ints items => listBytes (items.map fun n => utf8 (toString n))
  | .floats items => listBytes (items.map fun x => utf8 x.text)
  | .json j => utf8 j.text
  | .marshal m => (output m).fieldBytes
  | .foreign f => utf8 f.debug
  | .group _ => []

/-- What is written for a value, with its quotes. -/
def Value.fieldText (output : Marshal → Marshal.Output) : Value → List UInt8
  | .string s => tokenText (utf8 s)
  | .bytes data => tokenText (utf8 (lossy data))
  | .duration d => 0x22 :: (utf8 d.text ++ [0x22])
  | .time t => 0x22 :: (utf8 t.nanosText ++ [0x22])
  | .strings items => tokenText (listBytes (items.map fun s => tokenText (utf8 s)))
  | .bools items => tokenText (listBytes (items.map fun b => utf8 (if b then "true" else "false")))
  | .ints items => tokenText (listBytes (items.map fun n => utf8 (toString n)))
  | .floats items => tokenText (listBytes (items.map fun x => utf8 x.text))
  | .json j => tokenText (utf8 j.text)
  | .marshal m => (output m).fieldText
  | .foreign f => tokenText (utf8 f.debug)
  | value => value.fieldBytes output

namespace TextPainter

variable {slack : Nat}

/-- A write whose text is read as `bytes`. -/
def Tokens (slack : Nat) (f : Buffer → Buffer.Result) (bytes : List UInt8) : Prop :=
  ∃ text, Writes slack f text ∧ Token text bytes

theorem writes_writeText (s : String) : Writes slack (writeText s) (tokenText (utf8 s)) := by
  intro b
  unfold writeText tokenText
  split
  · exact Writes.writeQuoted s b
  · exact Writes.pushText s b

theorem tokens_writeText (s : String) : Tokens slack (writeText s) (utf8 s) :=
  ⟨_, writes_writeText s, token_tokenText _⟩

theorem grows_quoteTail {b d : Buffer} {bytes : List UInt8} (hd : d.toList = b.toList ++ bytes) :
    Grows slack b (shownText bytes) (quoteTail d b.size) := by
  rw [quoteTail, Buffer.tail_of_append hd]
  show Grows slack b (shownText bytes) (if needsQuote (utf8 (lossy bytes)) then
    (d.truncate b.size).writeQuoted (lossy bytes) else .ok d)
  unfold shownText
  split
  · exact (Writes.writeQuoted _ _).of_toList (Buffer.truncate_of_append hd)
  · exact .ok hd

theorem writes_quoteTail {f : Buffer → Buffer.Result} {s : String} (hf : Writes slack f (utf8 s)) :
    Writes slack (fun b => f b >>= (quoteTail · b.size)) (tokenText (utf8 s)) := by
  intro b
  refine (hf b).replace (length_le_tokenText _) fun d hd => ?_
  rw [← shownText_utf8]
  exact grows_quoteTail hd

theorem writes_quoted {f : Buffer → Buffer.Result} {text : List UInt8} (hf : Writes slack f text) :
    Writes slack (quoted f) (0x22 :: (text ++ [0x22])) :=
  (Writes.pushByte 0x22).bind (hf.bind (Writes.pushByte 0x22))

theorem token_quoted {s : String} (hs : Plain s) :
    Token (0x22 :: (utf8 s ++ [0x22])) (utf8 s) := by
  have hToken := Token.quoted (utf8 s)
  rwa [quotedText, Text.escaped_of_plain hs] at hToken

theorem writes_items {α : Type} {write : α → Buffer → Buffer.Result} {text : α → List UInt8}
    (hWrite : ∀ x, Writes slack (write x) (text x)) (items : List α) :
    Writes slack (writeItems write items) (joined 0x2c false (items.map text) ++ [0x5d]) := by
  induction items with
  | nil => exact Writes.pushByte 0x5d
  | cons x r ih =>
    have hItems := (Writes.pushByte 0x2c).bind ((hWrite x).bind ih)
    rwa [← List.append_assoc (text x)] at hItems

def writeBrackets {α : Type} (write : α → Buffer → Buffer.Result) (items : List α) (b : Buffer) :
    Buffer.Result := do
  let b ← b.pushByte 0x5b
  match items with
  | [] => b.pushByte 0x5d
  | x :: r => (write x b).bind (writeItems write r)

theorem writeList_eq {α : Type} (write : α → Buffer → Buffer.Result) (items : List α) (b : Buffer) :
    writeList write items b = writeBrackets write items b >>= (quoteTail · b.size) := by
  unfold writeList writeBrackets
  cases items <;> rw [bind_assoc]

theorem writes_brackets {α : Type} {write : α → Buffer → Buffer.Result} {text : α → List UInt8}
    (hWrite : ∀ x, Writes slack (write x) (text x)) (items : List α) :
    Writes slack (writeBrackets write items) (listBytes (items.map text)) := by
  cases items with
  | nil => exact (Writes.pushByte 0x5b).bind (Writes.pushByte 0x5d)
  | cons x r =>
    have hItems := (Writes.pushByte 0x5b).bind ((hWrite x).bind (writes_items hWrite r))
    rwa [← List.append_assoc (text x)] at hItems

theorem isText_listBytes {α : Type} {text : α → List UInt8} (hText : ∀ x, IsText (text x))
    (items : List α) : IsText (listBytes (items.map text)) := by
  have hInside : IsText (joined 0x2c true (items.map text)) := by
    refine Text.isText_joined (by decide) (fun t ht => ?_) true
    obtain ⟨x, -, rfl⟩ := List.mem_map.mp ht
    exact hText x
  exact (Text.isText_utf8 "[").append (hInside.append (Text.isText_utf8 "]"))

theorem writes_writeList {α : Type} {write : α → Buffer → Buffer.Result} {text : α → List UInt8}
    (hWrite : ∀ x, Writes slack (write x) (text x)) (hText : ∀ x, IsText (text x))
    (items : List α) :
    Writes slack (writeList write items) (tokenText (listBytes (items.map text))) := by
  intro b
  obtain ⟨s, hs⟩ := isText_listBytes hText items
  have hBrackets := writes_brackets hWrite items
  rw [hs] at hBrackets ⊢
  rw [writeList_eq]
  exact writes_quoteTail hBrackets b

theorem writes_writeMarshal {m : Marshal} {mode : FormatMode} {out : Marshal.Output}
    (hm : m.Appends slack mode out) : Writes slack (writeMarshal m mode) out.fieldText := by
  intro b
  refine hm.grows fun d hd => ?_
  unfold Marshal.Output.fieldText
  cases out.failure with
  | some e => exact (writes_writeText _ _).of_toList (Buffer.truncate_of_append hd)
  | none => exact grows_quoteTail hd

theorem token_fieldText_marshal (out : Marshal.Output) : Token out.fieldText out.fieldBytes := by
  unfold Marshal.Output.fieldText Marshal.Output.fieldBytes
  cases out.failure with
  | some e => exact token_tokenText _
  | none => exact token_shownText _

theorem writes_writeValue {mode : FormatMode} {output : Marshal → Marshal.Output} {v : Value}
    (hGroup : v.isGroup = false) (hv : v.Leaves (Value.FieldLeaf slack mode output)) :
    Writes slack (writeValue mode v) (v.fieldText output) := by
  cases v with
  | null => exact Writes.pushText "null"
  | bool v => exact Writes.writeBool v
  | int n => exact Writes.writeInt n
  | uint n => exact Writes.writeNat n
  | float x => exact Writes.writeFloat x
  | float32 x => exact Writes.writeFloat32 x
  | complex re im => exact Writes.writeComplex re im
  | complex32 re im => exact Writes.writeComplex32 re im
  | string s => exact writes_writeText s
  | bytes data => exact writes_writeText _
  | duration d =>
    refine writes_quoted ?_
    rw [← utf8_duration]
    exact .writeDuration d
  | time t => exact writes_quoted (.writeTime t)
  | strings items => exact writes_writeList writes_writeText isText_tokenText items
  | bools items => exact writes_writeList Writes.writeBool (fun _ => Text.isText_utf8 _) items
  | ints items => exact writes_writeList Writes.writeInt (fun _ => Text.isText_utf8 _) items
  | floats items => exact writes_writeList Writes.writeFloat (fun _ => Text.isText_utf8 _) items
  | json j => exact writes_writeText _
  | marshal m => exact writes_writeMarshal hv
  | foreign f => exact writes_writeText _
  | group attrs => cases hGroup

theorem token_fieldText {mode : FormatMode} {output : Marshal → Marshal.Output} {v : Value}
    (hGroup : v.isGroup = false) (hv : v.Leaves (Value.FieldLeaf slack mode output)) :
    Token (v.fieldText output) (v.fieldBytes output) := by
  cases v with
  | null => exact token_null
  | bool v => exact token_bool v
  | int n => exact token_int n
  | uint n => exact token_nat n
  | float x => exact token_double x
  | float32 x => exact token_single x
  | complex re im => exact token_complex _ (bare_double re) (bare_double im)
  | complex32 re im => exact token_complex _ (bare_single re) (bare_single im)
  | duration d => exact token_quoted (plain_duration d)
  | time t => exact token_quoted (plain_nanosText hv)
  | marshal m => exact token_fieldText_marshal _
  | group attrs => cases hGroup
  | _ => exact token_tokenText _

end TextPainter

end Logline
