import Logline.Proofs.Utf8Text
import Logline.Render.Painters

/-! # Appending writes

A write appends its text to a buffer, or there was no room for it. Texts of writes one after the
other are put behind one another, and what is quoted again or dropped after it was written needs
room while it stands there, which is the slack of a write.
-/

namespace Logline

/-- Texts with a separator before each, the first one of a line apart. -/
def joined (separator : UInt8) (first : Bool) : List (List UInt8) → List UInt8
  | [] => []
  | text :: r => (if first then text else separator :: text) ++ joined separator false r

theorem joined_append (separator : UInt8) (first : Bool) (xs ys : List (List UInt8)) :
    joined separator first (xs ++ ys) =
      joined separator first xs ++ joined separator (first && xs.isEmpty) ys := by
  induction xs generalizing first with
  | nil => simp [joined]
  | cons x r ih => simp [joined, ih]

theorem joined_false (separator : UInt8) (texts : List (List UInt8)) :
    joined separator false texts = texts.flatMap (separator :: ·) := by
  induction texts with
  | nil => rfl
  | cons text r ih =>
    rw [joined, ih]
    rfl

theorem notMem_joined {separator b : UInt8} (hb : b ≠ separator) {texts : List (List UInt8)}
    (h : ∀ text ∈ texts, b ∉ text) (first : Bool) : b ∉ joined separator first texts := by
  induction texts generalizing first with
  | nil => exact List.not_mem_nil
  | cons text r ih =>
    have hText := h text List.mem_cons_self
    have hRest := ih (fun t ht => h t (List.mem_cons_of_mem _ ht)) false
    cases first <;> simp [joined, hText, hRest, hb]

theorem forall_of_forall₂ {α β : Type} {R : α → β → Prop} {P : α → Prop} {xs : List α} {ys : List β}
    (h : List.Forall₂ R xs ys) (hR : ∀ x y, R x y → P x) : ∀ x ∈ xs, P x := by
  induction h with
  | nil => simp
  | cons hHead _ ih => simpa using ⟨hR _ _ hHead, ih⟩

/-- Two parts in parentheses, with a plus before the second one if it has no sign. -/
def complexText (unsigned : Bool) (re im : String) : String :=
  "(" ++ re ++ (if unsigned then "+" else "") ++ im ++ "i)"

def Binary64.complexText (re im : Binary64) : String :=
  Logline.complexText ((!im.isNegative && im.isFinite) || im.isNaN) re.text im.text

def Binary32.complexText (re im : Binary32) : String :=
  Logline.complexText ((!im.isNegative && im.isFinite) || im.isNaN) re.text im.text

namespace Buffer

open Text (utf8 lossy)

theorem size_eq_length (b : Buffer) : b.size = b.toList.length := rfl

theorem toList_truncate (b : Buffer) (n : Nat) : (b.truncate n).toList = b.toList.take n := by
  unfold truncate
  split
  · simp [toList, ByteArray.data_extract, Array.toList_extract]
  · rw [List.take_of_length_le]
    rw [← size_eq_length]
    omega

theorem toList_pushUnchecked (b : Buffer) (byte : UInt8) :
    (b.pushUnchecked byte).toList = b.toList ++ [byte] := by
  unfold pushUnchecked
  split <;> simp [toList, ByteArray.data_push]

theorem toList_fill (byte : UInt8) (n : Nat) (chunk : ByteArray) :
    (fill byte n chunk).data.toList = chunk.data.toList ++ List.replicate n byte := by
  induction n generalizing chunk with
  | zero => exact (List.append_nil _).symm
  | succ n ih => rw [fill, ih, ByteArray.data_push, Array.toList_push, List.append_assoc,
      List.singleton_append, List.replicate_succ]

/-- The outcome of writing `text` behind a buffer: it stands there, or there was no room for it and
`slack` more bytes. -/
inductive Grows (slack : Nat) (b : Buffer) (text : List UInt8) : Result → Prop
  | ok {d : Buffer} : d.toList = b.toList ++ text → Grows slack b text (.ok d)
  | full {fault : Fault} : fault.cause = .tooLarge →
      maxSize < b.size + text.length + slack → Grows slack b text (.error fault)

/-- A write that appends `text` to every buffer with room for it. -/
def Writes (slack : Nat) (f : Buffer → Result) (text : List UInt8) : Prop :=
  ∀ b : Buffer, Grows slack b text (f b)

variable {slack : Nat}

theorem Grows.bind {b : Buffer} {x : Result} {f : Buffer → Result} {text rest : List UInt8}
    (h : Grows slack b text x)
    (hNext : ∀ d : Buffer, d.toList = b.toList ++ text → Grows slack d rest (f d)) :
    Grows slack b (text ++ rest) (x >>= f) := by
  cases h with
  | full hCause hSize =>
    refine .full hCause ?_
    rw [List.length_append]
    omega
  | @ok d hText =>
    have hLength : d.size = b.size + text.length := by
      rw [size_eq_length, hText, List.length_append, size_eq_length]
    show Grows slack b (text ++ rest) (f d)
    have hRest := hNext d hText
    cases hResult : f d with
    | ok e =>
      rw [hResult] at hRest
      cases hRest with
      | ok hRest => exact .ok (by rw [hRest, hText, List.append_assoc])
    | error fault =>
      rw [hResult] at hRest
      cases hRest with
      | full hCause hSize =>
        refine .full hCause ?_
        rw [List.length_append]
        omega

namespace Writes

theorem bind {f g : Buffer → Result} {text rest : List UInt8} (hf : Writes slack f text)
    (hg : Writes slack g rest) : Writes slack (fun b => f b >>= g) (text ++ rest) :=
  fun b => (hf b).bind fun d _ => hg d

theorem nil : Writes slack .ok [] := fun _ => .ok (List.append_nil _).symm

theorem push (chunk : ByteArray) : Writes slack (·.push chunk) chunk.data.toList := by
  intro b
  show Grows slack b chunk.data.toList (b.push chunk)
  unfold Buffer.push
  split
  · refine .full rfl ?_
    have hLength : chunk.data.toList.length = chunk.size := Array.length_toList
    omega
  · split <;> exact .ok (by simp [toList])

theorem pushText (s : String) : Writes slack (·.pushText s) (utf8 s) := push s.toByteArray

theorem pushByte (byte : UInt8) : Writes slack (·.pushByte byte) [byte] := push _

theorem pushBytes (bytes : List UInt8) : Writes slack (·.pushBytes bytes) bytes := push _

theorem pushPieces (pieces : List String) :
    Writes slack (·.pushPieces pieces) (pieces.flatMap utf8) := by
  induction pieces with
  | nil => exact nil
  | cons s r ih => exact (pushText s).bind ih

theorem pad (n : Nat) : Writes slack (·.pad n) (List.replicate n 0x20) := by
  intro b
  have hFill : (fill 0x20 n ByteArray.empty).data.toList = List.replicate n 0x20 := toList_fill ..
  show Grows slack b (List.replicate n 0x20) (b.pad n)
  unfold Buffer.pad
  split
  · exact .full rfl (by rw [List.length_replicate]; omega)
  · rw [← hFill]
    exact push _ b

end Writes

/-- What stands for a byte in an escaped text. -/
inductive Escape : UInt8 → List UInt8 → Prop
  | quote : Escape 0x22 (utf8 "\\\"")
  | slash : Escape 0x5c (utf8 "\\\\")
  | lineFeed : Escape 0x0a (utf8 "\\n")
  | carriageReturn : Escape 0x0d (utf8 "\\r")
  | tab : Escape 0x09 (utf8 "\\t")
  | numbered {b : UInt8} : b < 0x20 ∨ b = 0x7f → b ≠ 0x0a → b ≠ 0x0d → b ≠ 0x09 →
    Escape b (utf8 "\\u00" ++ [hexByte (b.toNat / 16), hexByte (b.toNat % 16)])
  | plain {b : UInt8} : 0x20 ≤ b → b ≠ 0x7f → b ≠ 0x22 → b ≠ 0x5c → Escape b [b]

/-- The cases are those of the escapes. -/
theorem escape_getD (b : UInt8) : Escape b ((escape? b).getD [b]) := by
  unfold escape?
  split_ifs with hQuote hSlash hFeed hReturn hTab hControl
  · subst hQuote
    exact .quote
  · subst hSlash
    exact .slash
  · subst hFeed
    exact .lineFeed
  · subst hReturn
    exact .carriageReturn
  · subst hTab
    exact .tab
  · exact .numbered hControl hFeed hReturn hTab
  · push Not at hControl
    exact .plain (UInt8.not_lt.mp hControl.1) hControl.2 hQuote hSlash

theorem Escape.length_pos {b : UInt8} {piece : List UInt8} (h : Escape b piece) :
    0 < piece.length := by
  cases h <;> exact Nat.succ_pos _

def escaped (bytes : List UInt8) : List UInt8 := bytes.flatMap fun b => (escape? b).getD [b]

def quotedText (bytes : List UInt8) : List UInt8 := 0x22 :: (escaped bytes ++ [0x22])

theorem escaped_cons (b : UInt8) (r : List UInt8) :
    escaped (b :: r) = (escape? b).getD [b] ++ escaped r := rfl

theorem length_le_escaped (bytes : List UInt8) : bytes.length ≤ (escaped bytes).length := by
  induction bytes with
  | nil => exact Nat.le_refl _
  | cons b r ih =>
    have hOne := (escape_getD b).length_pos
    rw [escaped_cons, List.length_cons, List.length_append]
    omega

theorem length_quotedText (bytes : List UInt8) :
    (quotedText bytes).length = (escaped bytes).length + 2 := by
  simp [quotedText]

namespace Writes

theorem writeEscapedFrom (run : ByteArray) (bytes : List UInt8) :
    Writes slack (·.writeEscapedFrom run bytes) (run.data.toList ++ escaped bytes) := by
  induction bytes generalizing run with
  | nil => simpa [escaped, Buffer.writeEscapedFrom] using push run
  | cons b r ih =>
    cases hEscape : escape? b with
    | none =>
      have hRun := ih (run.push b)
      simpa [Buffer.writeEscapedFrom, hEscape, escaped_cons, ByteArray.data_push] using hRun
    | some escape =>
      have hRest : Writes slack (fun d => d.writeEscapedFrom ByteArray.empty r) (escaped r) :=
        ih ByteArray.empty
      simpa [Buffer.writeEscapedFrom, hEscape, escaped_cons] using
        (push run).bind ((pushBytes escape).bind hRest)

theorem writeEscaped (s : String) : Writes slack (·.writeEscaped s) (escaped (utf8 s)) :=
  writeEscapedFrom ByteArray.empty (utf8 s)

theorem writeQuoted (s : String) : Writes slack (·.writeQuoted s) (quotedText (utf8 s)) := by
  intro b
  have hBytes : s.utf8ByteSize = (utf8 s).length := rfl
  have hLength := length_quotedText (utf8 s)
  have hEscaped := length_le_escaped (utf8 s)
  show Grows slack b (quotedText (utf8 s)) (b.writeQuoted s)
  unfold Buffer.writeQuoted Buffer.grow
  split
  · exact .full rfl (by omega)
  have hFilled : ∀ d : Buffer, d.toList = b.toList → Grows slack b (quotedText (utf8 s))
      ((d.pushUnchecked 0x22).writeEscaped s >>= fun d => .ok (d.pushUnchecked 0x22)) := by
    intro d hd
    have hOpen := toList_pushUnchecked d 0x22
    have hSize : (d.pushUnchecked 0x22).size = b.size + 1 := by
      rw [size_eq_length, hOpen, hd, size_eq_length]
      simp
    have hInside : Grows slack (d.pushUnchecked 0x22) (escaped (utf8 s))
        ((d.pushUnchecked 0x22).writeEscaped s) := writeEscaped s _
    cases hResult : (d.pushUnchecked 0x22).writeEscaped s with
    | ok e =>
      rw [hResult] at hInside
      cases hInside with
      | ok hText =>
        refine .ok ?_
        rw [toList_pushUnchecked, hText, hOpen, hd]
        simp [quotedText]
    | error fault =>
      rw [hResult] at hInside
      cases hInside with
      | full hCause hFull => exact .full hCause (by omega)
  split
  · exact hFilled b rfl
  · exact hFilled _ rfl

theorem writeBool (v : Bool) :
    Writes slack (·.writeBool v) (utf8 (if v then "true" else "false")) := pushText _

theorem writeInt (n : Int) : Writes slack (·.writeInt n) (utf8 (toString n)) := pushText _

theorem writeNat (n : Nat) : Writes slack (·.writeNat n) (utf8 (toString n)) := pushText _

theorem writeFloat (x : Binary64) : Writes slack (·.writeFloat x) (utf8 x.text) := pushText _

theorem writeFloat32 (x : Binary32) : Writes slack (·.writeFloat32 x) (utf8 x.text) := pushText _

theorem writeDuration (d : Duration) : Writes slack (·.writeDuration d) (d.pieces.flatMap utf8) :=
  pushPieces _

theorem writeTime (t : Instant) : Writes slack (·.writeTime t) (utf8 t.nanosText) := pushText _

theorem writeLayout (home : Zone) (layout : TimeLayout) (t : Instant) (utc : Bool) :
    Writes slack (·.writeLayout home layout t utc) (utf8 (layout.text home t utc)) := by
  intro b
  dsimp only
  rw [writeLayout_eq]
  exact pushText _ b

theorem parts {f g : Buffer → Result} {re im : String} (hf : Writes slack f (utf8 re))
    (hg : Writes slack g (utf8 im)) (unsigned : Bool) :
    Writes slack (fun b => do
      let b ← b.pushByte 0x28
      let b ← f b
      let b ← if unsigned then b.pushByte 0x2b else .ok b
      let b ← g b
      b.pushText "i)") (utf8 (complexText unsigned re im)) := by
  have hEnd := hg.bind (pushText "i)")
  have hOpen : utf8 "(" = [0x28] := rfl
  have hPlus : utf8 "+" = [0x2b] := rfl
  cases unsigned with
  | true =>
    have hWrite := (pushByte 0x28).bind (hf.bind ((pushByte 0x2b).bind hEnd))
    simpa [complexText, Text.utf8_append, hOpen, hPlus] using hWrite
  | false =>
    have hWrite := (pushByte 0x28).bind (hf.bind (nil.bind hEnd))
    simpa [complexText, Text.utf8_append, hOpen] using hWrite

theorem writeComplex (re im : Binary64) :
    Writes slack (·.writeComplex re im) (utf8 (re.complexText im)) :=
  parts (writeFloat re) (writeFloat im) _

theorem writeComplex32 (re im : Binary32) :
    Writes slack (·.writeComplex32 re im) (utf8 (re.complexText im)) :=
  parts (writeFloat32 re) (writeFloat32 im) _

/-- There is room in an empty buffer. -/
theorem completes {f : Buffer → Result} {text : List UInt8} (h : Writes 0 f text)
    (hSize : text.length ≤ maxSize) : ∃ d, f Buffer.new = .ok d ∧ d.toList = text := by
  have hWrite := h Buffer.new
  cases hResult : f Buffer.new with
  | ok d =>
    rw [hResult] at hWrite
    cases hWrite with
    | ok hText => exact ⟨d, rfl, hText⟩
  | error fault =>
    rw [hResult] at hWrite
    cases hWrite with
    | full _ hFull =>
      have hEmpty : Buffer.new.size = 0 := rfl
      omega

end Writes

/-! ## Writing again -/

/-- A text that is written and then replaced by another one that is no shorter. -/
theorem Grows.replace {b : Buffer} {x : Result} {f : Buffer → Result} {raw text : List UInt8}
    (h : Grows slack b raw x) (hLength : raw.length ≤ text.length)
    (hNext : ∀ d : Buffer, d.toList = b.toList ++ raw → Grows slack b text (f d)) :
    Grows slack b text (x >>= f) := by
  cases h with
  | ok hText => exact hNext _ hText
  | full hCause hSize => exact .full hCause (by omega)

theorem Grows.of_toList {b d : Buffer} {x : Result} {text : List UInt8}
    (h : Grows slack d text x) (hList : d.toList = b.toList) : Grows slack b text x := by
  have hSize : d.size = b.size := congrArg List.length hList
  cases h with
  | ok hText => exact .ok (by rw [hText, hList])
  | full hCause hFull => exact .full hCause (by omega)

theorem tail_of_append {b d : Buffer} {text : List UInt8} (h : d.toList = b.toList ++ text) :
    d.tail b.size = .ok text := by
  have hSize : ¬ d.size < b.size := by
    rw [size_eq_length, size_eq_length, h, List.length_append]
    omega
  rw [tail, if_neg hSize, h, size_eq_length, List.drop_left]

theorem truncate_of_append {b d : Buffer} {text : List UInt8} (h : d.toList = b.toList ++ text) :
    (d.truncate b.size).toList = b.toList := by
  rw [toList_truncate, h, size_eq_length, List.take_left]

end Buffer

/-! ## Values that write themselves -/

/-- What a value that writes itself says in a format: a text, and the error if it fails. -/
structure Marshal.Output where
  text : List UInt8
  failure : Option LogError

/-- The outcome of a value that writes itself behind a buffer and asks for `slack` bytes. -/
inductive Marshal.Outcome (slack : Nat) (b : Buffer) (out : Marshal.Output) :
    Except Buffer.Fault (Buffer × Option LogError) → Prop
  | ok {d : Buffer} : d.toList = b.toList ++ out.text → Outcome slack b out (.ok (d, out.failure))
  | full {fault : Buffer.Fault} : fault.cause = .tooLarge → Buffer.maxSize < b.size + slack →
      Outcome slack b out (.error fault)

/-- A value that appends its text in a format, whatever stands before it. -/
def Marshal.Appends (m : Marshal) (slack : Nat) (mode : FormatMode) (out : Marshal.Output) : Prop :=
  ∀ b : Buffer, Marshal.Outcome slack b out (m.write mode b)

theorem Marshal.Appends.grows {m : Marshal} {slack : Nat} {mode : FormatMode} {out : Marshal.Output}
    (hm : m.Appends slack mode out) {b : Buffer} {text : List UInt8}
    {f : Buffer × Option LogError → Buffer.Result}
    (hNext : ∀ d : Buffer, d.toList = b.toList ++ out.text →
      Buffer.Grows slack b text (f (d, out.failure))) :
    Buffer.Grows slack b text (m.write mode b >>= f) := by
  cases hResult : m.write mode b with
  | ok x =>
    have hOutcome := hm b
    rw [hResult] at hOutcome
    cases hOutcome with
    | ok hText => exact hNext _ hText
  | error fault =>
    have hOutcome := hm b
    rw [hResult] at hOutcome
    cases hOutcome with
    | full hCause hFull => exact .full hCause (by omega)

def Marshal.pair : Marshal := ⟨0, fun _ b => (b.pushText "[3,4]").map (·, none), ""⟩

def Marshal.Output.pair : Marshal.Output := ⟨Text.utf8 "[3,4]", none⟩

theorem Marshal.appends_pair (mode : FormatMode) : pair.Appends 5 mode .pair := by
  intro b
  have hPush : Buffer.Grows 0 b (Text.utf8 "[3,4]") (b.pushText "[3,4]") :=
    Buffer.Writes.pushText "[3,4]" b
  unfold pair
  dsimp only
  cases hResult : b.pushText "[3,4]" with
  | ok d =>
    rw [hResult] at hPush
    cases hPush with
    | ok hText => exact .ok hText
  | error fault =>
    rw [hResult] at hPush
    cases hPush with
    | full hCause hSize => exact .full hCause hSize

end Logline
