import Logline.Proofs.BufferLimit
import Logline.Proofs.PlainText

/-! # Framed writes

A write may look at what it has written, drop it and write it again. It is framed if none of this
reaches what stood in the buffer before: those bytes stay, also where the write is refused, and what
is put behind them is what the write puts into an empty buffer.
-/

namespace Logline.Buffer

open Text (utf8)

/-- A write that takes nothing away from what stands in a buffer, also where it is refused. -/
def Retains (f : Buffer → Result) : Prop := ∀ b : Buffer, b.toList <+: (left (f b)).toList

variable {slack : Nat} {f g : Buffer → Result} {text rest : List UInt8}

namespace Retains

theorem ok : Retains .ok := fun _ => List.prefix_refl _

theorem bind_of {b : Buffer} {x : Result} (hx : b.toList <+: (left x).toList)
    (hg : ∀ d, x = .ok d → b.toList <+: (left (g d)).toList) :
    b.toList <+: (left (x >>= g)).toList := by
  cases x with
  | error fault => exact hx
  | ok d => exact hg d rfl

theorem bind (hf : Retains f) (hg : Retains g) : Retains fun b => f b >>= g := by
  intro b
  refine bind_of (hf b) fun d hd => ?_
  have hFirst := hf b
  rw [hd] at hFirst
  exact hFirst.trans (hg d)

theorem push (chunk : ByteArray) : Retains (·.push chunk) := by
  intro b
  dsimp only
  unfold Buffer.push
  split
  · exact List.prefix_refl _
  · split <;> exact ⟨chunk.data.toList, by simp [left, toList]⟩

theorem pushText (s : String) : Retains (·.pushText s) := push _

theorem pushByte (byte : UInt8) : Retains (·.pushByte byte) := push _

theorem pushBytes (bytes : List UInt8) : Retains (·.pushBytes bytes) := push _

theorem pushPieces (pieces : List String) : Retains (·.pushPieces pieces) := by
  induction pieces with
  | nil => exact ok
  | cons s r ih => exact (pushText s).bind ih

theorem parts (hf : Retains f) (hg : Retains g) (unsigned : Bool) :
    Retains (fun b => do
      let b ← b.pushByte 0x28
      let b ← f b
      let b ← if unsigned then b.pushByte 0x2b else .ok b
      let b ← g b
      b.pushText "i)") := by
  have hEnd := hg.bind (pushText "i)")
  cases unsigned with
  | true => exact (pushByte 0x28).bind (hf.bind ((pushByte 0x2b).bind hEnd))
  | false => exact (pushByte 0x28).bind (hf.bind hEnd)

theorem writeEscapedFrom (run : ByteArray) (bytes : List UInt8) :
    Retains (·.writeEscapedFrom run bytes) := by
  induction bytes generalizing run with
  | nil => exact push run
  | cons byte r ih =>
    cases hEscape : escape? byte with
    | none => simpa only [Buffer.writeEscapedFrom, hEscape] using ih (run.push byte)
    | some escape =>
      simpa only [Buffer.writeEscapedFrom, hEscape] using
        (push run).bind ((pushBytes escape).bind (ih ByteArray.empty))

theorem writeEscaped (s : String) : Retains (·.writeEscaped s) := writeEscapedFrom _ _

theorem grow (n : Nat) : Retains (·.grow n) := by
  intro b
  dsimp only
  unfold Buffer.grow
  split
  · exact List.prefix_refl _
  · split <;> exact List.prefix_refl _

theorem pushUnchecked (byte : UInt8) : Retains fun b => .ok (b.pushUnchecked byte) := by
  intro b
  show b.toList <+: (b.pushUnchecked byte).toList
  rw [toList_pushUnchecked]
  exact List.prefix_append _ _

theorem writeQuoted (s : String) : Retains (·.writeQuoted s) :=
  (grow _).bind ((pushUnchecked 0x22).bind ((writeEscaped s).bind (pushUnchecked 0x22)))

end Retains

/-- The outcome of writing `text` behind a buffer, all of whose bytes stay. -/
structure Behind (slack : Nat) (b : Buffer) (text : List UInt8) (x : Result) : Prop where
  grows : Grows slack b text x
  kept : b.toList <+: (left x).toList

/-- A write that puts `text` behind what stands in a buffer, whatever that is. -/
def Framed (slack : Nat) (f : Buffer → Result) (text : List UInt8) : Prop :=
  ∀ b : Buffer, Behind slack b text (f b)

theorem Behind.of_toList {b d : Buffer} {x : Result} (h : Behind slack d text x)
    (hList : d.toList = b.toList) : Behind slack b text x :=
  ⟨h.grows.of_toList hList, hList ▸ h.kept⟩

/-- A text that is written and then replaced by another one, with room for the longer of both. -/
theorem Behind.replace {b : Buffer} {x : Result} {f : Buffer → Result} {raw : List UInt8}
    {more : Nat} (h : Behind slack b raw x) (hLength : raw.length + slack ≤ text.length + more)
    (hNext : ∀ d : Buffer, d.toList = b.toList ++ raw → Behind more b text (f d)) :
    Behind more b text (x >>= f) := by
  cases x with
  | error fault =>
    refine ⟨?_, h.kept⟩
    cases h.grows with
    | full hCause hFull => exact .full hCause (by omega)
  | ok d =>
    cases h.grows with
    | ok hText => exact hNext d hText

namespace Framed

/-- What stands in a buffer has no part in what is put behind it. -/
theorem alone (h : Framed slack f text) {b d e c : Buffer} (hEmpty : e.toList = [])
    (hAlone : f e = .ok c) (hHere : f b = .ok d) : d.toList = b.toList ++ c.toList := by
  have hText := (h e).grows
  have hBehind := (h b).grows
  rw [hAlone] at hText
  rw [hHere] at hBehind
  cases hText with
  | ok hText =>
    cases hBehind with
    | ok hBehind => rw [hBehind, hText, hEmpty, List.nil_append]

theorem of_writes (hWrites : Writes slack f text) (hRetains : Retains f) : Framed slack f text :=
  fun b => ⟨hWrites b, hRetains b⟩

theorem writes (h : Framed slack f text) : Writes slack f text := fun b => (h b).grows

theorem retains (h : Framed slack f text) : Retains f := fun b => (h b).kept

theorem nil : Framed slack .ok [] := of_writes .nil .ok

theorem bind (hf : Framed slack f text) (hg : Framed slack g rest) :
    Framed slack (fun b => f b >>= g) (text ++ rest) :=
  of_writes (hf.writes.bind hg.writes) (hf.retains.bind hg.retains)

theorem pushText (s : String) : Framed slack (·.pushText s) (utf8 s) :=
  of_writes (.pushText s) (.pushText s)

theorem pushByte (byte : UInt8) : Framed slack (·.pushByte byte) [byte] :=
  of_writes (.pushByte byte) (.pushByte byte)

theorem pushPieces (pieces : List String) :
    Framed slack (·.pushPieces pieces) (pieces.flatMap utf8) :=
  of_writes (.pushPieces pieces) (.pushPieces pieces)

theorem writeEscaped (s : String) : Framed slack (·.writeEscaped s) (escaped (utf8 s)) :=
  of_writes (.writeEscaped s) (.writeEscaped s)

theorem writeQuoted (s : String) : Framed slack (·.writeQuoted s) (quotedText (utf8 s)) :=
  of_writes (.writeQuoted s) (.writeQuoted s)

theorem writeComplex (re im : Binary64) :
    Framed slack (·.writeComplex re im) (utf8 (re.complexText im)) :=
  of_writes (.writeComplex re im) (.parts (.pushText _) (.pushText _) _)

theorem writeComplex32 (re im : Binary32) :
    Framed slack (·.writeComplex32 re im) (utf8 (re.complexText im)) :=
  of_writes (.writeComplex32 re im) (.parts (.pushText _) (.pushText _) _)

/-- A text between quotes that needs no escapes. -/
theorem enclosed (hf : Framed slack f text) : Framed slack (fun b => do
    let b ← b.pushByte 0x22
    let b ← f b
    b.pushByte 0x22) (0x22 :: (text ++ [0x22])) :=
  (pushByte 0x22).bind (hf.bind (pushByte 0x22))

theorem writeDuration (d : Duration) : Framed slack (·.writeDuration d) (utf8 d.text) := by
  rw [← utf8_duration]
  exact pushPieces d.pieces

end Framed

/-- A buffer that is filled up to the limit. -/
theorem exists_full : ∃ b : Buffer,
    (Operation.pad maxSize).run (withCapacity maxSize) = .ok b ∧ b.size = maxSize := by
  have hPad := (Operation.pad maxSize).decided (b := withCapacity maxSize) (Nat.min_le_right _ _) id
  obtain ⟨b, hRun, hText⟩ := hPad.2
    (by simp [Operation.demand, Operation.added, size, withCapacity])
  refine ⟨b, hRun, ?_⟩
  rw [size_eq_length, hText]
  simp [Operation.content, Operation.added, toList, withCapacity]

end Logline.Buffer
