import Logline.Json.Basic
import Logline.Time.Layout

/-! # Render buffers

A buffer holds the bytes of a line under construction. It only grows: when room is missing, the
capacity doubles with the requested headroom on top, within a limit that no write may pass. What a
write leaves behind is its text appended to the bytes; the capacity depends on the pieces in which
the text is pushed.
-/

namespace Logline

structure Buffer where
  bytes : ByteArray
  capacity : Nat
  size_le : bytes.size ≤ capacity

namespace Buffer

/-- No buffer grows past this many bytes. -/
def maxSize : Nat := Nat.pow 2 30

def initialCapacity : Nat := 512

def withCapacity (capacity : Nat) : Buffer := ⟨ByteArray.empty, min capacity maxSize, Nat.zero_le _⟩

def unallocated : Buffer := withCapacity 0

def new : Buffer := withCapacity initialCapacity

instance : Inhabited Buffer := ⟨unallocated⟩

def size (b : Buffer) : Nat := b.bytes.size

def toList (b : Buffer) : List UInt8 := b.bytes.data.toList

def isEmpty (b : Buffer) : Bool := b.size == 0

def reset (b : Buffer) : Buffer := ⟨ByteArray.empty, b.capacity, Nat.zero_le _⟩

def truncate (b : Buffer) (n : Nat) : Buffer :=
  if n < b.size then
    ⟨b.bytes.extract 0 n, b.capacity, by
      have := b.size_le
      simp only [ByteArray.size_extract]
      omega⟩
  else b

inductive FaultCause where
  /-- A write would pass the limit. -/
  | tooLarge
  /-- What was written from a mark on is asked for, and fewer bytes than that are left. -/
  | markLost (mark size : Nat)
  deriving DecidableEq, Repr, Inhabited

/-- What ends the work on a line, and the buffer as it stood. -/
structure Fault where
  cause : FaultCause
  buffer : Buffer
  deriving Inhabited

def Fault.message (fault : Fault) : String :=
  match fault.cause with
  | .tooLarge => "buffer too large"
  | .markLost mark size =>
    "range start index " ++ toString mark ++ " out of range for slice of length " ++ toString size

abbrev Result := Except Fault Buffer

/-- The bytes from `mark` on, unless the buffer has shrunk below it. -/
def tail (b : Buffer) (mark : Nat) : Except Fault (List UInt8) :=
  if b.size < mark then .error ⟨.markLost mark b.size, b⟩ else .ok (b.toList.drop mark)

/-- The capacity that `n` more bytes ask for, when they do not fit. -/
def target (b : Buffer) (n : Nat) : Nat := max (b.size + n) (min (b.capacity * 2 + n) maxSize)

def grow (b : Buffer) (n : Nat) : Result :=
  if maxSize < b.size + n then .error ⟨.tooLarge, b⟩
  else if b.size + n ≤ b.capacity then .ok b
  else .ok ⟨b.bytes, b.target n, Nat.le_trans (Nat.le_add_right _ n) (Nat.le_max_left _ _)⟩

def push (b : Buffer) (chunk : ByteArray) : Result :=
  if maxSize < b.size + chunk.size then .error ⟨.tooLarge, b⟩
  else if h : b.size + chunk.size ≤ b.capacity then
    .ok ⟨b.bytes ++ chunk, b.capacity, by rw [ByteArray.size_append]; exact h⟩
  else
    .ok ⟨b.bytes ++ chunk, b.target chunk.size, by
      rw [ByteArray.size_append]; exact Nat.le_max_left _ _⟩

def pushText (b : Buffer) (s : String) : Result := b.push s.toByteArray

def pushByte (b : Buffer) (byte : UInt8) : Result := b.push ⟨#[byte]⟩

def pushBytes (b : Buffer) (bytes : List UInt8) : Result := b.push ⟨bytes.toArray⟩

def pushPieces (b : Buffer) : List String → Result
  | [] => .ok b
  | s :: r => (b.pushText s).bind fun b => b.pushPieces r

/-- A chunk with a byte put behind it `n` times. -/
def fill (byte : UInt8) : Nat → ByteArray → ByteArray
  | 0, chunk => chunk
  | n + 1, chunk => fill byte n (chunk.push byte)

theorem size_fill (byte : UInt8) (n : Nat) (chunk : ByteArray) :
    (fill byte n chunk).size = chunk.size + n := by
  induction n generalizing chunk with
  | zero => rfl
  | succ n ih => rw [fill, ih, ByteArray.size_push]; omega

def pad (b : Buffer) (n : Nat) : Result :=
  if maxSize < b.size + n then .error ⟨.tooLarge, b⟩ else b.push (fill 0x20 n ByteArray.empty)

/-- The smallest capacity that `pushUnchecked` allocates. -/
def leastCapacity : Nat := 8

/-- Appends a byte past the limit if need be; a full buffer doubles. -/
def pushUnchecked (b : Buffer) (byte : UInt8) : Buffer :=
  if h : b.size < b.capacity then
    ⟨b.bytes.push byte, b.capacity, by rw [ByteArray.size_push]; exact h⟩
  else
    ⟨b.bytes.push byte, max (max (b.capacity * 2) leastCapacity) (b.size + 1), by
      rw [ByteArray.size_push]; exact Nat.le_max_right _ _⟩

/-! ## Encoders -/

def writeBool (b : Buffer) (v : Bool) : Result := b.pushText (if v then "true" else "false")

def writeInt (b : Buffer) (n : Int) : Result := b.pushText (toString n)

def writeNat (b : Buffer) (n : Nat) : Result := b.pushText (toString n)

def writeFloat (b : Buffer) (x : Binary64) : Result := b.pushText x.text

def writeFloat32 (b : Buffer) (x : Binary32) : Result := b.pushText x.text

/-- Real and imaginary part, the latter with exactly one sign. -/
def writeComplex (b : Buffer) (re im : Binary64) : Result := do
  let b ← b.pushByte 0x28
  let b ← b.writeFloat re
  let b ← if (!im.isNegative && im.isFinite) || im.isNaN then b.pushByte 0x2b else .ok b
  let b ← b.writeFloat im
  b.pushText "i)"

def writeComplex32 (b : Buffer) (re im : Binary32) : Result := do
  let b ← b.pushByte 0x28
  let b ← b.writeFloat32 re
  let b ← if (!im.isNegative && im.isFinite) || im.isNaN then b.pushByte 0x2b else .ok b
  let b ← b.writeFloat32 im
  b.pushText "i)"

def writeDuration (b : Buffer) (d : Duration) : Result := b.pushPieces d.pieces

def writeTime (b : Buffer) (t : Instant) : Result := b.pushText t.nanosText

def hexByte (n : Nat) : UInt8 := if n < 10 then UInt8.ofNat (48 + n) else UInt8.ofNat (87 + n)

def escape? (byte : UInt8) : Option (List UInt8) :=
  if byte = 0x22 then some [0x5c, 0x22]
  else if byte = 0x5c then some [0x5c, 0x5c]
  else if byte = 0x0a then some [0x5c, 0x6e]
  else if byte = 0x0d then some [0x5c, 0x72]
  else if byte = 0x09 then some [0x5c, 0x74]
  else if byte < 0x20 ∨ byte = 0x7f then
    some [0x5c, 0x75, 0x30, 0x30, hexByte (byte.toNat / 16), hexByte (byte.toNat % 16)]
  else none

/-- Appends `run`, which needs no escape, and the rest of a text with escapes. -/
def writeEscapedFrom (b : Buffer) (run : ByteArray) : List UInt8 → Result
  | [] => b.push run
  | byte :: r =>
    match escape? byte with
    | none => b.writeEscapedFrom (run.push byte) r
    | some escape => do
      let b ← b.push run
      let b ← b.pushBytes escape
      b.writeEscapedFrom ByteArray.empty r

def writeEscaped (b : Buffer) (s : String) : Result :=
  b.writeEscapedFrom ByteArray.empty (Text.utf8 s)

def writeQuoted (b : Buffer) (s : String) : Result := do
  let b ← b.grow (s.utf8ByteSize + 2)
  let b ← (b.pushUnchecked 0x22).writeEscaped s
  return b.pushUnchecked 0x22

/-- Writes an instant at a place in the zone `home`. What a pattern without a text has left behind
the mark is cut off before the finest date is written. -/
def writeLayoutIn (home : Zone) (left : String) (b : Buffer) (layout : TimeLayout) (t : Instant)
    (utc : Bool) : Result :=
  match layout with
  | .unix => b.writeInt t.seconds
  | .unixMillis => b.writeInt t.millis
  | .unixMicros => b.writeInt t.micros
  | _ =>
    let mark := b.size
    match (layout.pattern? utc).bind (Time.patternText? · t (home.ofFlag utc)) with
    | some s => b.pushText s
    | none => (b.pushText left).bind fun b => (b.truncate mark).writeTime t

/-- A pattern becomes a text before any of it is written, so one without a text leaves nothing. -/
def writeLayout (home : Zone) (b : Buffer) (layout : TimeLayout) (t : Instant) (utc : Bool) :
    Result :=
  b.writeLayoutIn home "" layout t utc

section

variable {home : Zone} {left : String} {layout : TimeLayout} {t : Instant} {utc : Bool}

theorem writeLayoutIn_of_text {s : String} (hNumeric : ¬ layout.isNumeric)
    (hText : (layout.pattern? utc).bind (Time.patternText? · t (home.ofFlag utc)) = some s)
    (b : Buffer) : b.writeLayoutIn home left layout t utc = b.pushText s := by
  cases layout with
  | unix | unixMillis | unixMicros => exact absurd rfl hNumeric
  | _ =>
    unfold writeLayoutIn
    rw [hText]

theorem writeLayoutIn_of_none (hNumeric : ¬ layout.isNumeric)
    (hText : (layout.pattern? utc).bind (Time.patternText? · t (home.ofFlag utc)) = none)
    (b : Buffer) : b.writeLayoutIn home left layout t utc =
      (b.pushText left).bind fun d => (d.truncate b.size).writeTime t := by
  cases layout with
  | unix | unixMillis | unixMicros => exact absurd rfl hNumeric
  | _ =>
    unfold writeLayoutIn
    rw [hText]

end

theorem pushText_empty {b : Buffer} (h : b.size ≤ maxSize) : b.pushText "" = .ok b := by
  obtain ⟨bytes, capacity, hFits⟩ := b
  have hSize : "".toByteArray.size = 0 := rfl
  have hFull : ¬ maxSize < bytes.size := Nat.not_lt.mpr h
  have hBytes : bytes ++ "".toByteArray = bytes := ByteArray.append_empty
  simp only [pushText, push, size, hSize, Nat.add_zero, if_neg hFull, dif_pos hFits, hBytes]

/-- Nothing is seen of the way over the mark: the text of the layout is appended. -/
theorem writeLayout_eq (home : Zone) (b : Buffer) (layout : TimeLayout) (t : Instant) (utc : Bool) :
    b.writeLayout home layout t utc = b.pushText (layout.text home t utc) := by
  have hFallback : (b.pushText "").bind (fun d => (d.truncate b.size).writeTime t) =
      b.pushText t.nanosText := by
    by_cases hFull : maxSize < b.size
    · have hEmpty : b.pushText "" = .error ⟨.tooLarge, b⟩ := if_pos hFull
      rw [hEmpty, pushText, push, if_pos (Nat.lt_add_right _ hFull)]
      rfl
    · rw [pushText_empty (Nat.not_lt.mp hFull)]
      show (b.truncate b.size).writeTime t = b.writeTime t
      rw [truncate, if_neg (Nat.lt_irrefl _)]
  have hDated : ¬ layout.isNumeric →
      b.writeLayout home layout t utc = b.pushText (layout.text home t utc) := by
    intro hNumeric
    rw [writeLayout, TimeLayout.text_eq hNumeric]
    cases hText : (layout.pattern? utc).bind (Time.patternText? · t (home.ofFlag utc)) with
    | some s => exact writeLayoutIn_of_text hNumeric hText b
    | none => exact (writeLayoutIn_of_none hNumeric hText b).trans hFallback
  cases layout with
  | unix | unixMillis | unixMicros => rfl
  | _ => exact hDated (by simp [TimeLayout.isNumeric])

end Buffer

end Logline
