import Logline.Proofs.Appending

/-! # The limit of a buffer

Every write but one asks for the room of what it appends before it appends it, and is refused past
the limit. A quoted text asks for the room that it takes without escapes, and its last quote is put
behind whatever stands there: where that quote meets a full buffer of more than half of the limit,
the buffer doubles past it.
-/

namespace Logline.Buffer

open Text (utf8)

/-- The buffer as a write leaves it, whether there was room or not. -/
def left : Result → Buffer
  | .ok b => b
  | .error fault => fault.buffer

/-! ## Steps within the limit -/

/-- No room is given back, the capacity stays within the limit, and it stays near it where it was
passed. -/
structure Extends (b d : Buffer) : Prop where
  capacity_le : b.capacity ≤ d.capacity
  within : b.capacity ≤ maxSize → d.capacity ≤ maxSize
  near : b.size ≤ maxSize + 1 ∧ b.capacity ≤ 2 * maxSize →
    d.size ≤ maxSize + 1 ∧ d.capacity ≤ 2 * maxSize

namespace Extends

theorem refl (b : Buffer) : b.Extends b := ⟨Nat.le_refl _, id, id⟩

theorem trans {b d e : Buffer} (h : b.Extends d) (hNext : d.Extends e) : b.Extends e :=
  ⟨Nat.le_trans h.capacity_le hNext.capacity_le, hNext.within ∘ h.within, hNext.near ∘ h.near⟩

/-- Bytes that fit under the limit, in the capacity that there is or in a larger one. -/
theorem of_size {b d : Buffer} {n : Nat} (hSize : d.size = b.size + n)
    (hLimit : b.size + n ≤ maxSize)
    (hCapacity : d.capacity = b.capacity ∨
      b.capacity < b.size + n ∧ d.capacity = b.target n) : b.Extends d := by
  obtain hSame | ⟨hFull, hTarget⟩ := hCapacity
  · exact ⟨by omega, by omega, by omega⟩
  · rw [target] at hTarget
    constructor
    · omega
    · omega
    · omega

end Extends

/-- A write that keeps to the limit, also where it is refused. -/
def Orderly (f : Buffer → Result) : Prop := ∀ b : Buffer, b.Extends (left (f b))

namespace Orderly

theorem ok : Orderly .ok := fun b => .refl b

theorem bind {f g : Buffer → Result} (hf : Orderly f) (hg : Orderly g) :
    Orderly fun b => f b >>= g := by
  intro b
  have hFirst := hf b
  show b.Extends (left (f b >>= g))
  cases hResult : f b with
  | error fault => rwa [hResult] at hFirst
  | ok d =>
    rw [hResult] at hFirst
    exact hFirst.trans (hg d)

theorem grow (n : Nat) : Orderly (·.grow n) := by
  intro b
  dsimp only
  unfold Buffer.grow
  split
  · exact .refl b
  · rename_i hLimit
    split
    · exact .refl b
    · rename_i hFull
      have hTarget : (b.target n) ≤ maxSize := by
        rw [target]
        omega
      have hLess : b.capacity ≤ b.target n := by
        rw [target]
        omega
      have hNear : b.target n ≤ 2 * maxSize := by omega
      exact ⟨hLess, fun _ => hTarget, fun h => ⟨h.1, hNear⟩⟩

theorem push (chunk : ByteArray) : Orderly (·.push chunk) := by
  intro b
  have hSize : (b.bytes ++ chunk).size = b.size + chunk.size := ByteArray.size_append
  dsimp only
  unfold Buffer.push
  split
  · exact .refl b
  · rename_i hLimit
    split
    · exact .of_size hSize (Nat.not_lt.mp hLimit) (.inl rfl)
    · rename_i hFull
      exact .of_size hSize (Nat.not_lt.mp hLimit) (.inr ⟨Nat.not_le.mp hFull, rfl⟩)

theorem pushText (s : String) : Orderly (·.pushText s) := push _

theorem pushByte (byte : UInt8) : Orderly (·.pushByte byte) := push _

theorem pushBytes (bytes : List UInt8) : Orderly (·.pushBytes bytes) := push _

theorem pushPieces (pieces : List String) : Orderly (·.pushPieces pieces) := by
  induction pieces with
  | nil => exact ok
  | cons s r ih => exact (pushText s).bind ih

theorem pad (n : Nat) : Orderly (·.pad n) := by
  intro b
  dsimp only
  unfold Buffer.pad
  split
  · exact .refl b
  · exact push _ b

theorem parts {f g : Buffer → Result} (hf : Orderly f) (hg : Orderly g) (unsigned : Bool) :
    Orderly (fun b => do
      let b ← b.pushByte 0x28
      let b ← f b
      let b ← if unsigned then b.pushByte 0x2b else .ok b
      let b ← g b
      b.pushText "i)") := by
  have hEnd := hg.bind (pushText "i)")
  cases unsigned with
  | true => exact (pushByte 0x28).bind (hf.bind ((pushByte 0x2b).bind hEnd))
  | false => exact (pushByte 0x28).bind (hf.bind hEnd)

theorem writeEscapedFrom (run : ByteArray) (bytes : List UInt8) :
    Orderly (·.writeEscapedFrom run bytes) := by
  induction bytes generalizing run with
  | nil => exact push run
  | cons byte r ih =>
    cases hEscape : escape? byte with
    | none => simpa only [Buffer.writeEscapedFrom, hEscape] using ih (run.push byte)
    | some escape =>
      simpa only [Buffer.writeEscapedFrom, hEscape] using
        (push run).bind ((pushBytes escape).bind (ih ByteArray.empty))

theorem writeEscaped (s : String) : Orderly (·.writeEscaped s) := writeEscapedFrom _ _

end Orderly

/-! ## Quoted texts -/

/-- A quoted text without its last quote. -/
def openQuoted (s : String) (b : Buffer) : Result := do
  let b ← b.grow (s.utf8ByteSize + 2)
  (b.pushUnchecked 0x22).writeEscaped s

theorem writeQuoted_eq (s : String) (b : Buffer) :
    b.writeQuoted s = openQuoted s b >>= fun d => .ok (d.pushUnchecked 0x22) := by
  rw [openQuoted, bind_assoc]
  rfl

theorem capacity_pushUnchecked {b : Buffer} (byte : UInt8) (h : b.size < b.capacity) :
    (b.pushUnchecked byte).capacity = b.capacity := by
  rw [pushUnchecked, dif_pos h]

theorem capacity_pushUnchecked_full {b : Buffer} (byte : UInt8) (h : b.capacity ≤ b.size) :
    (b.pushUnchecked byte).capacity = max (max (b.capacity * 2) leastCapacity) (b.size + 1) := by
  rw [pushUnchecked, dif_neg (Nat.not_lt.mpr h)]

/-- A byte that is put behind a full buffer doubles it. -/
theorem capacity_quote (b : Buffer) (h : b.size ≤ maxSize) :
    b.capacity ≤ (b.pushUnchecked 0x22).capacity ∧
      (b.capacity ≤ 2 * maxSize → (b.pushUnchecked 0x22).capacity ≤ 2 * maxSize) := by
  have hLeast : leastCapacity < maxSize := by decide
  by_cases hFull : b.capacity ≤ b.size
  · rw [capacity_pushUnchecked_full 0x22 hFull]
    omega
  · rw [capacity_pushUnchecked 0x22 (Nat.not_le.mp hFull)]
    exact ⟨Nat.le_refl _, id⟩

theorem capacity_quote_le_iff {b : Buffer} (h : b.capacity ≤ maxSize) :
    (b.pushUnchecked 0x22).capacity ≤ maxSize ↔
      ¬ (b.capacity ≤ b.size ∧ maxSize < 2 * b.capacity) := by
  have hLeast : leastCapacity < maxSize := by decide
  have hSize := b.size_le
  by_cases hFull : b.capacity ≤ b.size
  · rw [capacity_pushUnchecked_full 0x22 hFull]
    have hExact : b.size = b.capacity := Nat.le_antisymm hSize hFull
    omega
  · rw [capacity_pushUnchecked 0x22 (Nat.not_le.mp hFull)]
    exact iff_of_true h fun hOver => hFull hOver.1

theorem size_pushUnchecked (b : Buffer) (byte : UInt8) :
    (b.pushUnchecked byte).size = b.size + 1 := by
  rw [size_eq_length, toList_pushUnchecked, List.length_append, size_eq_length]
  rfl

/-- Room for at least one byte more takes a byte without another look at the limit. -/
theorem grow_eq_ok {b d : Buffer} {n : Nat} (h : b.grow n = .ok d) :
    d.bytes = b.bytes ∧ b.size + n ≤ maxSize ∧ b.size + n ≤ d.capacity := by
  unfold grow at h
  split at h
  · cases h
  · rename_i hLimit
    split at h
    · rename_i hFits
      cases h
      exact ⟨rfl, Nat.not_lt.mp hLimit, hFits⟩
    · cases h
      exact ⟨rfl, Nat.not_lt.mp hLimit, Nat.le_max_left _ _⟩

theorem Orderly.openQuoted (s : String) : Orderly (openQuoted s) := by
  intro b
  have hGrow : b.Extends (left (b.grow (s.utf8ByteSize + 2))) := Orderly.grow _ b
  unfold Buffer.openQuoted
  cases hResult : b.grow (s.utf8ByteSize + 2) with
  | error fault => rwa [hResult] at hGrow
  | ok d =>
    rw [hResult] at hGrow
    obtain ⟨hBytes, hLimit, hRoom⟩ := grow_eq_ok hResult
    have hSize : d.size = b.size := congrArg ByteArray.size hBytes
    have hQuote : d.Extends (d.pushUnchecked 0x22) :=
      .of_size (size_pushUnchecked d 0x22) (by omega)
        (.inl (capacity_pushUnchecked 0x22 (by omega)))
    exact (hGrow.trans hQuote).trans (Orderly.writeEscaped s _)

/-- The last run of an escaped text is pushed like any other, so the text is within the limit. -/
theorem size_of_writeEscapedFrom {b d : Buffer} {run : ByteArray} {bytes : List UInt8}
    (h : b.writeEscapedFrom run bytes = .ok d) : d.size ≤ maxSize := by
  induction bytes generalizing b run with
  | nil =>
    have hPush : b.push run = .ok d := h
    unfold push at hPush
    split at hPush
    · cases hPush
    · rename_i hLimit
      have hSize : (b.bytes ++ run).size = b.size + run.size := ByteArray.size_append
      have hBytes : d.bytes = b.bytes ++ run := by
        split at hPush <;> cases hPush <;> rfl
      rw [size, hBytes, hSize]
      exact Nat.not_lt.mp hLimit
  | cons byte r ih =>
    unfold writeEscapedFrom at h
    cases hEscape : escape? byte with
    | none =>
      rw [hEscape] at h
      exact ih h
    | some escape =>
      rw [hEscape] at h
      simp only [bind, Except.bind] at h
      split at h
      · cases h
      · split at h
        · cases h
        · exact ih h

/-- What is behind the first quote is within the limit, and the room for it was asked for as if it
had no escapes. -/
theorem openQuoted_eq_ok {s : String} {b d : Buffer} (h : openQuoted s b = .ok d) :
    d.size ≤ maxSize ∧ d.toList = b.toList ++ 0x22 :: escaped (utf8 s) ∧
      b.size + s.utf8ByteSize + 2 ≤ d.capacity := by
  unfold openQuoted at h
  cases hResult : b.grow (s.utf8ByteSize + 2) with
  | error fault =>
    rw [hResult] at h
    cases h
  | ok e =>
    rw [hResult] at h
    have hWrite : (e.pushUnchecked 0x22).writeEscaped s = .ok d := h
    obtain ⟨hBytes, hLimit, hRoom⟩ := grow_eq_ok hResult
    have hSize : e.size = b.size := congrArg ByteArray.size hBytes
    have hList : e.toList = b.toList := congrArg (·.data.toList) hBytes
    have hCapacity := capacity_pushUnchecked (b := e) 0x22 (by omega)
    refine ⟨size_of_writeEscapedFrom hWrite, ?_, ?_⟩
    · have hText : Grows 0 (e.pushUnchecked 0x22) (escaped (utf8 s)) (.ok d) :=
        hWrite ▸ Writes.writeEscaped s (e.pushUnchecked 0x22)
      cases hText with
      | ok hText =>
        rw [hText, toList_pushUnchecked, hList, List.append_assoc, List.singleton_append]
    · have hExtends : (e.pushUnchecked 0x22).Extends (left (.ok d)) :=
        hWrite ▸ Orderly.writeEscaped s (e.pushUnchecked 0x22)
      have hLess : (e.pushUnchecked 0x22).capacity ≤ d.capacity := hExtends.capacity_le
      omega

/-! ## Operations -/

/-- What a user can do to a buffer. -/
inductive Operation where
  | byte (byte : UInt8)
  | bytes (bytes : List UInt8)
  | text (s : String)
  | pieces (pieces : List String)
  | pad (n : Nat)
  | bool (v : Bool)
  | int (n : Int)
  | nat (n : Nat)
  | float (x : Binary64)
  | float32 (x : Binary32)
  | complex (re im : Binary64)
  | complex32 (re im : Binary32)
  | duration (d : Duration)
  | time (t : Instant)
  | quoted (s : String)
  | escaped (s : String)
  | grow (n : Nat)
  | reset
  | truncate (n : Nat)

namespace Operation

def run : Operation → Buffer → Result
  | .byte value, b => b.pushByte value
  | .bytes values, b => b.pushBytes values
  | .text s, b => b.pushText s
  | .pieces texts, b => b.pushPieces texts
  | .pad n, b => b.pad n
  | .bool v, b => b.writeBool v
  | .int n, b => b.writeInt n
  | .nat n, b => b.writeNat n
  | .float x, b => b.writeFloat x
  | .float32 x, b => b.writeFloat32 x
  | .complex re im, b => b.writeComplex re im
  | .complex32 re im, b => b.writeComplex32 re im
  | .duration d, b => b.writeDuration d
  | .time t, b => b.writeTime t
  | .quoted s, b => b.writeQuoted s
  | .escaped s, b => b.writeEscaped s
  | .grow n, b => b.grow n
  | .reset, b => .ok b.reset
  | .truncate n, b => .ok (b.truncate n)

/-- The buffer after an operation, whether it completed or not. -/
def after (op : Operation) (b : Buffer) : Buffer := left (op.run b)

/-- What an operation appends. -/
def added : Operation → List UInt8
  | .byte value => [value]
  | .bytes values => values
  | .text s => utf8 s
  | .pieces texts => texts.flatMap utf8
  | .pad n => List.replicate n 0x20
  | .bool v => utf8 (if v then "true" else "false")
  | .int n => utf8 (toString n)
  | .nat n => utf8 (toString n)
  | .float x => utf8 x.text
  | .float32 x => utf8 x.text
  | .complex re im => utf8 (re.complexText im)
  | .complex32 re im => utf8 (re.complexText im)
  | .duration d => d.pieces.flatMap utf8
  | .time t => utf8 t.nanosText
  | .quoted s => quotedText (utf8 s)
  | .escaped s => Buffer.escaped (utf8 s)
  | .grow _ | .reset | .truncate _ => []

/-- How many bytes an operation asks for. -/
def demand : Operation → Nat
  | .grow n => n
  | op => op.added.length

/-- The bytes after an operation that completes. -/
def content (op : Operation) (bytes : List UInt8) : List UInt8 :=
  match op with
  | .reset => []
  | .truncate n => bytes.take n
  | op => bytes ++ op.added

/-- The last quote of a text meets a full buffer of more than half of the limit. -/
def Overruns : Operation → Buffer → Prop
  | .quoted s, b => ∃ d, openQuoted s b = .ok d ∧ d.capacity ≤ d.size ∧ maxSize < 2 * d.capacity
  | _, _ => False

/-- Only a text with escapes outruns the room that was asked for it. -/
theorem Overruns.exists_quoted {op : Operation} {b : Buffer} (h : op.Overruns b) :
    ∃ s, op = .quoted s ∧ s.utf8ByteSize < (Buffer.escaped (utf8 s)).length := by
  cases op with
  | quoted s =>
    obtain ⟨d, hOpen, hFull, -⟩ := h
    obtain ⟨-, hText, hRoom⟩ := openQuoted_eq_ok hOpen
    have hSize : d.size = b.size + ((Buffer.escaped (utf8 s)).length + 1) := by
      rw [size_eq_length, hText, List.length_append, List.length_cons, size_eq_length]
    exact ⟨s, rfl, by omega⟩
  | _ => exact h.elim

theorem extends_after (op : Operation) (h : ∀ s, op ≠ .quoted s) (b : Buffer) :
    b.Extends (op.after b) := by
  cases op with
  | byte value => exact Orderly.pushByte value b
  | bytes values => exact Orderly.pushBytes values b
  | text s => exact Orderly.pushText s b
  | pieces texts => exact Orderly.pushPieces texts b
  | pad n => exact Orderly.pad n b
  | bool v => exact Orderly.pushText _ b
  | int n => exact Orderly.pushText _ b
  | nat n => exact Orderly.pushText _ b
  | float x => exact Orderly.pushText _ b
  | float32 x => exact Orderly.pushText _ b
  | complex re im => exact Orderly.parts (.pushText _) (.pushText _) _ b
  | complex32 re im => exact Orderly.parts (.pushText _) (.pushText _) _ b
  | duration d => exact Orderly.pushPieces _ b
  | time t => exact Orderly.pushText _ b
  | quoted s => exact absurd rfl (h s)
  | escaped s => exact Orderly.writeEscaped s b
  | grow n => exact Orderly.grow n b
  | reset => exact ⟨Nat.le_refl _, id, fun h => ⟨Nat.zero_le _, h.2⟩⟩
  | truncate n =>
    have hSize : (b.truncate n).size ≤ b.size := by
      rw [size_eq_length, size_eq_length, toList_truncate, List.length_take]
      exact Nat.min_le_right _ _
    have hCapacity : (b.truncate n).capacity = b.capacity := by
      unfold Buffer.truncate
      split <;> rfl
    show b.Extends (b.truncate n)
    constructor <;> omega

theorem after_quoted (s : String) (b : Buffer) : (quoted s).after b =
    left (openQuoted s b >>= fun d => .ok (d.pushUnchecked 0x22)) := by
  rw [← writeQuoted_eq]
  rfl

theorem overruns_iff {s : String} {b d : Buffer} (h : openQuoted s b = .ok d) :
    (quoted s).Overruns b ↔ d.capacity ≤ d.size ∧ maxSize < 2 * d.capacity := by
  constructor
  · rintro ⟨e, hOpen, hFull⟩
    rw [h] at hOpen
    cases hOpen
    exact hFull
  · intro hFull
    exact ⟨d, h, hFull⟩

/-- What an operation does to size and capacity, whatever the buffer: no room is given back, and the
limit is passed by one byte and one doubling at most. -/
theorem after_near (op : Operation) (b : Buffer) : b.capacity ≤ (op.after b).capacity ∧
    (b.size ≤ maxSize + 1 ∧ b.capacity ≤ 2 * maxSize →
      (op.after b).size ≤ maxSize + 1 ∧ (op.after b).capacity ≤ 2 * maxSize) := by
  by_cases hQuoted : ∀ s, op ≠ .quoted s
  · exact ⟨(op.extends_after hQuoted b).capacity_le, (op.extends_after hQuoted b).near⟩
  push Not at hQuoted
  obtain ⟨s, rfl⟩ := hQuoted
  have hOpen := Orderly.openQuoted s b
  rw [after_quoted]
  cases hResult : openQuoted s b with
  | error fault =>
    rw [hResult] at hOpen
    exact ⟨hOpen.capacity_le, hOpen.near⟩
  | ok d =>
    rw [hResult] at hOpen
    obtain ⟨hSize, -, -⟩ := openQuoted_eq_ok hResult
    have hQuote := d.capacity_quote hSize
    have hLess : b.capacity ≤ d.capacity := hOpen.capacity_le
    refine ⟨Nat.le_trans hLess hQuote.1, fun h => ⟨?_, hQuote.2 (hOpen.near h).2⟩⟩
    show (d.pushUnchecked 0x22).size ≤ maxSize + 1
    rw [size_pushUnchecked]
    exact Nat.succ_le_succ hSize

/-- An operation keeps to the limit exactly when it does not overrun. -/
theorem after_within_iff (op : Operation) {b : Buffer} (hb : b.capacity ≤ maxSize) :
    (op.after b).capacity ≤ maxSize ↔ ¬ op.Overruns b := by
  by_cases hQuoted : ∀ s, op ≠ .quoted s
  · refine iff_of_true ((op.extends_after hQuoted b).within hb) fun hOver => ?_
    obtain ⟨s, hOp, -⟩ := hOver.exists_quoted
    exact hQuoted s hOp
  push Not at hQuoted
  obtain ⟨s, rfl⟩ := hQuoted
  have hOpen := Orderly.openQuoted s b
  rw [after_quoted]
  cases hResult : openQuoted s b with
  | error fault =>
    rw [hResult] at hOpen
    refine iff_of_true (hOpen.within hb) ?_
    rintro ⟨d, hOk, -⟩
    rw [hResult] at hOk
    cases hOk
  | ok d =>
    rw [hResult] at hOpen
    rw [overruns_iff hResult]
    exact capacity_quote_le_iff (hOpen.within hb)

/-- An operation that does not overrun completes if and only if there is room for what it asks. -/
def Decided (op : Operation) (b : Buffer) : Prop :=
  (maxSize < b.size + op.demand →
    ∃ fault, op.run b = .error fault ∧ fault.message = "buffer too large") ∧
  (b.size + op.demand ≤ maxSize → ∃ d, op.run b = .ok d ∧ d.toList = op.content b.toList)

theorem message_tooLarge {fault : Fault} (h : fault.cause = .tooLarge) :
    fault.message = "buffer too large" := by
  rw [Fault.message, h]

theorem decided_of_writes {op : Operation} {b : Buffer} (hb : b.capacity ≤ maxSize)
    (hOver : ¬ op.Overruns b) (hWrites : Writes 0 op.run op.added)
    (hDemand : op.demand = op.added.length)
    (hContent : op.content b.toList = b.toList ++ op.added) : op.Decided b := by
  have hWithin : (op.after b).capacity ≤ maxSize := (op.after_within_iff hb).mpr hOver
  have hWrite := hWrites b
  have hSize := (op.after b).size_le
  unfold Decided
  unfold after at hWithin hSize
  rw [hDemand, hContent]
  cases hResult : op.run b with
  | ok d =>
    rw [hResult] at hWrite hWithin hSize
    cases hWrite with
    | ok hText =>
      have hLength : d.size = b.size + op.added.length := by
        rw [size_eq_length, hText, List.length_append, size_eq_length]
      have hFits : d.size ≤ maxSize := Nat.le_trans hSize hWithin
      exact ⟨fun hLarge => absurd hLarge (by omega), fun _ => ⟨d, rfl, hText⟩⟩
  | error fault =>
    rw [hResult] at hWrite
    cases hWrite with
    | full hCause hFull =>
      exact ⟨fun _ => ⟨fault, rfl, message_tooLarge hCause⟩, fun hFits => absurd hFits (by omega)⟩

theorem decided (op : Operation) {b : Buffer} (hb : b.capacity ≤ maxSize)
    (hOver : ¬ op.Overruns b) : op.Decided b := by
  have hSize : b.size ≤ maxSize := Nat.le_trans b.size_le hb
  cases op with
  | byte value => exact decided_of_writes hb hOver (Writes.pushByte value) rfl rfl
  | bytes values => exact decided_of_writes hb hOver (Writes.pushBytes values) rfl rfl
  | text s => exact decided_of_writes hb hOver (Writes.pushText s) rfl rfl
  | pieces texts => exact decided_of_writes hb hOver (Writes.pushPieces texts) rfl rfl
  | pad n => exact decided_of_writes hb hOver (Writes.pad n) rfl rfl
  | bool v => exact decided_of_writes hb hOver (Writes.writeBool v) rfl rfl
  | int n => exact decided_of_writes hb hOver (Writes.writeInt n) rfl rfl
  | nat n => exact decided_of_writes hb hOver (Writes.writeNat n) rfl rfl
  | float x => exact decided_of_writes hb hOver (Writes.writeFloat x) rfl rfl
  | float32 x => exact decided_of_writes hb hOver (Writes.writeFloat32 x) rfl rfl
  | complex re im => exact decided_of_writes hb hOver (Writes.writeComplex re im) rfl rfl
  | complex32 re im => exact decided_of_writes hb hOver (Writes.writeComplex32 re im) rfl rfl
  | duration d => exact decided_of_writes hb hOver (Writes.writeDuration d) rfl rfl
  | time t => exact decided_of_writes hb hOver (Writes.writeTime t) rfl rfl
  | quoted s => exact decided_of_writes hb hOver (Writes.writeQuoted s) rfl rfl
  | escaped s => exact decided_of_writes hb hOver (Writes.writeEscaped s) rfl rfl
  | grow n =>
    show (maxSize < b.size + n → ∃ fault, b.grow n = .error fault ∧ _) ∧
      (b.size + n ≤ maxSize → ∃ d, b.grow n = .ok d ∧ d.toList = b.toList ++ [])
    rw [List.append_nil]
    unfold Buffer.grow
    constructor
    · intro hLarge
      exact ⟨⟨.tooLarge, b⟩, if_pos hLarge, rfl⟩
    · intro hFits
      rw [if_neg (Nat.not_lt.mpr hFits)]
      split
      · exact ⟨b, rfl, rfl⟩
      · exact ⟨_, rfl, rfl⟩
  | reset => exact ⟨fun h => absurd h (Nat.not_lt.mpr hSize), fun _ => ⟨b.reset, rfl, rfl⟩⟩
  | truncate n =>
    exact ⟨fun h => absurd h (Nat.not_lt.mpr hSize), fun _ => ⟨_, rfl, toList_truncate b n⟩⟩

end Operation

/-! ## Runs -/

/-- A buffer after operations in a row, whether each of them completed or not. -/
def afterAll (b : Buffer) (ops : List Operation) : Buffer := ops.foldl (fun b op => op.after b) b

/-- No operation of a row overruns. -/
def Clear (b : Buffer) : List Operation → Prop
  | [] => True
  | op :: r => ¬ op.Overruns b ∧ (op.after b).Clear r

theorem capacity_le_afterAll (b : Buffer) (ops : List Operation) :
    b.capacity ≤ (b.afterAll ops).capacity := by
  induction ops generalizing b with
  | nil => exact Nat.le_refl _
  | cons op r ih => exact Nat.le_trans (op.after_near b).1 (ih (op.after b))

theorem afterAll_near {b : Buffer} (ops : List Operation)
    (hb : b.size ≤ maxSize + 1 ∧ b.capacity ≤ 2 * maxSize) :
    (b.afterAll ops).size ≤ maxSize + 1 ∧ (b.afterAll ops).capacity ≤ 2 * maxSize := by
  induction ops generalizing b with
  | nil => exact hb
  | cons op r ih => exact ih ((op.after_near b).2 hb)

theorem Clear.capacity_le {b : Buffer} {ops : List Operation} (h : b.Clear ops)
    (hb : b.capacity ≤ maxSize) : (b.afterAll ops).capacity ≤ maxSize := by
  induction ops generalizing b with
  | nil => exact hb
  | cons op r ih => exact ih h.2 ((op.after_within_iff hb).mpr h.1)

/-- Until a quoted text overruns, the limit holds for length and capacity, and an operation that
asks for more than is left under it is refused. Only a text with escapes can overrun, by one byte
and one doubling. No operation gives room back. A new buffer and one without room are those with
capacity 512 and 0. -/
theorem afterAll_limit (capacity : Nat) (ops more : List Operation) (op : Operation) :
    let b := (withCapacity capacity).afterAll ops
    b.capacity ≤ (b.afterAll more).capacity ∧
    (b.size ≤ maxSize + 1 ∧ b.capacity ≤ 2 * maxSize) ∧
    (op.Overruns b → ∃ s, op = .quoted s ∧ s.utf8ByteSize < (escaped (utf8 s)).length) ∧
    ((withCapacity capacity).Clear ops →
      b.size ≤ maxSize ∧ b.capacity ≤ maxSize ∧
      ((op.after b).capacity ≤ maxSize ↔ ¬ op.Overruns b) ∧
      (¬ op.Overruns b →
        (maxSize < b.size + op.demand →
          ∃ fault, op.run b = .error fault ∧ fault.message = "buffer too large") ∧
        (b.size + op.demand ≤ maxSize →
          ∃ d, op.run b = .ok d ∧ d.toList = op.content b.toList))) := by
  intro b
  have hStart : (withCapacity capacity).capacity ≤ maxSize := Nat.min_le_right _ _
  have hEmpty : (withCapacity capacity).size = 0 := rfl
  refine ⟨b.capacity_le_afterAll more, afterAll_near ops (by omega), fun h => h.exists_quoted,
    fun hClear => ?_⟩
  have hCapacity : b.capacity ≤ maxSize := hClear.capacity_le hStart
  exact ⟨Nat.le_trans b.size_le hCapacity, hCapacity, op.after_within_iff hCapacity,
    op.decided hCapacity⟩

theorem exists_openQuoted {b : Buffer} {s : String} (hRoom : b.size + s.utf8ByteSize + 2 ≤ maxSize)
    (hText : b.size + (escaped (utf8 s)).length + 1 ≤ maxSize) :
    ∃ d, openQuoted s b = .ok d := by
  have hGrow : ∃ e, b.grow (s.utf8ByteSize + 2) = .ok e := by
    unfold grow
    rw [if_neg (by omega)]
    split
    · exact ⟨_, rfl⟩
    · exact ⟨_, rfl⟩
  obtain ⟨e, hGrow⟩ := hGrow
  obtain ⟨hBytes, -, -⟩ := grow_eq_ok hGrow
  have hSize : (e.pushUnchecked 0x22).size = b.size + 1 := by
    rw [size_pushUnchecked, size, hBytes, ← size]
  have hWrite : Grows 0 (e.pushUnchecked 0x22) (escaped (utf8 s))
    ((e.pushUnchecked 0x22).writeEscaped s) := Writes.writeEscaped s _
  unfold openQuoted
  rw [hGrow]
  show ∃ d, (e.pushUnchecked 0x22).writeEscaped s = .ok d
  cases hResult : (e.pushUnchecked 0x22).writeEscaped s with
  | ok d => exact ⟨d, rfl⟩
  | error fault =>
    rw [hResult] at hWrite
    cases hWrite with
    | full _ hFull => omega

/-- A line feed takes two bytes in quotes. With room for one byte and two quotes, it is written
past the limit. -/
theorem quoted_passes_limit : ∃ b d : Buffer,
    (Operation.pad (maxSize - 3)).run (withCapacity maxSize) = .ok b ∧
    (Operation.quoted "\n").run b = .ok d ∧ d.size = maxSize + 1 ∧ maxSize < d.capacity := by
  have hLimit : 3 ≤ maxSize := by decide
  have hPad := (Operation.pad (maxSize - 3)).decided (b := withCapacity maxSize)
    (Nat.min_le_right _ _) id
  obtain ⟨b, hRun, hText⟩ := hPad.2
    (by simp [Operation.demand, Operation.added, size, withCapacity])
  have hLength : b.size = maxSize - 3 := by
    rw [size_eq_length, hText]
    simp [Operation.content, Operation.added, toList, withCapacity]
  have hBytes : "\n".utf8ByteSize = 1 := rfl
  have hEscaped : (escaped (utf8 "\n")).length = 2 := rfl
  obtain ⟨d, hOpen⟩ := exists_openQuoted (b := b) (s := "\n") (by omega) (by omega)
  obtain ⟨-, hInside, -⟩ := openQuoted_eq_ok hOpen
  have hSize : d.size = maxSize := by
    rw [size_eq_length, hInside, List.length_append, List.length_cons, ← size_eq_length]
    omega
  have hQuote : (d.pushUnchecked 0x22).size = maxSize + 1 := by
    rw [size_pushUnchecked, hSize]
  refine ⟨b, d.pushUnchecked 0x22, hRun, ?_, hQuote, ?_⟩
  · show b.writeQuoted "\n" = _
    rw [writeQuoted_eq, hOpen]
    rfl
  · have hLe : (d.pushUnchecked 0x22).size ≤ (d.pushUnchecked 0x22).capacity := size_le _
    omega

end Logline.Buffer
