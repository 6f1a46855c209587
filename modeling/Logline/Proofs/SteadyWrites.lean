import Logline.Proofs.Leaves
import Logline.Render.Painters

/-! # Steady writes

Two buffers are alike when they hold the same bytes, whatever their capacities. A write is steady
when it keeps alike buffers alike and fails on both or on none. All writes are built from steady
ones, values that write themselves apart, of which it is assumed.
-/

namespace Logline

/-- Two outcomes that are both faults of one cause, or both results in a relation. -/
inductive Agree {α β : Type} (R : α → β → Prop) :
    Except Buffer.Fault α → Except Buffer.Fault β → Prop
  | ok {a : α} {b : β} : R a b → Agree R (.ok a) (.ok b)
  | error {e f : Buffer.Fault} : e.cause = f.cause → Agree R (.error e) (.error f)

theorem Agree.bind {α β γ δ : Type} {R : α → β → Prop} {S : γ → δ → Prop}
    {x : Except Buffer.Fault α} {y : Except Buffer.Fault β} {g : α → Except Buffer.Fault γ}
    {k : β → Except Buffer.Fault δ} (h : Agree R x y) (hNext : ∀ a b, R a b → Agree S (g a) (k b)) :
    Agree S (x >>= g) (y >>= k) := by
  cases h with
  | ok hR => exact hNext _ _ hR
  | error hCause => exact .error hCause

namespace Buffer

def Alike (b d : Buffer) : Prop := b.bytes = d.bytes

theorem Alike.size_eq {b d : Buffer} (h : b.Alike d) : b.size = d.size :=
  congrArg ByteArray.size h

theorem Alike.toList_eq {b d : Buffer} (h : b.Alike d) : b.toList = d.toList :=
  congrArg (·.data.toList) h

theorem Alike.truncate {b d : Buffer} (h : b.Alike d) (n : Nat) :
    (b.truncate n).Alike (d.truncate n) := by
  unfold Buffer.truncate
  rw [h.size_eq]
  split
  · exact congrArg (·.extract 0 n) h
  · exact h

theorem Alike.pushUnchecked {b d : Buffer} (h : b.Alike d) (byte : UInt8) :
    (b.pushUnchecked byte).Alike (d.pushUnchecked byte) := by
  have hBytes : ∀ c : Buffer, (c.pushUnchecked byte).bytes = c.bytes.push byte := by
    intro c
    unfold Buffer.pushUnchecked
    split <;> rfl
  rw [Alike, hBytes, hBytes, h]

theorem Alike.tail {b d : Buffer} (h : b.Alike d) (mark : Nat) :
    Agree Eq (b.tail mark) (d.tail mark) := by
  unfold Buffer.tail
  rw [h.size_eq, h.toList_eq]
  split
  · exact .error rfl
  · exact .ok rfl

/-- A write that takes alike buffers to alike buffers. -/
def Steady (f : Buffer → Result) : Prop := ∀ b d : Buffer, b.Alike d → Agree Alike (f b) (f d)

namespace Steady

theorem ok : Steady .ok := fun _ _ h => .ok h

theorem bind {f g : Buffer → Result} (hf : Steady f) (hg : Steady g) :
    Steady fun b => f b >>= g := fun b d h => (hf b d h).bind hg

theorem ite {p : Prop} [Decidable p] {f g : Buffer → Result} (hf : Steady f) (hg : Steady g) :
    Steady fun b => if p then f b else g b := by
  by_cases hp : p
  · simpa only [if_pos hp] using hf
  · simpa only [if_neg hp] using hg

theorem branch {p : Prop} [Decidable p] {f g k : Buffer → Result} (hf : Steady f) (hg : Steady g)
    (hk : Steady k) : Steady fun b => if p then f b >>= k else g b >>= k :=
  ite (hf.bind hk) (hg.bind hk)

theorem grow (n : Nat) : Steady (·.grow n) := by
  intro b d h
  simp only [Buffer.grow, h.size_eq]
  split
  · exact .error rfl
  · split <;> split <;> exact .ok h

theorem push (chunk : ByteArray) : Steady (·.push chunk) := by
  intro b d h
  simp only [Buffer.push, h.size_eq]
  split
  · exact .error rfl
  · split <;> split <;> exact .ok (congrArg (· ++ chunk) h)

theorem pushText (s : String) : Steady (·.pushText s) := push s.toByteArray

theorem pushByte (byte : UInt8) : Steady (·.pushByte byte) := push _

theorem pushBytes (bytes : List UInt8) : Steady (·.pushBytes bytes) := push _

theorem pushPieces (pieces : List String) : Steady (·.pushPieces pieces) := by
  induction pieces with
  | nil => exact ok
  | cons s r ih => exact (pushText s).bind ih

theorem pad (n : Nat) : Steady (·.pad n) := by
  intro b d h
  simp only [Buffer.pad, h.size_eq]
  split
  · exact .error rfl
  · exact push _ b d h

theorem writeBool (v : Bool) : Steady (·.writeBool v) := pushText _

theorem writeInt (n : Int) : Steady (·.writeInt n) := pushText _

theorem writeNat (n : Nat) : Steady (·.writeNat n) := pushText _

theorem writeFloat (x : Binary64) : Steady (·.writeFloat x) := pushText _

theorem writeFloat32 (x : Binary32) : Steady (·.writeFloat32 x) := pushText _

theorem writeComplex (re im : Binary64) : Steady (·.writeComplex re im) :=
  (pushByte _).bind <| (writeFloat re).bind <| branch (pushByte _) ok <|
    (writeFloat im).bind (pushText _)

theorem writeComplex32 (re im : Binary32) : Steady (·.writeComplex32 re im) :=
  (pushByte _).bind <| (writeFloat32 re).bind <| branch (pushByte _) ok <|
    (writeFloat32 im).bind (pushText _)

theorem writeDuration (d : Duration) : Steady (·.writeDuration d) := pushPieces _

theorem writeTime (t : Instant) : Steady (·.writeTime t) := pushText _

theorem writeLayout (home : Zone) (layout : TimeLayout) (t : Instant) (utc : Bool) :
    Steady (·.writeLayout home layout t utc) := by
  intro b d h
  dsimp only
  rw [writeLayout_eq, writeLayout_eq]
  exact pushText _ b d h

theorem writeEscapedFrom (run : ByteArray) (bytes : List UInt8) :
    Steady (·.writeEscapedFrom run bytes) := by
  induction bytes generalizing run with
  | nil => exact push run
  | cons byte r ih =>
    cases hEscape : escape? byte with
    | none => simpa only [Buffer.writeEscapedFrom, hEscape] using ih (run.push byte)
    | some escape =>
      simpa only [Buffer.writeEscapedFrom, hEscape] using
        (push run).bind ((pushBytes escape).bind (ih ByteArray.empty))

theorem writeEscaped (s : String) : Steady (·.writeEscaped s) := writeEscapedFrom _ _

theorem writeQuoted (s : String) : Steady (·.writeQuoted s) := by
  intro b d h
  refine (grow _ b d h).bind ?_
  intro b d h
  refine (writeEscaped s _ _ (h.pushUnchecked 0x22)).bind ?_
  intro b d h
  exact .ok (h.pushUnchecked 0x22)

end Steady

end Buffer

open Buffer (Steady)

/-- What a marshalled value appends, and whether it fails, depends on the format and the bytes
before it alone. -/
def Marshal.Steady (m : Marshal) : Prop :=
  ∀ (mode : FormatMode) (b d : Buffer), b.Alike d →
    Agree (fun x y => x.1.Alike y.1 ∧ x.2 = y.2) (m.write mode b) (m.write mode d)

/-- A leaf that is steady if it writes itself. -/
def Value.SteadyLeaf : Value → Prop
  | .marshal m => m.Steady
  | _ => True

namespace JsonPainter

theorem steady_escapeTail (mark : Nat) : Steady (escapeTail · mark) := by
  intro b d h
  refine (h.tail mark).bind ?_
  rintro bytes _ rfl
  exact Buffer.Steady.writeEscaped _ _ _ (h.truncate mark)

theorem steady_quoted {f : Buffer → Buffer.Result} (hf : Steady f) : Steady (quoted f) :=
  (Steady.pushByte _).bind (hf.bind (Steady.pushByte _))

theorem steady_writeFloat (x : Binary64) : Steady (writeFloat x) :=
  Steady.ite (.writeFloat x) (steady_quoted (.writeFloat x))

theorem steady_writeFloat32 (x : Binary32) : Steady (writeFloat32 x) :=
  Steady.ite (.writeFloat32 x) (steady_quoted (.writeFloat32 x))

theorem steady_writeItems {α : Type} {write : α → Buffer → Buffer.Result}
    (hWrite : ∀ x, Steady (write x)) (items : List α) : Steady (writeItems write items) := by
  induction items with
  | nil => exact .pushByte _
  | cons x r ih => exact (Steady.pushByte _).bind ((hWrite x).bind ih)

theorem steady_writeList {α : Type} {write : α → Buffer → Buffer.Result}
    (hWrite : ∀ x, Steady (write x)) (items : List α) : Steady (writeList write items) := by
  cases items with
  | nil => exact (Steady.pushByte _).bind (.pushByte _)
  | cons x r => exact (Steady.pushByte _).bind ((hWrite x).bind (steady_writeItems hWrite r))

theorem steady_writeMarshal {m : Marshal} (hm : m.Steady) : Steady (writeMarshal m) := by
  intro b d h
  refine (hm .json b d h).bind ?_
  rintro ⟨b', failure⟩ ⟨d', _⟩ ⟨h', rfl⟩
  cases failure with
  | some e =>
    rw [h.size_eq]
    exact Buffer.Steady.writeQuoted _ _ _ (h'.truncate d.size)
  | none =>
    simp only [h.size_eq, h'.size_eq]
    split
    · exact Steady.pushText _ _ _ h'
    · exact .ok h'

mutual

theorem steady_writeValue (v : Value) (hv : v.Leaves Value.SteadyLeaf) : Steady (writeValue v) := by
  cases v with
  | null => exact .pushText _
  | bool v => exact .writeBool v
  | int n => exact .writeInt n
  | uint n => exact .writeNat n
  | float x => exact steady_writeFloat x
  | float32 x => exact steady_writeFloat32 x
  | complex re im => exact steady_quoted (.writeComplex re im)
  | complex32 re im => exact steady_quoted (.writeComplex32 re im)
  | string s => exact .writeQuoted s
  | bytes bytes => exact .writeQuoted _
  | duration d => exact steady_quoted (.writeDuration d)
  | time t => exact steady_quoted (.writeTime t)
  | strings items => exact steady_writeList Steady.writeQuoted items
  | bools items => exact steady_writeList Steady.writeBool items
  | ints items => exact steady_writeList Steady.writeInt items
  | floats items => exact steady_writeList steady_writeFloat items
  | json j => exact .pushPieces _
  | marshal m => exact steady_writeMarshal hv
  | foreign f => exact .writeQuoted _
  | group attrs =>
    exact (Steady.pushByte _).bind ((steady_writeAttrs true attrs hv).bind (.pushByte _))

theorem steady_writeAttrs (first : Bool) (attrs : List (Entry Value))
    (hAttrs : Value.LeavesOf Value.SteadyLeaf attrs) : Steady (writeAttrs first attrs) := by
  cases attrs with
  | nil => exact .ok
  | cons a r =>
    obtain ⟨key, value⟩ := a
    exact Steady.branch .ok (.pushByte _) <| (Steady.writeQuoted key).bind <|
      (Steady.pushByte _).bind <| (steady_writeValue value hAttrs.1).bind <|
        steady_writeAttrs false r hAttrs.2

end

theorem steady_writeTime (home : Zone) (layout : TimeLayout) (t : Instant) (utc : Bool) :
    Steady (writeTime home layout t utc) := by
  refine Steady.ite (.writeLayout home layout t utc) ((Steady.pushByte _).bind ?_)
  intro b d h
  dsimp only
  rw [h.size_eq]
  refine (Steady.writeLayout home layout t utc b d h).bind ?_
  cases layout with
  | custom _ => exact (steady_escapeTail _).bind (.pushByte _)
  | _ => exact Steady.ok.bind (.pushByte _)

theorem steady_writeCaller (caller : Caller) : Steady (writeCaller caller) :=
  (Steady.writeQuoted _).bind <| (Steady.pushText _).bind <| (Steady.writeNat _).bind <|
    (Steady.pushText _).bind <| (Steady.writeQuoted _).bind (.pushByte _)

end JsonPainter

end Logline
