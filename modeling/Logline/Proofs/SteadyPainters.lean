import Logline.Proofs.GroupPaths
import Logline.Proofs.SteadyWrites

/-! # Steady painters

Two canvases are alike when they differ in the capacity of their buffers at most. Every painter
takes alike canvases to alike canvases, field by field.
-/

namespace Logline

open Buffer (Steady)

namespace TextPainter

theorem steady_writeText (s : String) : Steady (writeText s) :=
  Steady.ite (.writeQuoted s) (.pushText s)

theorem steady_quoteTail (mark : Nat) : Steady (quoteTail · mark) := by
  intro b d h
  refine (h.tail mark).bind ?_
  rintro bytes _ rfl
  dsimp only
  split
  · exact Buffer.Steady.writeQuoted _ _ _ (h.truncate mark)
  · exact .ok h

theorem steady_quoted {f : Buffer → Buffer.Result} (hf : Steady f) : Steady (quoted f) :=
  (Steady.pushByte _).bind (hf.bind (Steady.pushByte _))

theorem steady_writeItems {α : Type} {write : α → Buffer → Buffer.Result}
    (hWrite : ∀ x, Steady (write x)) (items : List α) : Steady (writeItems write items) := by
  induction items with
  | nil => exact .pushByte _
  | cons x r ih => exact (Steady.pushByte _).bind ((hWrite x).bind ih)

theorem steady_writeList {α : Type} {write : α → Buffer → Buffer.Result}
    (hWrite : ∀ x, Steady (write x)) (items : List α) : Steady (writeList write items) := by
  intro b d h
  unfold writeList
  dsimp only
  rw [h.size_eq]
  refine (Steady.pushByte 0x5b b d h).bind ?_
  cases items with
  | nil => exact (Steady.pushByte _).bind (steady_quoteTail _)
  | cons x r =>
    exact Steady.bind ((hWrite x).bind (steady_writeItems hWrite r)) (steady_quoteTail _)

theorem steady_writeMarshal {m : Marshal} (hm : m.Steady) (mode : FormatMode) :
    Steady (writeMarshal m mode) := by
  intro b d h
  unfold writeMarshal
  dsimp only
  rw [h.size_eq]
  refine (hm mode b d h).bind ?_
  rintro ⟨b', failure⟩ ⟨d', _⟩ ⟨h', rfl⟩
  cases failure with
  | some e => exact steady_writeText _ _ _ (h'.truncate d.size)
  | none => exact steady_quoteTail _ _ _ h'

theorem steady_writeValue (mode : FormatMode) {v : Value} (hv : v.Leaves Value.SteadyLeaf) :
    Steady (writeValue mode v) := by
  cases v with
  | null => exact .pushText _
  | bool v => exact .writeBool v
  | int n => exact .writeInt n
  | uint n => exact .writeNat n
  | float x => exact .writeFloat x
  | float32 x => exact .writeFloat32 x
  | complex re im => exact .writeComplex re im
  | complex32 re im => exact .writeComplex32 re im
  | string s => exact steady_writeText s
  | bytes bytes => exact steady_writeText _
  | duration d => exact steady_quoted (.writeDuration d)
  | time t => exact steady_quoted (.writeTime t)
  | strings items => exact steady_writeList steady_writeText items
  | bools items => exact steady_writeList Steady.writeBool items
  | ints items => exact steady_writeList Steady.writeInt items
  | floats items => exact steady_writeList Steady.writeFloat items
  | json j => exact steady_writeText _
  | marshal m => exact steady_writeMarshal hv mode
  | foreign f => exact steady_writeText _
  | group _ => exact .ok

theorem steady_pushEach (bytes : List UInt8) : Steady (pushEach bytes) := by
  induction bytes with
  | nil => exact .ok
  | cons byte r ih => exact (Steady.pushByte byte).bind ih

theorem steady_writeKey (sanitized : Bool) (path key : String) :
    Steady (writeKey sanitized path key) := by
  refine Steady.ite ((steady_pushEach _).bind ?_) ((Steady.pushText _).bind (.pushText _))
  cases sanitize key with
  | nil => exact .pushByte _
  | cons byte r => exact steady_pushEach _

theorem steady_writeLines (lines : List String) : Steady (writeLines lines) := by
  induction lines with
  | nil => exact .ok
  | cons line r ih => exact (Steady.pushText _).bind ((Steady.pushText _).bind ih)

end TextPainter

theorem LogfmtPainter.steady_writeTime (home : Zone) (layout : TimeLayout) (t : Instant)
    (utc : Bool) : Steady (writeTime home layout t utc) := by
  intro b d h
  unfold writeTime
  dsimp only
  rw [h.size_eq]
  exact (Steady.writeLayout home layout t utc b d h).bind (TextPainter.steady_quoteTail _)

theorem LogfmtPainter.steady_writeCaller (caller : Caller) : Steady (writeCaller caller) :=
  (TextPainter.steady_writeText _).bind <| (Steady.pushText _).bind <| (Steady.writeNat _).bind <|
    Steady.ite .ok ((Steady.pushText _).bind (TextPainter.steady_writeText _))

namespace Canvas

/-- The same but for the capacity of the buffer. -/
def Alike (c d : Canvas) : Prop := ∃ buffer : Buffer, c.buffer.Alike buffer ∧ d = { c with buffer }

/-- A step that takes alike canvases to alike canvases and leaves the merged attributes as they
are. -/
def Steady (f : Canvas → Result) : Prop :=
  ∀ c d : Canvas, c.Alike d → Agree (fun x y => x.Alike y ∧ x.table = c.table) (f c) (f d)

namespace Steady

theorem ok : Steady .ok := fun _ _ h => .ok ⟨h, rfl⟩

theorem bind {f g : Canvas → Result} (hf : Steady f) (hg : Steady g) :
    Steady fun c => f c >>= g := by
  intro c d h
  refine (hf c d h).bind ?_
  rintro x y ⟨hxy, hTable⟩
  rw [← hTable]
  exact hg x y hxy

theorem ite {p : Prop} [Decidable p] {f g : Canvas → Result} (hf : Steady f) (hg : Steady g) :
    Steady fun c => if p then f c else g c := by
  by_cases hp : p
  · simpa only [if_pos hp] using hf
  · simpa only [if_neg hp] using hg

theorem branch {p : Prop} [Decidable p] {f g k : Canvas → Result} (hf : Steady f) (hg : Steady g)
    (hk : Steady k) : Steady fun c => if p then f c >>= k else g c >>= k :=
  ite (hf.bind hk) (hg.bind hk)

theorem change {f : Canvas → Canvas} (hBuffer : ∀ c, (f c).buffer = c.buffer)
    (hTable : ∀ c, (f c).table = c.table)
    (hf : ∀ c buffer, f { c with buffer } = { f c with buffer }) : Steady fun c => .ok (f c) := by
  rintro c _ ⟨b, hb, rfl⟩
  exact .ok ⟨⟨b, (hBuffer c).symm ▸ hb, hf c b⟩, hTable c⟩

theorem write {f : Buffer → Buffer.Result} (hf : Buffer.Steady f) : Steady (·.write f) := by
  rintro c _ ⟨b, hb, rfl⟩
  exact (hf c.buffer b hb).bind fun b' d' h => .ok ⟨⟨d', h, rfl⟩, rfl⟩

theorem pushByte (byte : UInt8) : Steady (·.pushByte byte) := write (.pushByte byte)

theorem pushText (s : String) : Steady (·.pushText s) := write (.pushText s)

theorem count : Steady fun c => .ok { c with fields := c.fields + 1 } :=
  change (fun _ => rfl) (fun _ => rfl) fun _ _ => rfl

theorem nextField (separator : UInt8) : Steady (·.nextField separator) := by
  rintro c _ ⟨b, hb, rfl⟩
  exact branch (p := 0 < c.fields) (pushByte separator) ok count c _ ⟨b, hb, rfl⟩

end Steady

theorem Alike.bytes_eq {c d : Canvas} (h : c.Alike d) : c.buffer.bytes = d.buffer.bytes := by
  obtain ⟨b, hb, rfl⟩ := h
  exact hb

end Canvas

theorem JsonPainter.steady_field (label : String) {f : Buffer → Buffer.Result} (hf : Steady f) :
    Canvas.Steady (field label f) :=
  (Canvas.Steady.nextField _).bind ((Canvas.Steady.pushText _).bind (.write hf))

theorem JsonPainter.steady_attr {a : Attr} (ha : a.value.Leaves Value.SteadyLeaf) :
    Canvas.Steady (attr a) :=
  (Canvas.Steady.nextField _).bind <| .write <| (Steady.writeQuoted _).bind <|
    (Steady.pushByte _).bind (steady_writeValue a.value ha)

namespace TextPainter

theorem steady_writeLeaf (sanitized : Bool) (path key : String) {v : Value}
    (hv : v.Leaves Value.SteadyLeaf) : Canvas.Steady (writeLeaf sanitized path key v) := by
  refine (Canvas.Steady.nextField _).bind ?_
  rintro c _ ⟨b, hb, rfl⟩
  have hField := (steady_writeKey sanitized path key).bind
    ((Steady.pushByte 0x3d).bind (steady_writeValue c.mode hv))
  exact Canvas.Steady.write hField c _ ⟨b, hb, rfl⟩

theorem steady_setPath (path : String) : Canvas.Steady fun c => .ok { c with path } :=
  .change (fun _ => rfl) (fun _ => rfl) fun _ _ => rfl

mutual

theorem steady_writeAttr (sanitized : Bool) (key : String) (v : Value)
    (hv : v.Leaves Value.SteadyLeaf) : Canvas.Steady (writeAttr sanitized key v) := by
  intro c d h
  cases v with
  | group attrs =>
    rw [writeAttr_group, writeAttr_group]
    obtain ⟨b, hb, rfl⟩ := h
    have hInner := (steady_writeAttrs sanitized attrs hv).bind (steady_setPath c.path)
    exact (steady_setPath (c.path ++ key ++ ".")).bind hInner c _ ⟨b, hb, rfl⟩
  | _ =>
    rw [writeAttr_leaf sanitized key rfl, writeAttr_leaf sanitized key rfl]
    obtain ⟨b, hb, rfl⟩ := h
    exact steady_writeLeaf sanitized c.path key hv c _ ⟨b, hb, rfl⟩

theorem steady_writeAttrs (sanitized : Bool) (attrs : List (Entry Value))
    (hAttrs : Value.LeavesOf Value.SteadyLeaf attrs) :
    Canvas.Steady (writeAttrs sanitized attrs) := by
  cases attrs with
  | nil => exact .ok
  | cons a r =>
    obtain ⟨key, value⟩ := a
    exact (steady_writeAttr sanitized key value hAttrs.1).bind
      (steady_writeAttrs sanitized r hAttrs.2)

end

theorem steady_field (label : String) {f : Buffer → Buffer.Result} (hf : Steady f) :
    Canvas.Steady (field label f) :=
  (Canvas.Steady.nextField _).bind ((Canvas.Steady.pushText _).bind (.write hf))

theorem steady_colored {f : Canvas → Canvas.Result} (hf : Canvas.Steady f) :
    Canvas.Steady (colored f) := by
  rintro c _ ⟨b, hb, rfl⟩
  unfold colored
  dsimp only
  cases colorStart c.foreground c.background with
  | nil => exact hf c _ ⟨b, hb, rfl⟩
  | cons piece r =>
    exact ((Canvas.Steady.write (.pushPieces _)).bind (hf.bind (.pushText _))) c _ ⟨b, hb, rfl⟩

theorem steady_keepBack (rest : Option String) : Canvas.Steady fun c => .ok (keepBack rest c) :=
  .change (fun _ => rfl) (fun _ => rfl) fun _ _ => rfl

theorem steady_bracketedTag : Canvas.Steady bracketedTag := by
  refine (Canvas.Steady.pushByte _).bind ?_
  rintro c _ ⟨b, hb, rfl⟩
  exact ((Canvas.Steady.pushText c.tag).bind (.pushByte _)) c _ ⟨b, hb, rfl⟩

theorem steady_time (home : Zone) (layout : TimeLayout) (utc : Bool) :
    Canvas.Steady (time home layout utc) := by
  refine (Canvas.Steady.nextField _).bind ?_
  rintro c _ ⟨b, hb, rfl⟩
  exact Canvas.Steady.write (.writeLayout home layout c.time utc) c _ ⟨b, hb, rfl⟩

theorem steady_shortCaller (caller : Caller) : Canvas.Steady (shortCaller caller) :=
  (Canvas.Steady.nextField _).bind <| .write <| (Steady.pushText _).bind <|
    (Steady.pushByte _).bind <| (Steady.writeNat _).bind <|
      Steady.ite .ok ((Steady.pushByte _).bind (.pushText _))

theorem steady_deferred : Canvas.Steady deferred := by
  rintro c _ ⟨b, hb, rfl⟩
  exact Canvas.Steady.write (steady_writeLines (Text.lines c.deferred)) c _ ⟨b, hb, rfl⟩

end TextPainter

structure Painter.Steady (p : Painter) : Prop where
  start : Canvas.Steady p.start
  time : ∀ home layout utc, Canvas.Steady (p.time home layout utc)
  loggerName : ∀ name width, Canvas.Steady (p.loggerName name width)
  level : Canvas.Steady p.level
  message : ∀ message, Canvas.Steady (p.message message)
  attr : ∀ a : Attr, a.value.Leaves Value.SteadyLeaf → Canvas.Steady (p.attr a)
  caller : ∀ caller, Canvas.Steady (p.caller caller)
  deferred : Canvas.Steady p.deferred
  finish : Canvas.Steady p.finish

namespace Painter

open TextPainter

theorem steady_json : Painter.json.Steady where
  start := .pushByte _
  time home layout utc := by
    rintro c _ ⟨b, hb, rfl⟩
    exact JsonPainter.steady_field _ (JsonPainter.steady_writeTime home layout c.time utc) c _
      ⟨b, hb, rfl⟩
  loggerName name _ := .ite .ok (JsonPainter.steady_field _ (.writeQuoted name))
  level := by
    rintro c _ ⟨b, hb, rfl⟩
    exact JsonPainter.steady_field _ (.writeQuoted c.title) c _ ⟨b, hb, rfl⟩
  message message := JsonPainter.steady_field _ (.writeQuoted message)
  attr _ ha := JsonPainter.steady_attr ha
  caller caller := JsonPainter.steady_field _ (JsonPainter.steady_writeCaller caller)
  deferred := .ok
  finish := .pushByte _

theorem steady_logfmt : Painter.logfmt.Steady where
  start := .ok
  time home layout utc := by
    rintro c _ ⟨b, hb, rfl⟩
    exact steady_field _ (LogfmtPainter.steady_writeTime home layout c.time utc) c _ ⟨b, hb, rfl⟩
  loggerName name _ := .ite .ok (steady_field _ (steady_writeText name))
  level := by
    rintro c _ ⟨b, hb, rfl⟩
    exact steady_field _ (steady_writeText c.title) c _ ⟨b, hb, rfl⟩
  message message := steady_field _ (steady_writeText message)
  attr a ha := steady_writeAttr true a.key a.value ha
  caller caller := steady_field _ (LogfmtPainter.steady_writeCaller caller)
  deferred := .ok
  finish := .ok

theorem steady_plain : Painter.plain.Steady where
  start := .ok
  time := steady_time
  loggerName name _ := .ite .ok ((Canvas.Steady.nextField _).bind (.pushText name))
  level := (Canvas.Steady.nextField _).bind steady_bracketedTag
  message _ :=
    (Canvas.Steady.nextField _).bind ((Canvas.Steady.pushText _).bind (steady_keepBack _))
  attr a ha := steady_writeAttr false a.key a.value ha
  caller := steady_shortCaller
  deferred := steady_deferred
  finish := .ok

theorem steady_colorful : Painter.colorful.Steady where
  start := .ok
  time := steady_time
  loggerName name _ := .ite .ok <|
    (Canvas.Steady.nextField _).bind ((Canvas.Steady.pushText name).bind (.write (.pad _)))
  level := (Canvas.Steady.nextField _).bind (steady_colored steady_bracketedTag)
  message _ :=
    (Canvas.Steady.nextField _).bind <| (steady_colored (.pushText _)).bind <|
      (Canvas.Steady.write (.pad _)).bind (steady_keepBack _)
  attr a ha := steady_writeAttr false a.key a.value ha
  caller := steady_shortCaller
  deferred := steady_deferred
  finish := .ok

theorem steady_ofMode (mode : FormatMode) : (Painter.ofMode mode).Steady := by
  cases mode with
  | json => exact steady_json
  | logfmt => exact steady_logfmt
  | colorful => exact steady_colorful
  | plain => exact steady_plain

theorem Steady.attrs {p : Painter} (hp : p.Steady) {attrs : List Attr}
    (hAttrs : Value.LeavesOf Value.SteadyLeaf attrs) : Canvas.Steady (p.attrs attrs) := by
  induction attrs with
  | nil => exact .ok
  | cons a r ih => exact (hp.attr a hAttrs.1).bind (ih hAttrs.2)

end Painter

end Logline
