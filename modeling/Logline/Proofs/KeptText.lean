import Logline.Proofs.ReadableLine

/-! # Text that is kept

What the steps of a render have written stays where it is. Later steps write behind it, and what is
quoted again or dropped was written after it. For this a value that writes itself need not say the
same everywhere, as long as it leaves alone what stands before it.
-/

namespace Logline

open Buffer (Grows Writes)
open Text (utf8)

/-- A value that leaves what stands in a buffer before it, whatever it writes. -/
def Marshal.OnlyAppends (m : Marshal) (mode : FormatMode) : Prop :=
  ∀ b d failure, m.write mode b = .ok (d, failure) → b.toList <+: d.toList

def Value.OnlyAppends (mode : FormatMode) : Value → Prop
  | .marshal m => m.OnlyAppends mode
  | _ => True

theorem exists_of_bind_eq_ok {ε α β : Type} {x : Except ε α} {f : α → Except ε β} {b : β}
    (h : x >>= f = .ok b) : ∃ a, x = .ok a ∧ f a = .ok b := by
  cases x with
  | error e => cases h
  | ok a => exact ⟨a, rfl, h⟩

/-! ## Buffers -/

namespace Buffer

variable {slack : Nat} {f g : Buffer → Result}

def Keeps (f : Buffer → Result) : Prop := ∀ b d, f b = .ok d → b.toList <+: d.toList

theorem Grows.keeps {b d : Buffer} {text : List UInt8} (h : Grows slack b text (.ok d)) :
    b.toList <+: d.toList := by
  cases h with
  | ok hText => exact ⟨text, hText.symm⟩

theorem Writes.keeps {text : List UInt8} (hf : Writes slack f text) : Keeps f := by
  intro b d h
  have hGrows := hf b
  rw [h] at hGrows
  exact hGrows.keeps

theorem Keeps.bind (hf : Keeps f) (hg : Keeps g) : Keeps fun b => f b >>= g := by
  intro b e h
  obtain ⟨d, hHere, hNext⟩ := exists_of_bind_eq_ok h
  exact (hf b d hHere).trans (hg d e hNext)

end Buffer

namespace TextPainter

theorem keeps_writeMarshal {m : Marshal} {mode : FormatMode} (hm : m.OnlyAppends mode) :
    Buffer.Keeps (writeMarshal m mode) := by
  intro b e h
  obtain ⟨⟨d, failure⟩, hWrite, hRest⟩ := exists_of_bind_eq_ok h
  obtain ⟨text, hText⟩ := hm b d failure hWrite
  cases failure with
  | none =>
    have hTail : Grows 0 b (shownText text) (quoteTail d b.size) := grows_quoteTail hText.symm
    change quoteTail d b.size = .ok e at hRest
    rw [hRest] at hTail
    exact hTail.keeps
  | some error =>
    have hMarker : Grows 0 b (tokenText (utf8 (errorMarker ++ error.message)))
        (writeText (errorMarker ++ error.message) (d.truncate b.size)) :=
      (writes_writeText _ _).of_toList (Buffer.truncate_of_append hText.symm)
    change writeText (errorMarker ++ error.message) (d.truncate b.size) = .ok e at hRest
    rw [hRest] at hMarker
    exact hMarker.keeps

theorem keeps_writeValue {mode : FormatMode} {v : Value} (hGroup : v.isGroup = false)
    (hv : v.Leaves (Value.OnlyAppends mode)) : Buffer.Keeps (writeValue mode v) := by
  cases v with
  | group attrs => cases hGroup
  | marshal m => exact keeps_writeMarshal hv
  | time t => exact (writes_quoted (Writes.writeTime t) : Writes 0 _ _).keeps
  | _ =>
    have hWrites := @writes_writeValue 0 mode (fun _ => .pair) _ hGroup trivial
    exact hWrites.keeps

end TextPainter

/-! ## Canvases -/

namespace Canvas

variable {slack : Nat} {separator : UInt8} {f g : Canvas → Result}

/-- A canvas further on: its line goes on where it was, and nothing else was loaded. -/
structure Continues (c d : Canvas) : Prop where
  line : c.buffer.toList <+: d.buffer.toList
  table : d.table = c.table
  mode : d.mode = c.mode

theorem Continues.refl (c : Canvas) : c.Continues c := ⟨List.prefix_refl _, rfl, rfl⟩

theorem Continues.trans {c d e : Canvas} (h : c.Continues d) (h' : d.Continues e) :
    c.Continues e :=
  ⟨h.line.trans h'.line, h'.table.trans h.table, h'.mode.trans h.mode⟩

theorem Grows.continues {base c d : Canvas} {text : List UInt8} {fresh : Bool} (hc : c.Of base)
    (h : Grows slack base c text fresh (.ok d)) : c.Continues d := by
  cases h with
  | ok hOf hText _ =>
    obtain ⟨_, _, rfl⟩ := hc
    obtain ⟨_, _, rfl⟩ := hOf
    exact ⟨⟨text, hText.symm⟩, rfl, rfl⟩

def Keeps (f : Canvas → Result) : Prop := ∀ c d, f c = .ok d → c.Continues d

theorem Keeps.ok : Keeps .ok := by
  intro c d h
  cases h
  exact .refl c

theorem Keeps.bind (hf : Keeps f) (hg : Keeps g) : Keeps fun c => f c >>= g := by
  intro c e h
  obtain ⟨d, hHere, hNext⟩ := exists_of_bind_eq_ok h
  exact (hf c d hHere).trans (hg d e hNext)

theorem Keeps.of_grows {text : Canvas → List UInt8} {fresh : Canvas → Bool}
    (h : ∀ c, Grows slack c c (text c) (fresh c) (f c)) : Keeps f := by
  intro c d hOk
  have hGrows := h c
  rw [hOk] at hGrows
  exact hGrows.continues c.of_self

theorem Paints.keeps {fields : Canvas → List (List UInt8)}
    (h : ∀ c, Paints slack separator c f (fields c)) : Keeps f :=
  .of_grows fun c => h c c c.of_self

theorem Keeps.write {f : Buffer → Buffer.Result} (hf : Buffer.Keeps f) : Keeps (·.write f) := by
  intro c d h
  change (f c.buffer).map _ = _ at h
  cases hResult : f c.buffer with
  | error fault =>
    rw [hResult] at h
    cases h
  | ok buffer =>
    rw [hResult] at h
    cases h
    exact ⟨hf c.buffer buffer hResult, rfl, rfl⟩

theorem keeps_nextField (separator : UInt8) : Keeps (·.nextField separator) := by
  have hField : ∀ c, Paints 0 separator c (fun c => c.nextField separator >>= .ok) [[]] := fun c =>
    .field fun d hd => grows_none hd
  have hSame : (fun c : Canvas => c.nextField separator >>= .ok) = (·.nextField separator) :=
    funext fun c => bind_pure _
  rw [← hSame]
  exact Paints.keeps hField

end Canvas

namespace TextPainter

open Canvas (Continues Keeps)

theorem continues_writeLeaf {sanitized : Bool} {path key : String} {v : Value} {c d : Canvas}
    (hGroup : v.isGroup = false) (hv : v.Leaves (Value.OnlyAppends c.mode))
    (h : writeLeaf sanitized path key v c = .ok d) : c.Continues d := by
  obtain ⟨e, hNext, hWrite⟩ := exists_of_bind_eq_ok h
  have hField := Canvas.keeps_nextField 0x20 c e hNext
  rw [← hField.mode] at hv
  have hKey : Buffer.Keeps (writeKey sanitized path key) :=
    (writes_writeKey sanitized path key : Writes 0 _ _).keeps
  have hEquals : Buffer.Keeps (·.pushByte 0x3d) := (Writes.pushByte 0x3d : Writes 0 _ _).keeps
  have hLine := hKey.bind (hEquals.bind (keeps_writeValue hGroup hv))
  exact hField.trans (Keeps.write hLine e d hWrite)

theorem continues_writeLeaves {sanitized : Bool} {outside : String} {leaves : List Leaf}
    {c d : Canvas}
    (hLeaves : ∀ leaf ∈ leaves, leaf.value.isGroup = false ∧
      leaf.value.Leaves (Value.OnlyAppends c.mode))
    (h : writeLeaves sanitized outside leaves c = .ok d) : c.Continues d := by
  induction leaves generalizing c with
  | nil => exact Keeps.ok c d h
  | cons leaf r ih =>
    obtain ⟨e, hHere, hRest⟩ := exists_of_bind_eq_ok h
    obtain ⟨hGroup, hLeaf⟩ := hLeaves leaf List.mem_cons_self
    have hField := continues_writeLeaf hGroup hLeaf hHere
    rw [← hField.mode] at hLeaves
    exact hField.trans (ih (fun leaf hMem => hLeaves leaf (List.mem_cons_of_mem _ hMem)) hRest)

theorem continues_attrs {p : Painter} (hp : ∀ a, p.attr a = writeAttr false a.key a.value)
    {attrs : List Attr} {c d : Canvas} (hAttrs : Value.LeavesOf (Value.OnlyAppends c.mode) attrs)
    (h : p.attrs attrs c = .ok d) : c.Continues d := by
  induction attrs generalizing c with
  | nil => exact Keeps.ok c d h
  | cons a r ih =>
    obtain ⟨e, hHere, hRest⟩ := exists_of_bind_eq_ok h
    rw [hp a, writeAttr_eq_writeLeaves] at hHere
    have hFields : c.Continues e := by
      refine continues_writeLeaves (fun leaf hMem => ?_) hHere
      obtain ⟨hGroup, hLeaf⟩ := Value.isLeaf_of_mem_flatten (Value.OnlyAppends c.mode) hMem
      exact ⟨hGroup, hLeaf hAttrs.1⟩
    have hMore := hAttrs.2
    rw [← hFields.mode] at hMore
    exact hFields.trans (ih hMore hRest)

end TextPainter

/-! ## Renders -/

/-- A render from the message on. -/
def Canvas.renderRest (options : RenderOptions) (p : Painter) (c : Canvas) : Canvas.Result := do
  let c ← p.message c.message c
  let c ← p.attrs c.table.attrs c
  let c ← c.callerStep options p c
  let c ← p.deferred c
  let c ← p.finish c
  c.pushByte 0x0a

/-- A render up to the message. -/
def Canvas.renderLead (options : RenderOptions) (p : Painter) (c : Canvas) : Canvas.Result := do
  let c ← p.start c
  let c ← p.time options.home options.timeLayout options.utc c
  let c ← p.loggerName c.logger options.nameWidth c
  p.level c

theorem Canvas.render_eq (options : RenderOptions) (p : Painter) (c : Canvas) :
    c.render options p = c.renderLead options p >>= renderRest options p := by
  simp only [render, renderLead, bind_assoc]
  refine bind_congr fun c => bind_congr fun c => bind_congr fun c => bind_congr fun c =>
    bind_congr fun c => bind_congr fun c => ?_
  unfold callerStep
  cases c.caller <;> rfl

namespace Painter.Readable

open TextPainter

variable {p : Painter} {writeFirst : String → Canvas → Canvas.Result}

theorem keeps_message (hp : p.Readable writeFirst)
    (hFirst : ∀ first, Canvas.Keeps (writeFirst first)) (message : String) :
    Canvas.Keeps (p.message message) := by
  have hKeepBack : ∀ rest, Canvas.Keeps fun c => .ok (keepBack rest c) := by
    intro rest c d h
    cases h
    exact ⟨List.prefix_refl _, rfl, rfl⟩
  rw [funext (hp.message message)]
  exact ((Canvas.keeps_nextField 0x20).bind (hFirst _)).bind (hKeepBack _)

theorem keeps_callerStep (hp : p.Readable writeFirst) (options : RenderOptions) :
    Canvas.Keeps fun c => c.callerStep options p c :=
  .of_grows fun c => (hp.paints_callerStep options c c.of_self : Canvas.Grows 0 c c _ _ _)

theorem keeps_deferred (hp : p.Readable writeFirst) : Canvas.Keeps p.deferred := by
  rw [hp.deferred]
  exact .of_grows fun c => (Canvas.grows_write c.of_self (writes_writeLines _) :
    Canvas.Grows 0 c c _ _ _)

theorem continues_renderRest (hp : p.Readable writeFirst)
    (hFirst : ∀ first, Canvas.Keeps (writeFirst first)) {options : RenderOptions} {c d : Canvas}
    (hAttrs : Value.LeavesOf (Value.OnlyAppends c.mode) c.table.attrs)
    (h : c.renderRest options p = .ok d) : c.Continues d := by
  obtain ⟨c₁, hMessage, hRest⟩ := exists_of_bind_eq_ok h
  obtain ⟨c₂, hShown, hEnd⟩ := exists_of_bind_eq_ok hRest
  have hLine := hp.keeps_message hFirst c.message c c₁ hMessage
  rw [← hLine.mode, ← hLine.table] at hAttrs
  have hFields := hLine.trans (continues_attrs hp.attr hAttrs hShown)
  have hFinish : Canvas.Keeps p.finish := hp.finish ▸ .ok
  have hNewline : Canvas.Keeps (·.pushByte 0x0a) :=
    .write (Writes.pushByte 0x0a : Writes 0 _ _).keeps
  have hLast := (hp.keeps_callerStep options).bind
    (hp.keeps_deferred.bind (hFinish.bind hNewline))
  exact hFields.trans (hLast c₂ d hEnd)

end Painter.Readable

end Logline
