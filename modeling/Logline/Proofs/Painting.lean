import Logline.Proofs.Appending
import Logline.Proofs.MergedAttrs
import Logline.Proofs.NoResidue
import Mathlib.Data.List.Forall2

/-! # Painting

A step of a painter appends its text and leaves everything but the buffer and the number of fields
as it was. The text of a line is put together from the fields of its steps, with a separator before
each field but the first.
-/

namespace Logline

open Buffer (Writes)
open Text (utf8)

namespace Canvas

variable {slack : Nat} {separator : UInt8} {base : Canvas}

/-- The same canvas further on in its line. -/
def Of (c base : Canvas) : Prop := ∃ buffer fields, c = { base with buffer, fields }

theorem of_self (c : Canvas) : c.Of c := ⟨c.buffer, c.fields, rfl⟩

def isFresh (c : Canvas) : Bool := c.fields == 0

/-- The outcome of appending `text` to the line of a canvas, after which the line is fresh or
not. -/
inductive Grows (slack : Nat) (base c : Canvas) (text : List UInt8) (fresh : Bool) : Result → Prop
  | ok {d : Canvas} : d.Of base → d.buffer.toList = c.buffer.toList ++ text → d.isFresh = fresh →
      Grows slack base c text fresh (.ok d)
  | full {fault : Buffer.Fault} : fault.cause = .tooLarge →
      Buffer.maxSize < c.buffer.size + text.length + slack →
      Grows slack base c text fresh (.error fault)

theorem Grows.bind {middle after c : Canvas} {x : Result} {f : Canvas → Result}
    {text rest : List UInt8} {fresh next : Bool} (h : Grows slack middle c text fresh x)
    (hNext : ∀ d : Canvas, d.Of middle → d.isFresh = fresh → Grows slack after d rest next (f d)) :
    Grows slack after c (text ++ rest) next (x >>= f) := by
  cases h with
  | full hCause hSize =>
    refine .full hCause ?_
    rw [List.length_append]
    omega
  | @ok d hOf hText hFresh =>
    have hLength : d.buffer.size = c.buffer.size + text.length := by
      rw [Buffer.size_eq_length, hText, List.length_append, Buffer.size_eq_length]
    have hRest := hNext d hOf hFresh
    show Grows slack after c (text ++ rest) next (f d)
    cases hResult : f d with
    | ok e =>
      rw [hResult] at hRest
      cases hRest with
      | ok hOf' hRest hFresh' =>
        exact .ok hOf' (by rw [hRest, hText, List.append_assoc]) hFresh'
    | error fault =>
      rw [hResult] at hRest
      cases hRest with
      | full hCause hSize =>
        refine .full hCause ?_
        rw [List.length_append]
        omega

theorem grows_write {c : Canvas} (hc : c.Of base) {f : Buffer → Buffer.Result} {text : List UInt8}
    (hf : Writes slack f text) : Grows slack base c text c.isFresh (c.write f) := by
  have hWrite := hf c.buffer
  unfold write
  cases hResult : f c.buffer with
  | ok d =>
    rw [hResult] at hWrite
    cases hWrite with
    | ok hText =>
      obtain ⟨buffer, fields, rfl⟩ := hc
      exact .ok ⟨d, fields, rfl⟩ hText rfl
  | error fault =>
    rw [hResult] at hWrite
    cases hWrite with
    | full hCause hSize => exact .full hCause hSize

theorem grows_none {c : Canvas} (hc : c.Of base) : Grows slack base c [] c.isFresh (.ok c) :=
  .ok hc (List.append_nil _).symm rfl

theorem isEmpty_append (fresh : Bool) (xs ys : List (List UInt8)) :
    (fresh && (xs ++ ys).isEmpty) = ((fresh && xs.isEmpty) && ys.isEmpty) := by
  cases xs <;> cases ys <;> simp

/-- A step that appends fields to the line of a canvas. -/
def Paints (slack : Nat) (separator : UInt8) (base : Canvas) (f : Canvas → Result)
    (fields : List (List UInt8)) : Prop :=
  ∀ c : Canvas, c.Of base →
    Grows slack base c (joined separator c.isFresh fields) (c.isFresh && fields.isEmpty) (f c)

namespace Paints

theorem none : Paints slack separator base .ok [] := by
  intro c hc
  rw [List.isEmpty_nil, Bool.and_true]
  exact grows_none hc

theorem bind {f g : Canvas → Result} {xs ys : List (List UInt8)}
    (hf : Paints slack separator base f xs) (hg : Paints slack separator base g ys) :
    Paints slack separator base (fun c => f c >>= g) (xs ++ ys) := by
  intro c hc
  rw [joined_append, isEmpty_append]
  refine (hf c hc).bind fun d hd hFresh => ?_
  rw [← hFresh]
  exact hg d hd

theorem congr {f g : Canvas → Result} {xs : List (List UInt8)}
    (hg : Paints slack separator base g xs) (h : ∀ c, c.Of base → f c = g c) :
    Paints slack separator base f xs := by
  intro c hc
  rw [h c hc]
  exact hg c hc

theorem field {f : Canvas → Result} {text : List UInt8}
    (hf : ∀ c, c.Of base → Grows slack base c text c.isFresh (f c)) :
    Paints slack separator base (fun c => c.nextField separator >>= f) [text] := by
  intro c hc
  have hNext : Grows slack base c (if c.isFresh then [] else [separator]) false
      (c.nextField separator) := by
    have hCount : ∀ d : Canvas, d.Of base →
        Grows slack base d [] false (.ok { d with fields := d.fields + 1 }) := by
      rintro _ ⟨buffer, fields, rfl⟩
      exact .ok ⟨buffer, fields + 1, rfl⟩ (List.append_nil _).symm rfl
    unfold nextField
    by_cases hFields : 0 < c.fields
    · have hFresh : c.isFresh = false := by
        rw [isFresh, beq_eq_false_iff_ne]
        exact Nat.ne_of_gt hFields
      rw [if_pos hFields, hFresh]
      exact (grows_write hc (.pushByte separator)).bind fun d hd _ => hCount d hd
    · have hFresh : c.isFresh = true := by
        rw [isFresh, beq_iff_eq]
        exact Nat.eq_zero_of_not_pos hFields
      rw [if_neg hFields, hFresh]
      exact (grows_none hc).bind fun d hd _ => hCount d hd
  have hText : joined separator c.isFresh [text] =
      (if c.isFresh then [] else [separator]) ++ text := by
    cases c.isFresh <;> simp [joined]
  rw [hText, List.isEmpty_cons, Bool.and_false]
  refine hNext.bind fun d hd hFresh => ?_
  rw [← hFresh]
  exact hf d hd

/-- Fields that are written in one piece. -/
theorem several {f : Canvas → Result} {xs : List (List UInt8)} (hNonempty : xs ≠ [])
    (hf : Paints slack separator base f [joined separator true xs]) :
    Paints slack separator base f xs := by
  intro c hc
  obtain ⟨text, r, rfl⟩ := List.exists_cons_of_ne_nil hNonempty
  have hText : joined separator c.isFresh [joined separator true (text :: r)] =
      joined separator c.isFresh (text :: r) := by
    cases c.isFresh <;> simp [joined]
  rw [← hText]
  exact hf c hc

theorem within {f : Canvas → Result} {xs : List (List UInt8)} (path : String)
    (hf : Paints slack separator { base with path } f xs) :
    Paints slack separator base (fun c => f { c with path } >>= fun d =>
      .ok { d with path := base.path }) xs := by
  rintro _ ⟨buffer, fields, rfl⟩
  have hInner := hf { base with buffer, fields, path } ⟨buffer, fields, rfl⟩
  cases hResult : f { base with buffer, fields, path } with
  | ok d =>
    rw [hResult] at hInner
    cases hInner with
    | ok hOf hText hFresh =>
      obtain ⟨b, n, rfl⟩ := hOf
      dsimp only
      rw [hResult]
      exact .ok ⟨b, n, rfl⟩ hText hFresh
  | error fault =>
    rw [hResult] at hInner
    cases hInner with
    | full hCause hSize =>
      dsimp only
      rw [hResult]
      exact .full hCause hSize

end Paints

/-- A step that appends fields which stand for the items. -/
def Shows {α : Type} (slack : Nat) (separator : UInt8) (R : List UInt8 → α → Prop) (base : Canvas)
    (f : Canvas → Result) (items : List α) : Prop :=
  ∃ texts, Paints slack separator base f texts ∧ List.Forall₂ R texts items

/-- Fields are shown as they are. -/
theorem Paints.shows {f : Canvas → Result} {texts : List (List UInt8)}
    (hf : Paints slack separator base f texts) : Shows slack separator (· = ·) base f texts :=
  ⟨texts, hf, List.forall₂_same.mpr fun _ _ => rfl⟩

namespace Shows

variable {α : Type} {R : List UInt8 → α → Prop}

theorem none : Shows slack separator R base .ok [] := ⟨[], .none, .nil⟩

theorem bind {f g : Canvas → Result} {xs ys : List α} (hf : Shows slack separator R base f xs)
    (hg : Shows slack separator R base g ys) :
    Shows slack separator R base (fun c => f c >>= g) (xs ++ ys) := by
  obtain ⟨texts, hPaints, hItems⟩ := hf
  obtain ⟨rest, hRest, hMore⟩ := hg
  exact ⟨texts ++ rest, hPaints.bind hRest, List.rel_append hItems hMore⟩

theorem congr {f g : Canvas → Result} {xs : List α} (hg : Shows slack separator R base g xs)
    (h : ∀ c, c.Of base → f c = g c) : Shows slack separator R base f xs := by
  obtain ⟨texts, hPaints, hItems⟩ := hg
  exact ⟨texts, hPaints.congr h, hItems⟩

theorem field {f : Canvas → Result} {text : List UInt8} {x : α}
    (hf : ∀ c, c.Of base → Grows slack base c text c.isFresh (f c)) (hText : R text x) :
    Shows slack separator R base (fun c => c.nextField separator >>= f) [x] :=
  ⟨[text], .field hf, .cons hText .nil⟩

end Shows

/-- A step that shows items, writes an ending behind them and leaves the canvas `after`. -/
def Closes {α : Type} (slack : Nat) (separator : UInt8) (R : List UInt8 → α → Prop)
    (base after : Canvas) (f : Canvas → Result) (items : List α) (ending : List UInt8) : Prop :=
  ∃ texts, List.Forall₂ R texts items ∧ ∀ c : Canvas, c.Of base →
    Grows slack after c (joined separator c.isFresh texts ++ ending)
      (c.isFresh && texts.isEmpty) (f c)

namespace Closes

variable {α : Type} {R : List UInt8 → α → Prop} {middle after : Canvas}

theorem bind {f g : Canvas → Result} {xs ys : List α} {ending : List UInt8}
    (hf : Closes slack separator R base middle f xs [])
    (hg : Closes slack separator R middle after g ys ending) :
    Closes slack separator R base after (fun c => f c >>= g) (xs ++ ys) ending := by
  obtain ⟨texts, hItems, hText⟩ := hf
  obtain ⟨rest, hMore, hRest⟩ := hg
  refine ⟨texts ++ rest, List.rel_append hItems hMore, fun c hc => ?_⟩
  have hHere := hText c hc
  rw [List.append_nil] at hHere
  rw [joined_append, isEmpty_append, List.append_assoc]
  refine hHere.bind fun d hd hFresh => ?_
  rw [← hFresh]
  exact hRest d hd

theorem congr {f g : Canvas → Result} {xs : List α} {ending : List UInt8}
    (hg : Closes slack separator R base after g xs ending) (h : ∀ c, c.Of base → f c = g c) :
    Closes slack separator R base after f xs ending := by
  obtain ⟨texts, hItems, hText⟩ := hg
  refine ⟨texts, hItems, fun c hc => ?_⟩
  rw [h c hc]
  exact hText c hc

/-- A step that only writes, and then what ends the line. -/
theorem write {f g : Canvas → Result} {text ending : List UInt8}
    (hf : ∀ c, c.Of base → Grows slack base c text c.isFresh (f c))
    (hg : Closes slack separator R base after g [] ending) :
    Closes slack separator R base after (fun c => f c >>= g) [] (text ++ ending) := by
  obtain ⟨texts, hItems, hRest⟩ := hg
  cases hItems
  refine ⟨[], .nil, fun c hc => (hf c hc).bind fun d hd hFresh => ?_⟩
  rw [← hFresh]
  exact hRest d hd

end Closes

theorem Shows.closes_nil {α : Type} {R : List UInt8 → α → Prop} {f : Canvas → Result} {xs : List α}
    (hf : Shows slack separator R base f xs) : Closes slack separator R base base f xs [] := by
  obtain ⟨texts, hPaints, hItems⟩ := hf
  refine ⟨texts, hItems, fun c hc => ?_⟩
  rw [List.append_nil]
  exact hPaints c hc

theorem Shows.closes {α : Type} {R : List UInt8 → α → Prop} {after : Canvas} {f g : Canvas → Result}
    {xs ys : List α} {ending : List UInt8} (hf : Shows slack separator R base f xs)
    (hg : Closes slack separator R base after g ys ending) :
    Closes slack separator R base after (fun c => f c >>= g) (xs ++ ys) ending :=
  hf.closes_nil.bind hg

/-- The caller of a record, if it has one. -/
def callerStep (base : Canvas) (options : RenderOptions) (p : Painter) (c : Canvas) : Result :=
  match base.caller with
  | some caller => p.caller (caller.redacted options.redactor) c
  | none => .ok c

/-- A render whose steps show items between an opening and a closing text. The message may keep back
a text, of which the lines `below` come at the end. -/
theorem exists_render_below {α : Type} {R : List UInt8 → α → Prop} {options : RenderOptions}
    {p : Painter} {deferred : String} {opening below closing : List UInt8}
    {time name level message attrs caller : List α} (hFresh : base.isFresh = true)
    (hStart : ∀ c, c.Of base → Grows slack base c opening c.isFresh (p.start c))
    (hTime : Shows slack separator R base (p.time options.home options.timeLayout options.utc) time)
    (hName : Shows slack separator R base (p.loggerName base.logger options.nameWidth) name)
    (hLevel : Shows slack separator R base p.level level)
    (hMessage : Closes slack separator R base { base with deferred } (p.message base.message)
      message [])
    (hAttrs : Shows slack separator R { base with deferred } (p.attrs base.table.attrs) attrs)
    (hCaller : Shows slack separator R { base with deferred } (callerStep base options p) caller)
    (hDeferred : ∀ c, c.Of { base with deferred } →
      Grows slack { base with deferred } c below c.isFresh (p.deferred c))
    (hFinish : ∀ c, c.Of { base with deferred } →
      Grows slack { base with deferred } c closing c.isFresh (p.finish c)) :
    ∃ texts, List.Forall₂ R texts (time ++ (name ++ (level ++ (message ++ (attrs ++ caller))))) ∧
      Grows slack { base with deferred } base
        (opening ++ (joined separator true texts ++ (below ++ (closing ++ [0x0a]))))
        texts.isEmpty (base.render options p) := by
  have hName' : Shows slack separator R base
      (fun c => p.loggerName c.logger options.nameWidth c) name :=
    hName.congr (by rintro _ ⟨buffer, fields, rfl⟩; rfl)
  have hMessage' : Closes slack separator R base { base with deferred }
      (fun c => p.message c.message c) message [] :=
    hMessage.congr (by rintro _ ⟨buffer, fields, rfl⟩; rfl)
  have hAttrs' : Shows slack separator R { base with deferred }
      (fun c => p.attrs c.table.attrs c) attrs :=
    hAttrs.congr (by rintro _ ⟨buffer, fields, rfl⟩; rfl)
  have hNewline : Closes slack separator R { base with deferred } { base with deferred }
      (·.pushByte 0x0a) [] [0x0a] := by
    refine ⟨[], .nil, fun c hc => ?_⟩
    rw [List.isEmpty_nil, Bool.and_true]
    exact grows_write hc (.pushByte 0x0a)
  have hLast : Closes slack separator R { base with deferred } { base with deferred } (fun c => do
      let c ← match c.caller with
        | some caller => p.caller (caller.redacted options.redactor) c
        | none => .ok c
      let c ← p.deferred c
      let c ← p.finish c
      c.pushByte 0x0a) caller (below ++ (closing ++ [0x0a])) := by
    have hSteps := hCaller.closes (.write hDeferred (.write hFinish hNewline))
    rw [List.append_nil] at hSteps
    refine hSteps.congr ?_
    rintro _ ⟨buffer, fields, rfl⟩
    unfold callerStep
    cases base.caller <;> rfl
  obtain ⟨texts, hItems, hText⟩ := hTime.closes <| hName'.closes <| hLevel.closes <|
    hMessage'.bind <| hAttrs'.closes <| hLast
  refine ⟨texts, hItems, (hStart base base.of_self).bind fun d hd hNext => ?_⟩
  have hStill : d.isFresh = true := hNext.trans hFresh
  have hRest := hText d hd
  rw [hStill, Bool.true_and] at hRest
  exact hRest

/-- A render whose message keeps nothing back. -/
theorem exists_render {α : Type} {R : List UInt8 → α → Prop} {options : RenderOptions} {p : Painter}
    {opening closing : List UInt8} {time name level message attrs caller : List α}
    (hFresh : base.isFresh = true)
    (hStart : ∀ c, c.Of base → Grows slack base c opening c.isFresh (p.start c))
    (hTime : Shows slack separator R base (p.time options.home options.timeLayout options.utc) time)
    (hName : Shows slack separator R base (p.loggerName base.logger options.nameWidth) name)
    (hLevel : Shows slack separator R base p.level level)
    (hMessage : Shows slack separator R base (p.message base.message) message)
    (hAttrs : Shows slack separator R base (p.attrs base.table.attrs) attrs)
    (hCaller : Shows slack separator R base (callerStep base options p) caller)
    (hDeferred : ∀ c, c.Of base → Grows slack base c [] c.isFresh (p.deferred c))
    (hFinish : ∀ c, c.Of base → Grows slack base c closing c.isFresh (p.finish c)) :
    ∃ texts, List.Forall₂ R texts (time ++ (name ++ (level ++ (message ++ (attrs ++ caller))))) ∧
      Grows slack base base (opening ++ (joined separator true texts ++ (closing ++ [0x0a])))
        texts.isEmpty (base.render options p) :=
  exists_render_below hFresh hStart hTime hName hLevel hMessage.closes_nil hAttrs hCaller hDeferred
    hFinish

end Canvas

/-! ## Jobs -/

def Merge.attrs : Merge → List Attr
  | .ofAttrs attrs => attrs
  | .ofArgs args => Arg.toAttrs args

def Job.given (j : Job) : List Attr := j.merges.flatMap Merge.attrs

def Job.inFormat (j : Job) (mode : FormatMode) : Job := { j with mode, painter := mode }

/-- The tag of its level in a line for people. -/
def Job.tag (j : Job) : String := j.registry.shortTag j.record.level lineTagWidth

def Job.foreground (j : Job) : Option Color :=
  if j.colors then (j.registry.info? j.record.level).bind (·.foreground) else none

def Job.background (j : Job) : Option Color :=
  if j.colors then (j.registry.info? j.record.level).bind (·.background) else none

theorem Canvas.merge_eq (c : Canvas) (m : Merge) :
    c.merge m = { c with table := c.table.merge m.attrs } := by
  cases m with
  | ofAttrs attrs => rfl
  | ofArgs args => rw [Canvas.merge, Canvas.mergeArgs, AttrTable.mergeArgs_eq, Merge.attrs]

/-- A canvas with the record of a job and one attribute for each key that was given. -/
structure Canvas.Holds (c : Canvas) (j : Job) : Prop where
  time : c.time = j.record.time
  logger : c.logger = j.record.logger
  title : c.title = j.registry.title j.record.level
  tag : c.tag = j.tag
  foreground : c.foreground = j.foreground
  background : c.background = j.background
  message : c.message = j.record.message
  caller : c.caller = j.record.caller
  mode : c.mode = j.mode
  attrs : c.table.attrs = Attr.resolve j.given
  path : c.path = ""
  deferred : c.deferred = ""
  fresh : c.isFresh = true
  empty : c.buffer.toList = []

theorem Job.holds_load (j : Job) (c : Canvas) : (j.load c).Holds j := by
  have hFold : ∀ (merges : List Merge) (c : Canvas), merges.foldl Canvas.merge c =
      { c with table := c.table.merge (merges.flatMap Merge.attrs) } := by
    intro merges
    induction merges with
    | nil => exact fun c => rfl
    | cons m r ih =>
      intro c
      rw [List.foldl_cons, ih, Canvas.merge_eq, List.flatMap_cons, AttrTable.merge_append]
  rw [Job.load, hFold]
  exact ⟨rfl, rfl, rfl, rfl, rfl, rfl, rfl, rfl, rfl, AttrTable.merge_empty_attrs _, rfl, rfl, rfl,
    rfl⟩

theorem Job.leavesOf_resolve {P : Value → Prop} {j : Job} (h : Value.LeavesOf P j.given) :
    Value.LeavesOf P (Attr.resolve j.given) := by
  rw [← AttrTable.merge_empty_attrs]
  exact AttrTable.leavesOf_merge trivial h

/-- A line was written, or there was no room for it and `slack` more bytes. -/
inductive Delivers (slack : Nat) (line : List UInt8) : Except Buffer.FaultCause ByteArray → Prop
  | ok {bytes : ByteArray} : bytes.data.toList = line → Delivers slack line (.ok bytes)
  | full : Buffer.maxSize < line.length + slack → Delivers slack line (.error .tooLarge)

theorem Canvas.Grows.delivers {slack : Nat} {base c : Canvas} {line : List UInt8} {fresh : Bool}
    {x : Canvas.Result} (h : Canvas.Grows slack base c line fresh x)
    (hEmpty : c.buffer.toList = []) : Delivers slack line (Canvas.outcome x) := by
  cases h with
  | ok _ hText _ =>
    rw [hEmpty, List.nil_append] at hText
    exact .ok hText
  | @full fault hCause hSize =>
    have hZero : c.buffer.size = 0 := congrArg List.length hEmpty
    rw [Canvas.outcome, hCause]
    exact .full (by omega)

def Job.ofPair : Job :=
  { (default : Job) with
    merges := [.ofAttrs [⟨"request", .group [⟨"at", .time .epoch⟩, ⟨"size", .marshal .pair⟩]⟩]] }

end Logline
