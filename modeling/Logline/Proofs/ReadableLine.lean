import Logline.Proofs.Flattening
import Logline.Proofs.MessageLines

/-! # Lines for people

The plain and the colourful format write the same line, the colours and the padding apart. A line is
put together from pieces that both write and pieces that only the colourful one adds.
-/

namespace Logline

open Buffer (Writes)
open Text (utf8)
open TextPainter

/-- A part of a line for people, which both formats write or which the colourful one adds. -/
inductive Piece where
  | kept (text : List UInt8)
  | added (text : List UInt8)

def Piece.text (colorful : Bool) : Piece → List UInt8
  | kept text => text
  | added text => if colorful then text else []

def lineText (colorful : Bool) (pieces : List Piece) : List UInt8 :=
  pieces.flatMap (Piece.text colorful)

def spaces (n : Nat) : List UInt8 := List.replicate n 0x20

/-! ## Colours -/

namespace Color

def codes (foreground background : Option Color) : List String :=
  (foreground.map Color.foreground).toList ++ (background.map Color.background).toList

/-- The sequence that switches colours on, if there are any. -/
def startText (foreground background : Option Color) : List UInt8 :=
  match codes foreground background with
  | [] => []
  | codes => utf8 ("\x1b[" ++ ";".intercalate codes ++ "m")

/-- The sequence behind what is coloured. -/
def endText (foreground background : Option Color) : List UInt8 :=
  if codes foreground background = [] then [] else utf8 "\x1b[0m"

end Color

namespace TextPainter

theorem flatMap_colorStart (foreground background : Option Color) :
    (colorStart foreground background).flatMap utf8 = Color.startText foreground background := by
  cases foreground with
  | none =>
    cases background with
    | none => rfl
    | some b =>
      show _ = utf8 ("\x1b[" ++ b.background ++ "m")
      simp [colorStart, Text.utf8_append]
  | some f =>
    cases background with
    | none =>
      show _ = utf8 ("\x1b[" ++ f.foreground ++ "m")
      simp [colorStart, Text.utf8_append]
    | some b =>
      show _ = utf8 ("\x1b[" ++ (f.foreground ++ ";" ++ b.background) ++ "m")
      simp [colorStart, Text.utf8_append]

theorem colorStart_eq_nil {foreground background : Option Color} :
    colorStart foreground background = [] ↔ Color.codes foreground background = [] := by
  cases foreground <;> cases background <;> simp [colorStart, Color.codes]

/-! ## Steps -/

variable {slack : Nat} {base : Canvas}

theorem grows_colored {f : Canvas → Canvas.Result} {text : List UInt8}
    (hf : ∀ c, c.Of base → Canvas.Grows slack base c text c.isFresh (f c)) {c : Canvas}
    (hc : c.Of base) :
    Canvas.Grows slack base c (Color.startText base.foreground base.background ++
      (text ++ Color.endText base.foreground base.background)) c.isFresh (colored f c) := by
  have hStart : colorStart c.foreground c.background =
      colorStart base.foreground base.background := by
    obtain ⟨buffer, fields, rfl⟩ := hc
    rfl
  rw [colored, hStart, ← flatMap_colorStart]
  cases hCodes : colorStart base.foreground base.background with
  | nil =>
    rw [Color.endText, if_pos (colorStart_eq_nil.mp hCodes), List.append_nil]
    exact hf c hc
  | cons piece r =>
    have hEnd : Color.endText base.foreground base.background = utf8 colorEnd := by
      refine if_neg fun hNone => ?_
      rw [colorStart_eq_nil.mpr hNone] at hCodes
      cases hCodes
    rw [hEnd]
    refine (Canvas.grows_write hc (.pushPieces _)).bind fun d hd hFresh => ?_
    rw [← hFresh]
    refine (hf d hd).bind fun e he hNext => ?_
    rw [← hNext]
    exact Canvas.grows_write he (.pushText colorEnd)

def tagText (tag : String) : List UInt8 := utf8 ("[" ++ tag ++ "]")

theorem grows_bracketedTag {c : Canvas} (hc : c.Of base) :
    Canvas.Grows slack base c (tagText base.tag) c.isFresh (bracketedTag c) := by
  have hTag : tagText base.tag = [0x5b] ++ (utf8 base.tag ++ [0x5d]) := by
    rw [tagText, Text.utf8_append, Text.utf8_append, List.append_assoc]
    rfl
  rw [hTag]
  refine (Canvas.grows_write hc (.pushByte 0x5b)).bind fun d hd hFresh => ?_
  have hSame : d.tag = base.tag := by
    obtain ⟨buffer, fields, rfl⟩ := hd
    rfl
  rw [← hFresh, ← hSame]
  refine (Canvas.grows_write hd (.pushText d.tag)).bind fun e he hNext => ?_
  rw [← hNext]
  exact Canvas.grows_write he (.pushByte 0x5d)

theorem paints_time (home : Zone) (layout : TimeLayout) (utc : Bool) :
    Canvas.Paints slack 0x20 base (TextPainter.time home layout utc)
      [utf8 (layout.text home base.time utc)] := by
  refine Canvas.Paints.field fun c hc => ?_
  obtain ⟨buffer, fields, rfl⟩ := hc
  exact Canvas.grows_write ⟨buffer, fields, rfl⟩ (.writeLayout home layout base.time utc)

end TextPainter

/-- The place of a caller in its file, and the function if it is known. -/
def Caller.text (caller : Caller) : List UInt8 :=
  utf8 (caller.file ++ ":" ++ toString caller.line ++
    if caller.function.isEmpty then "" else " " ++ caller.function)

theorem Caller.function_redacted (caller : Caller) (redactor : Option Redactor) :
    (caller.redacted redactor).function = caller.function := by
  cases redactor <;> rfl

namespace TextPainter

variable {slack : Nat} {base : Canvas}

theorem paints_shortCaller (caller : Caller) :
    Canvas.Paints slack 0x20 base (shortCaller caller) [caller.text] := by
  refine Canvas.Paints.field fun c hc => Canvas.grows_write hc ?_
  have hEnd : Writes slack (fun b => if caller.function.isEmpty then .ok b
      else b.pushByte 0x20 >>= (·.pushText caller.function))
      (utf8 (if caller.function.isEmpty then "" else " " ++ caller.function)) := by
    intro b
    dsimp only
    by_cases hFunction : caller.function.isEmpty
    · rw [if_pos hFunction, if_pos hFunction]
      exact Writes.nil b
    · rw [if_neg hFunction, if_neg hFunction, Text.utf8_append]
      exact (Writes.pushByte 0x20).bind (Writes.pushText caller.function) b
  have hText := (Writes.pushText caller.file).bind <| (Writes.pushByte 0x3a).bind <|
    (Writes.writeNat caller.line).bind hEnd
  rw [Caller.text, Text.utf8_append, Text.utf8_append, Text.utf8_append, List.append_assoc,
    List.append_assoc]
  exact hText

theorem paints_attrs {p : Painter} (hp : ∀ a, p.attr a = writeAttr false a.key a.value)
    {output : Marshal → Marshal.Output} (attrs : List Attr)
    (hAttrs : Value.LeavesOf (Value.FieldLeaf slack base.mode output) attrs) :
    Canvas.Paints slack 0x20 base (p.attrs attrs)
      ((Value.flattenAll [] attrs).map (Leaf.text false base.path output)) := by
  induction attrs with
  | nil => exact .none
  | cons a r ih =>
    rw [Value.flattenAll, List.map_append]
    refine (paints_writeAttr false a.key hAttrs.1).bind (ih hAttrs.2) |>.congr fun c hc => ?_
    rw [← hp a]
    rfl

def belowText (lines : List String) : List UInt8 :=
  lines.flatMap fun line => utf8 ("\n    " ++ line)

theorem writes_writeLines (lines : List String) :
    Writes slack (writeLines lines) (belowText lines) := by
  induction lines with
  | nil => exact .nil
  | cons line r ih =>
    rw [belowText, List.flatMap_cons, Text.utf8_append, List.append_assoc]
    exact (Writes.pushText "\n    ").bind ((Writes.pushText line).bind ih)

theorem grows_keepBack (hDeferred : base.deferred = "") (rest : Option String) {c : Canvas}
    (hc : c.Of base) :
    Canvas.Grows slack { base with deferred := rest.getD "" } c [] c.isFresh
      (.ok (keepBack rest c)) := by
  obtain ⟨buffer, fields, rfl⟩ := hc
  rw [keepBack, hDeferred, String.empty_append]
  exact .ok ⟨buffer, fields, rfl⟩ (List.append_nil _).symm rfl

end TextPainter

/-- A painter of lines for people: all but the name, the tag and the first line of the message is
fixed. -/
structure Painter.Readable (p : Painter) (writeFirst : String → Canvas → Canvas.Result) :
    Prop where
  start : p.start = .ok
  time : p.time = TextPainter.time
  message : ∀ message c, p.message message c =
    (c.nextField 0x20 >>= writeFirst (splitMessage message).1) >>= fun c =>
      .ok (keepBack (splitMessage message).2 c)
  attr : ∀ a, p.attr a = writeAttr false a.key a.value
  caller : p.caller = shortCaller
  deferred : p.deferred = TextPainter.deferred
  finish : p.finish = .ok

namespace Painter

theorem readable_plain : plain.Readable fun first c => c.pushText first where
  start := rfl
  time := rfl
  message _ _ := (bind_assoc _ _ _).symm
  attr _ := rfl
  caller := rfl
  deferred := rfl
  finish := rfl

theorem readable_colorful : colorful.Readable fun first c =>
    colored (·.pushText first) c >>= (·.write (·.pad (messageWidth - first.length))) where
  start := rfl
  time := rfl
  message message c := by
    rw [bind_assoc]
    simp only [bind_assoc]
    rfl
  attr _ := rfl
  caller := rfl
  deferred := rfl
  finish := rfl

variable {slack : Nat} {base : Canvas}

theorem paints_loggerName_plain (name : String) (width : Nat) :
    Canvas.Paints slack 0x20 base (plain.loggerName name width)
      (if name.isEmpty then [] else [utf8 name]) := by
  by_cases hName : name.isEmpty
  · rw [if_pos hName]
    exact Canvas.Paints.none.congr fun c _ => if_pos hName
  · rw [if_neg hName]
    exact (Canvas.Paints.field fun c hc => Canvas.grows_write hc (.pushText name)).congr
      fun c _ => if_neg hName

theorem paints_loggerName_colorful (name : String) (width : Nat) :
    Canvas.Paints slack 0x20 base (colorful.loggerName name width)
      (if name.isEmpty ∧ width = 0 then []
        else [utf8 name ++ spaces (width - name.length)]) := by
  by_cases hName : name.isEmpty ∧ width = 0
  · rw [if_pos hName]
    exact Canvas.Paints.none.congr fun c _ => if_pos hName
  · rw [if_neg hName]
    refine (Canvas.Paints.field (f := fun c => c.pushText name >>=
      (·.write (·.pad (width - name.length)))) fun c hc => ?_).congr fun c _ => if_neg hName
    refine (Canvas.grows_write hc (.pushText name)).bind fun d hd hFresh => ?_
    rw [← hFresh]
    exact Canvas.grows_write hd (.pad _)

namespace Readable

variable {p : Painter} {writeFirst : String → Canvas → Canvas.Result}

theorem closes_message (hp : p.Readable writeFirst) (hDeferred : base.deferred = "")
    {message : String} {first : List UInt8}
    (hFirst : ∀ c, c.Of base →
      Canvas.Grows slack base c first c.isFresh (writeFirst (firstLine message) c)) :
    Canvas.Closes slack 0x20 (· = ·) base
      { base with deferred := (splitMessage message).2.getD "" } (p.message message) [first]
      [] := by
  have hKeep : Canvas.Closes slack 0x20 (· = ·) base
      { base with deferred := (splitMessage message).2.getD "" }
      (fun c => .ok (keepBack (splitMessage message).2 c)) [] [] := by
    refine ⟨[], .nil, fun c hc => ?_⟩
    rw [List.isEmpty_nil, Bool.and_true]
    exact grows_keepBack hDeferred (splitMessage message).2 hc
  exact ((Canvas.Paints.field hFirst).shows.closes hKeep).congr fun c _ => hp.message message c

theorem paints_callerStep (hp : p.Readable writeFirst) (options : RenderOptions) :
    Canvas.Paints slack 0x20 base (base.callerStep options p)
      (base.caller.map fun caller => (caller.redacted options.redactor).text).toList := by
  unfold Canvas.callerStep
  rw [hp.caller]
  cases base.caller with
  | some caller => exact paints_shortCaller _
  | none => exact .none

theorem grows_deferred (hp : p.Readable writeFirst) {message : String}
    (hBase : base.deferred = (splitMessage message).2.getD "") {c : Canvas} (hc : c.Of base) :
    Canvas.Grows slack base c (belowText (linesBelow message)) c.isFresh (p.deferred c) := by
  have hSame : c.deferred = base.deferred := by
    obtain ⟨buffer, fields, rfl⟩ := hc
    rfl
  rw [hp.deferred, TextPainter.deferred, hSame, hBase]
  exact Canvas.grows_write hc (writes_writeLines _)

/-- The line of a painter for people. -/
theorem grows_render (hp : p.Readable writeFirst) (options : RenderOptions)
    {output : Marshal → Marshal.Output} {name : List (List UInt8)} {tag first : List UInt8}
    (hFresh : base.isFresh = true) (hDeferred : base.deferred = "")
    (hAttrs : Value.LeavesOf (Value.FieldLeaf slack base.mode output) base.table.attrs)
    (hName : Canvas.Paints slack 0x20 base (p.loggerName base.logger options.nameWidth) name)
    (hTag : Canvas.Paints slack 0x20 base p.level [tag])
    (hFirst : ∀ c, c.Of base → Canvas.Grows slack base c first c.isFresh
      (writeFirst (firstLine base.message) c)) :
    ∃ after, Canvas.Grows slack after base (joined 0x20 true
      ([utf8 (options.timeLayout.text options.home base.time options.utc)] ++
        (name ++ ([tag] ++ ([first] ++
          ((Value.flattenAll [] base.table.attrs).map (Leaf.text false base.path output) ++
            (base.caller.map fun caller => (caller.redacted options.redactor).text).toList))))) ++
      (belowText (linesBelow base.message) ++ [0x0a])) false (base.render options p) := by
  have hStart : ∀ c, c.Of base → Canvas.Grows slack base c [] c.isFresh (p.start c) := by
    rw [hp.start]
    exact fun c hc => Canvas.grows_none hc
  have hTime : Canvas.Paints slack 0x20 base (p.time options.home options.timeLayout options.utc)
      [utf8 (options.timeLayout.text options.home base.time options.utc)] := by
    rw [hp.time]
    exact paints_time options.home options.timeLayout options.utc
  have hMessage := hp.closes_message hDeferred hFirst
  -- The last steps run on the canvas that the message left, with the rest of it kept back.
  have hShown : Canvas.Paints slack 0x20
      { base with deferred := (splitMessage base.message).2.getD "" } (p.attrs base.table.attrs)
      ((Value.flattenAll [] base.table.attrs).map (Leaf.text false base.path output)) :=
    paints_attrs hp.attr base.table.attrs hAttrs
  obtain ⟨texts, hTexts, hRender⟩ := Canvas.exists_render_below hFresh hStart hTime.shows
    hName.shows hTag.shows hMessage hShown.shows (hp.paints_callerStep options).shows
    (fun c hc => hp.grows_deferred rfl hc) (fun c hc => hp.finish ▸ Canvas.grows_none hc)
  rw [List.forall₂_eq_eq_eq] at hTexts
  subst hTexts
  exact ⟨_, hRender⟩

end Readable

end Painter

/-! ## Jobs -/

namespace Job

/-- The last fields of a line: the attributes and the caller. -/
def lastTexts (j : Job) (output : Marshal → Marshal.Output) : List (List UInt8) :=
  (Value.flattenAll [] (Attr.resolve j.given)).map (Leaf.text false "" output) ++
    (j.record.caller.map fun caller => (caller.redacted j.options.redactor).text).toList

/-- The name of the logger, filled up to the width of names. Without a name there is a field of
spaces in its place, if names have a width. -/
def namePieces (j : Job) : List Piece :=
  if j.record.logger.isEmpty then
    [.added (if j.options.nameWidth = 0 then [] else 0x20 :: spaces j.options.nameWidth)]
  else
    [.kept (0x20 :: utf8 j.record.logger),
      .added (spaces (j.options.nameWidth - j.record.logger.length))]

/-- A field in the colours of the level. -/
def coloredPieces (j : Job) (text : List UInt8) : List Piece :=
  [.kept [0x20], .added (Color.startText j.foreground j.background), .kept text,
    .added (Color.endText j.foreground j.background)]

/-- The first line of a record: the time, the name, the tag, the first line of the message filled up
to its width, and the last fields. -/
def firstPieces (j : Job) (output : Marshal → Marshal.Output) : List Piece :=
  .kept (utf8 (j.options.timeLayout.text j.options.home j.record.time j.options.utc)) ::
    (j.namePieces ++ (j.coloredPieces (tagText j.tag) ++
      (j.coloredPieces (utf8 (firstLine j.record.message)) ++
        [.added (spaces (messageWidth - (firstLine j.record.message).length)),
          .kept ((j.lastTexts output).flatMap (0x20 :: ·))])))

/-- All lines of a record, with what is left of its message below the first. -/
def pieces (j : Job) (output : Marshal → Marshal.Output) : List Piece :=
  j.firstPieces output ++ [.kept (belowText (linesBelow j.record.message) ++ [0x0a])]

variable {slack : Nat} {output : Marshal → Marshal.Output}

theorem delivers_readable (j : Job) (c : Canvas) (mode : FormatMode)
    {writeFirst : String → Canvas → Canvas.Result} {name : List (List UInt8)}
    {tag first : List UInt8} (hp : (Painter.ofMode mode).Readable writeFirst)
    (hLeaves : Value.LeavesOf (Value.FieldLeaf slack mode output) j.given)
    (hName : ∀ base, Canvas.Paints slack 0x20 base
      ((Painter.ofMode mode).loggerName j.record.logger j.options.nameWidth) name)
    (hTag : ∀ base : Canvas, base.Holds (j.inFormat mode) →
      Canvas.Paints slack 0x20 base (Painter.ofMode mode).level [tag])
    (hFirst : ∀ base : Canvas, base.Holds (j.inFormat mode) → ∀ c, c.Of base →
      Canvas.Grows slack base c first c.isFresh (writeFirst (firstLine j.record.message) c)) :
    Delivers slack (utf8 (j.options.timeLayout.text j.options.home j.record.time j.options.utc) ++
      (name ++ ([tag] ++ ([first] ++ j.lastTexts output))).flatMap (0x20 :: ·) ++
        (belowText (linesBelow j.record.message) ++ [0x0a])) ((j.inFormat mode).run c) := by
  have hBase := (j.inFormat mode).holds_load c
  rw [Job.run]
  generalize (j.inFormat mode).load c = base at hBase
  have hAttrs : Value.LeavesOf (Value.FieldLeaf slack base.mode output) base.table.attrs := by
    rw [hBase.mode, hBase.attrs]
    exact Job.leavesOf_resolve hLeaves
  have hName' := hName base
  rw [← show base.logger = j.record.logger from hBase.logger] at hName'
  have hFirst' := hFirst base hBase
  rw [← show base.message = j.record.message from hBase.message] at hFirst'
  obtain ⟨after, hRender⟩ := hp.grows_render j.options hBase.fresh hBase.deferred hAttrs hName'
    (hTag base hBase) hFirst'
  rw [hBase.time, hBase.message, hBase.attrs, hBase.caller, hBase.path, List.singleton_append,
    joined, joined_false] at hRender
  exact hRender.delivers hBase.empty

/-- The line without what is added: its fields with a space before each but the first. -/
theorem lineText_plain (j : Job) (output : Marshal → Marshal.Output) :
    lineText false (j.pieces output) =
      utf8 (j.options.timeLayout.text j.options.home j.record.time j.options.utc) ++
        ((if j.record.logger.isEmpty then [] else [utf8 j.record.logger]) ++ ([tagText j.tag] ++
          ([utf8 (firstLine j.record.message)] ++ j.lastTexts output))).flatMap (0x20 :: ·) ++
        (belowText (linesBelow j.record.message) ++ [0x0a]) := by
  unfold pieces firstPieces namePieces coloredPieces
  cases j.record.logger.isEmpty <;> simp [lineText, Piece.text]

theorem lineText_colorful (j : Job) (output : Marshal → Marshal.Output) :
    lineText true (j.pieces output) =
      utf8 (j.options.timeLayout.text j.options.home j.record.time j.options.utc) ++
        ((if j.record.logger.isEmpty ∧ j.options.nameWidth = 0 then []
          else [utf8 j.record.logger ++
            spaces (j.options.nameWidth - j.record.logger.length)]) ++
          ([Color.startText j.foreground j.background ++
            (tagText j.tag ++ Color.endText j.foreground j.background)] ++
          ([Color.startText j.foreground j.background ++
            (utf8 (firstLine j.record.message) ++ Color.endText j.foreground j.background) ++
              spaces (messageWidth - (firstLine j.record.message).length)] ++
            j.lastTexts output))).flatMap (0x20 :: ·) ++
        (belowText (linesBelow j.record.message) ++ [0x0a]) := by
  unfold pieces firstPieces namePieces coloredPieces
  -- Without a name the padding is as wide as names are, and that is the field of spaces.
  by_cases hName : j.record.logger.isEmpty
  · have hEmpty : j.record.logger = "" := String.isEmpty_iff.mp hName
    have hBytes : utf8 "" = [] := rfl
    by_cases hWidth : j.options.nameWidth = 0 <;>
      simp [lineText, Piece.text, hEmpty, hBytes, hWidth]
  · simp [lineText, Piece.text, hName]

theorem plain_line (j : Job) (c : Canvas)
    (hLeaves : Value.LeavesOf (Value.FieldLeaf slack .plain output) j.given) :
    Delivers slack (lineText false (j.pieces output)) ((j.inFormat .plain).run c) := by
  have hTag : ∀ base : Canvas, base.Holds (j.inFormat .plain) →
      Canvas.Paints slack 0x20 base Painter.plain.level [tagText j.tag] := by
    intro base hBase
    rw [← show base.tag = j.tag from hBase.tag]
    exact .field fun c hc => grows_bracketedTag hc
  rw [lineText_plain]
  exact j.delivers_readable c .plain Painter.readable_plain hLeaves
    (fun base => Painter.paints_loggerName_plain _ _) hTag
    (fun base _ c hc => Canvas.grows_write hc (.pushText _))

theorem colorful_line (j : Job) (c : Canvas)
    (hLeaves : Value.LeavesOf (Value.FieldLeaf slack .colorful output) j.given) :
    Delivers slack (lineText true (j.pieces output)) ((j.inFormat .colorful).run c) := by
  have hTag : ∀ base : Canvas, base.Holds (j.inFormat .colorful) →
      Canvas.Paints slack 0x20 base Painter.colorful.level
        [Color.startText j.foreground j.background ++
          (tagText j.tag ++ Color.endText j.foreground j.background)] := by
    intro base hBase
    rw [← show base.tag = j.tag from hBase.tag,
      ← show base.foreground = j.foreground from hBase.foreground,
      ← show base.background = j.background from hBase.background]
    exact .field fun c hc => grows_colored (fun c hc => grows_bracketedTag hc) hc
  have hFirst : ∀ base : Canvas, base.Holds (j.inFormat .colorful) → ∀ c, c.Of base →
      Canvas.Grows slack base c (Color.startText j.foreground j.background ++
        (utf8 (firstLine j.record.message) ++ Color.endText j.foreground j.background) ++
          spaces (messageWidth - (firstLine j.record.message).length)) c.isFresh
        (colored (·.pushText (firstLine j.record.message)) c >>=
          (·.write (·.pad (messageWidth - (firstLine j.record.message).length)))) := by
    intro base hBase c hc
    rw [← show base.foreground = j.foreground from hBase.foreground,
      ← show base.background = j.background from hBase.background]
    refine (grows_colored (fun c hc => Canvas.grows_write hc (.pushText _)) hc).bind
      fun d hd hFresh => ?_
    rw [← hFresh]
    exact Canvas.grows_write hd (.pad _)
  rw [lineText_colorful]
  exact j.delivers_readable c .colorful Painter.readable_colorful hLeaves
    (fun base => Painter.paints_loggerName_colorful _ _) hTag hFirst

/-- The colourful line is the plain one with colours around the tag and the first line of the
message, and with padding. -/
theorem colorful_inserts (j : Job) (c : Canvas)
    (hPlain : Value.LeavesOf (Value.FieldLeaf slack .plain output) j.given)
    (hColorful : Value.LeavesOf (Value.FieldLeaf slack .colorful output) j.given) :
    (∀ colors, Delivers slack (lineText false (j.pieces output))
      (({ j with colors }.inFormat .plain).run c)) ∧
    Delivers slack (lineText true (j.pieces output)) ((j.inFormat .colorful).run c) ∧
    (j.foreground = none → j.background = none → j.record.logger ≠ "" →
      j.options.nameWidth ≤ j.record.logger.length →
      32 ≤ (firstLine j.record.message).length →
      lineText true (j.pieces output) = lineText false (j.pieces output)) := by
  refine ⟨fun colors => ?_, j.colorful_line c hColorful, ?_⟩
  · have hLine := plain_line { j with colors } c hPlain
    rw [lineText_plain] at hLine ⊢
    exact hLine
  · intro hForeground hBackground hName hWidth hFirst
    have hStart : Color.startText none none = [] := rfl
    have hEnd : Color.endText none none = [] := rfl
    have hPadding : messageWidth - (firstLine j.record.message).length = 0 :=
      Nat.sub_eq_zero_of_le hFirst
    have hEmpty : j.record.logger.isEmpty = false := by
      rw [Bool.eq_false_iff, ne_eq, String.isEmpty_iff]
      exact hName
    rw [lineText_plain, lineText_colorful, hForeground, hBackground, hStart, hEnd, hPadding, hEmpty,
      Nat.sub_eq_zero_of_le hWidth]
    simp [spaces]

end Job

/-- A record with a message on three lines and values in a group. -/
def Job.ofLines : Job :=
  { Job.ofPair with
    registry := .new
    record :=
      { level := .info
        time := .epoch
        logger := "api"
        message := "ok\r\n\r\nthen\n"
        caller := some ⟨"/home/alice/lib.rs", 3, "main"⟩ }
    colors := true
    options :=
      { timeLayout := .rfc3339
        utc := true
        home := .universal
        nameWidth := 5
        redactor := some (Redactor.empty.withHome "/home/alice") } }

theorem Job.leavesOf_lines (mode : FormatMode) :
    Value.LeavesOf (Value.FieldLeaf 5 mode fun _ => .pair) Job.ofLines.given := by
  refine ⟨⟨?_, Marshal.appends_pair mode, trivial⟩, trivial⟩
  show Instant.epoch.Valid
  decide

theorem Job.colorful_inserts_of_lines :
    Value.LeavesOf (Value.FieldLeaf 5 .plain fun _ => .pair) Job.ofLines.given ∧
      Value.LeavesOf (Value.FieldLeaf 5 .colorful fun _ => .pair) Job.ofLines.given ∧
      Delivers 5 (utf8 ("1970-01-01T00:00:00Z api [INF] ok" ++
        " request.at=\"1970-01-01T00:00:00.000000000Z\" request.size=[3,4] ~/lib.rs:3 main" ++
        "\n    \n    then\n")) ((Job.ofLines.inFormat .plain).run .new) ∧
      Delivers 5 (utf8 ("1970-01-01T00:00:00Z api   \x1b[32m[INF]\x1b[0m \x1b[32mok\x1b[0m" ++
        "                              " ++
        " request.at=\"1970-01-01T00:00:00.000000000Z\" request.size=[3,4] ~/lib.rs:3 main" ++
        "\n    \n    then\n")) ((Job.ofLines.inFormat .colorful).run .new) := by
  have hLines := Job.colorful_inserts Job.ofLines .new (Job.leavesOf_lines .plain)
    (Job.leavesOf_lines .colorful)
  refine ⟨Job.leavesOf_lines .plain, Job.leavesOf_lines .colorful, ?_, ?_⟩
  · refine (congrArg (Delivers 5 · _) ?_).mp (hLines.1 true)
    decide +kernel
  · refine (congrArg (Delivers 5 · _) ?_).mp hLines.2.1
    decide +kernel

end Logline
