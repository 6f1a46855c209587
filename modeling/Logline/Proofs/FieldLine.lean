import Logline.Proofs.FieldValues
import Logline.Proofs.Painting

/-! # Lines of fields

The line of a record is a sequence of `key=value` fields. Split by a reader that does not know how
it was written, it gives back the record, one field for each value in the attributes, depth first,
and the caller.
-/

namespace Logline

open Buffer (Writes Grows)
open Fields (SpellsField Token isWord fields?)
open TextPainter
open Text (utf8)

/-- What is left of a key. -/
def wordBytes (key : String) : List UInt8 := (utf8 key).filter isWord

/-- The key of a field under the groups `path`. -/
def fieldKey (path key : String) : List UInt8 :=
  wordBytes path ++ if wordBytes key = [] then [0x5f] else wordBytes key

/-- The key of a field as a painter writes it, which sanitizes it or takes it as it is. -/
def keyText (sanitized : Bool) (path key : String) : List UInt8 :=
  if sanitized then fieldKey path key else utf8 (path ++ key)

mutual

/-- One field for each value in an attribute that is no group, depth first. -/
def Value.fields (output : Marshal → Marshal.Output) (path key : String) :
    Value → List (List UInt8 × List UInt8)
  | .group attrs => Value.fieldsOf output (path ++ key ++ ".") attrs
  | value => [(fieldKey path key, value.fieldBytes output)]

def Value.fieldsOf (output : Marshal → Marshal.Output) (path : String) :
    List (Entry Value) → List (List UInt8 × List UInt8)
  | [] => []
  | ⟨key, value⟩ :: r => value.fields output path key ++ Value.fieldsOf output path r

end

def Caller.fields (caller : Caller) : List (List UInt8 × List UInt8) :=
  [(utf8 "caller.file", utf8 caller.file), (utf8 "caller.line", utf8 (toString caller.line))] ++
    if caller.function.isEmpty then [] else [(utf8 "caller.function", utf8 caller.function)]

/-- The fields of a line: the record, its attributes and its caller. -/
def Job.fields (j : Job) (output : Marshal → Marshal.Output) : List (List UInt8 × List UInt8) :=
  [(utf8 "time", utf8 (j.options.timeLayout.text j.options.home j.record.time j.options.utc))] ++
    ((if j.record.logger.isEmpty then [] else [(utf8 "logger", utf8 j.record.logger)]) ++
    ([(utf8 "level", utf8 (j.registry.title j.record.level))] ++
    ([(utf8 "msg", utf8 j.record.message)] ++
    (Value.fieldsOf output "" (Attr.resolve j.given) ++
    (j.record.caller.map fun caller => (caller.redacted j.options.redactor).fields).getD []))))

theorem isKeyByte_eq (b : UInt8) : isKeyByte b = isWord b := by
  have hAll : ∀ n : Fin 256, isKeyByte (UInt8.ofNat n) = isWord (UInt8.ofNat n) := by
    decide +kernel
  have hByte := hAll ⟨b.toNat, b.toNat_lt⟩
  rwa [UInt8.ofNat_toNat] at hByte

theorem sanitize_eq (key : String) : sanitize key = wordBytes key :=
  List.filter_congr fun b _ => isKeyByte_eq b

namespace TextPainter

variable {slack : Nat} {base : Canvas}

abbrev ShowsFields (slack : Nat) (base : Canvas) (f : Canvas → Canvas.Result)
    (fields : List (List UInt8 × List UInt8)) : Prop :=
  Canvas.Shows slack 0x20 SpellsField base f fields

theorem writes_pushEach (bytes : List UInt8) : Writes slack (pushEach bytes) bytes := by
  induction bytes with
  | nil => exact .nil
  | cons byte r ih => exact (Writes.pushByte byte).bind ih

theorem writes_writeKey (sanitized : Bool) (path key : String) :
    Writes slack (writeKey sanitized path key) (keyText sanitized path key) := by
  cases sanitized with
  | false =>
    show Writes slack _ (utf8 (path ++ key))
    rw [Text.utf8_append]
    exact (Writes.pushText path).bind (Writes.pushText key)
  | true =>
    show Writes slack _ (fieldKey path key)
    unfold fieldKey
    rw [← sanitize_eq, ← sanitize_eq]
    refine Writes.bind (writes_pushEach _) ?_
    cases sanitize key with
    | nil => exact Writes.pushByte 0x5f
    | cons byte r => exact writes_pushEach _

theorem paints_writeLeaf (sanitized : Bool) (path key : String)
    {output : Marshal → Marshal.Output} {v : Value} (hGroup : v.isGroup = false)
    (hv : v.Leaves (Value.FieldLeaf slack base.mode output)) :
    Canvas.Paints slack 0x20 base (writeLeaf sanitized path key v)
      [keyText sanitized path key ++ 0x3d :: v.fieldText output] := by
  refine Canvas.Paints.field fun c hc => ?_
  have hField := (writes_writeKey sanitized path key).bind
    ((Writes.pushByte 0x3d).bind (writes_writeValue hGroup hv))
  obtain ⟨buffer, fields, rfl⟩ := hc
  exact Canvas.grows_write ⟨buffer, fields, rfl⟩ hField

theorem fieldKey_ne_nil (path key : String) : fieldKey path key ≠ [] := by
  unfold fieldKey
  split <;> simp_all

theorem isWord_fieldKey {path key : String} : ∀ b ∈ fieldKey path key, isWord b = true := by
  intro b hb
  rcases List.mem_append.mp hb with hPath | hKey
  · exact (List.mem_filter.mp hPath).2
  · split at hKey
    · rw [List.mem_singleton.mp hKey]
      rfl
    · exact (List.mem_filter.mp hKey).2

theorem shows_writeLeaf (key : String) {output : Marshal → Marshal.Output} {v : Value}
    (hGroup : v.isGroup = false) (hv : v.Leaves (Value.FieldLeaf slack base.mode output)) :
    ShowsFields slack base (writeLeaf true base.path key v)
      [(fieldKey base.path key, v.fieldBytes output)] := by
  have hToken := token_fieldText hGroup hv
  exact ⟨_, paints_writeLeaf true base.path key hGroup hv,
    .cons (.mk (fieldKey_ne_nil _ _) isWord_fieldKey hToken) .nil⟩

mutual

theorem shows_writeAttr (base : Canvas) (key : String) {output : Marshal → Marshal.Output}
    (v : Value) (hv : v.Leaves (Value.FieldLeaf slack base.mode output)) :
    ShowsFields slack base (writeAttr true key v) (v.fields output base.path key) := by
  cases v with
  | group attrs =>
    obtain ⟨texts, hPaints, hFields⟩ :=
      shows_writeAttrs { base with path := base.path ++ key ++ "." } attrs hv
    refine ⟨texts, (hPaints.within (base.path ++ key ++ ".")).congr ?_, hFields⟩
    rintro _ ⟨buffer, fields, rfl⟩
    exact writeAttr_group true key attrs _
  | _ =>
    refine (shows_writeLeaf key rfl hv).congr ?_
    rintro _ ⟨buffer, fields, rfl⟩
    exact writeAttr_leaf true key rfl _

theorem shows_writeAttrs (base : Canvas) {output : Marshal → Marshal.Output}
    (attrs : List (Entry Value))
    (hAttrs : Value.LeavesOf (Value.FieldLeaf slack base.mode output) attrs) :
    ShowsFields slack base (writeAttrs true attrs) (Value.fieldsOf output base.path attrs) := by
  cases attrs with
  | nil => exact .none
  | cons a r =>
    obtain ⟨key, value⟩ := a
    exact (shows_writeAttr base key value hAttrs.1).bind (shows_writeAttrs base r hAttrs.2)

end

theorem shows_attrs (base : Canvas) {output : Marshal → Marshal.Output} (attrs : List Attr)
    (hAttrs : Value.LeavesOf (Value.FieldLeaf slack base.mode output) attrs) :
    ShowsFields slack base (Painter.logfmt.attrs attrs)
      (Value.fieldsOf output base.path attrs) := by
  induction attrs with
  | nil => exact .none
  | cons a r ih => exact (shows_writeAttr base a.key a.value hAttrs.1).bind (ih hAttrs.2)

/-! ## The record and its caller -/

def isKey (key : String) : Bool := !(utf8 key).isEmpty && (utf8 key).all isWord

theorem spellsField (key : String) (hKey : isKey key = true) {text value : List UInt8}
    (hToken : Token text value) : SpellsField (utf8 key ++ 0x3d :: text) (utf8 key, value) := by
  rw [isKey, Bool.and_eq_true, Bool.not_eq_true', List.isEmpty_eq_false_iff,
    List.all_eq_true] at hKey
  exact .mk hKey.1 hKey.2 hToken

theorem shows_field (label key : String) (hLabel : utf8 label = utf8 key ++ [0x3d])
    (hKey : isKey key = true) {f : Buffer → Buffer.Result} {value : List UInt8}
    (hf : Tokens slack f value) :
    ShowsFields slack base (field label f) [(utf8 key, value)] := by
  obtain ⟨text, hText, hToken⟩ := hf
  have hField := spellsField key hKey hToken
  rw [List.append_cons, ← hLabel] at hField
  refine Canvas.Shows.field (fun c hc => ?_) hField
  refine (Canvas.grows_write hc (.pushText label)).bind fun d hd hFresh => ?_
  rw [← hFresh]
  exact Canvas.grows_write hd hText

theorem shows_time (home : Zone) (layout : TimeLayout) (utc : Bool) :
    ShowsFields slack base (Painter.logfmt.time home layout utc)
      [(utf8 "time", utf8 (layout.text home base.time utc))] := by
  have hTime : Tokens slack (LogfmtPainter.writeTime home layout base.time utc)
      (utf8 (layout.text home base.time utc)) :=
    ⟨_, writes_quoteTail (.writeLayout home layout base.time utc), token_tokenText _⟩
  refine (shows_field "time=" "time" (by decide) (by decide) hTime).congr ?_
  rintro _ ⟨buffer, fields, rfl⟩
  rfl

theorem shows_loggerName (name : String) (width : Nat) :
    ShowsFields slack base (Painter.logfmt.loggerName name width)
      (if name.isEmpty then [] else [(utf8 "logger", utf8 name)]) := by
  by_cases hName : name.isEmpty
  · rw [if_pos hName]
    exact Canvas.Shows.none.congr fun c _ => if_pos hName
  · rw [if_neg hName]
    exact (shows_field "logger=" "logger" (by decide) (by decide)
      (tokens_writeText name)).congr fun c _ => if_neg hName

theorem shows_level :
    ShowsFields slack base Painter.logfmt.level [(utf8 "level", utf8 base.title)] := by
  refine (shows_field "level=" "level" (by decide) (by decide)
    (tokens_writeText base.title)).congr ?_
  rintro _ ⟨buffer, fields, rfl⟩
  rfl

theorem shows_message (message : String) :
    ShowsFields slack base (Painter.logfmt.message message) [(utf8 "msg", utf8 message)] :=
  shows_field "msg=" "msg" (by decide) (by decide) (tokens_writeText message)

theorem exists_function (function : String) : ∃ texts,
    List.Forall₂ SpellsField texts
      (if function.isEmpty then [] else [(utf8 "caller.function", utf8 function)]) ∧
    Writes slack (fun b => if function.isEmpty then .ok b
      else b.pushText " caller.function=" >>= writeText function) (joined 0x20 false texts) := by
  by_cases hEmpty : function.isEmpty
  · refine ⟨[], ?_, fun b => ?_⟩
    · rw [if_pos hEmpty]
      exact .nil
    · show Grows slack b [] (if function.isEmpty then _ else _)
      rw [if_pos hEmpty]
      exact Writes.nil b
  · refine ⟨[utf8 "caller.function" ++ 0x3d :: tokenText (utf8 function)], ?_, fun b => ?_⟩
    · rw [if_neg hEmpty]
      exact .cons (spellsField "caller.function" (by decide) (token_tokenText _)) .nil
    · have hLabel : utf8 " caller.function=" = 0x20 :: (utf8 "caller.function" ++ [0x3d]) := by
        decide
      have hFunction : Writes slack _ _ :=
        (Writes.pushText " caller.function=").bind (writes_writeText function)
      rw [hLabel] at hFunction
      show Grows slack b _ (if function.isEmpty then _ else _)
      rw [if_neg hEmpty]
      simpa [joined] using hFunction b

theorem shows_caller (caller : Caller) :
    ShowsFields slack base (Painter.logfmt.caller caller) caller.fields := by
  have hFile := spellsField "caller.file" (by decide) (token_tokenText (utf8 caller.file))
  have hLine := spellsField "caller.line" (by decide) (token_nat caller.line)
  obtain ⟨texts, hFunction, hRest⟩ := exists_function caller.function
  have hLabel : utf8 "caller.file=" = utf8 "caller.file" ++ [0x3d] := by decide
  have hLineLabel : utf8 " caller.line=" = 0x20 :: (utf8 "caller.line" ++ [0x3d]) := by decide
  have hWrite : Writes slack (LogfmtPainter.writeCaller caller) _ :=
    (writes_writeText caller.file).bind <| (Writes.pushText " caller.line=").bind <|
      (Writes.writeNat caller.line).bind hRest
  refine ⟨_, .several (List.cons_ne_nil _ _) (.field fun c hc => ?_),
    .cons hFile (.cons hLine hFunction)⟩
  have hField := (Canvas.grows_write hc (.pushText "caller.file=")).bind
    fun d hd hFresh => hFresh ▸ Canvas.grows_write hd hWrite
  rw [hLabel, hLineLabel] at hField
  simpa [joined, Canvas.pushText] using hField

theorem shows_callerStep (options : RenderOptions) :
    ShowsFields slack base (base.callerStep options .logfmt)
      ((base.caller.map fun caller => (caller.redacted options.redactor).fields).getD []) := by
  unfold Canvas.callerStep
  cases base.caller with
  | some caller => exact shows_caller _
  | none => exact .none

end TextPainter

/-- The line of a record in fields, on any canvas. -/
theorem Job.logfmt_line (j : Job) (c : Canvas) {slack : Nat} {output : Marshal → Marshal.Output}
    (hLeaves : Value.LeavesOf (Value.FieldLeaf slack .logfmt output) j.given) :
    ∃ line, fields? line = some (j.fields output) ∧ 0x0a ∉ line ∧
      Delivers slack (line ++ [0x0a]) ((j.inFormat .logfmt).run c) := by
  have hBase := (j.inFormat .logfmt).holds_load c
  rw [Job.run]
  generalize (j.inFormat .logfmt).load c = base at hBase
  have hAttrs : Value.LeavesOf (Value.FieldLeaf slack base.mode output) base.table.attrs := by
    rw [hBase.mode, hBase.attrs]
    exact Job.leavesOf_resolve hLeaves
  obtain ⟨texts, hFields, hRender⟩ := Canvas.exists_render hBase.fresh
    (fun c hc => Canvas.grows_none hc)
    (shows_time j.options.home j.options.timeLayout j.options.utc)
    (shows_loggerName base.logger j.options.nameWidth) shows_level (shows_message base.message)
    (shows_attrs base base.table.attrs hAttrs) (shows_callerStep j.options)
    (fun c hc => Canvas.grows_none hc) (fun c hc => Canvas.grows_none hc)
  rw [hBase.time, hBase.logger, hBase.title, hBase.message, hBase.attrs, hBase.caller,
    hBase.path] at hFields
  have hNonempty : texts ≠ [] := by
    rintro rfl
    cases hFields
  refine ⟨joined 0x20 true texts, Fields.fields?_joined hFields hNonempty,
    Fields.oneLine_joined hFields, ?_⟩
  exact hRender.delivers hBase.empty

theorem Job.logfmt_line_of_pair :
    Value.LeavesOf (Value.FieldLeaf 5 .logfmt fun _ => .pair) Job.ofPair.given ∧
      ∃ line, fields? line = some (Job.ofPair.fields fun _ => .pair) ∧ 0x0a ∉ line ∧
        Delivers 5 (line ++ [0x0a]) ((Job.ofPair.inFormat .logfmt).run .new) := by
  have hLeaves : Value.LeavesOf (Value.FieldLeaf 5 .logfmt fun _ => .pair) Job.ofPair.given := by
    refine ⟨⟨?_, Marshal.appends_pair .logfmt, trivial⟩, trivial⟩
    show Instant.epoch.Valid
    decide
  exact ⟨hLeaves, Job.logfmt_line Job.ofPair .new hLeaves⟩

end Logline
