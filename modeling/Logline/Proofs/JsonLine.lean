import Logline.Proofs.JsonValues
import Logline.Proofs.Painting

/-! # Lines of JSON

The line of a record is one object. Read with its members in order and all of their duplicates, it
gives back the record, the resolved attributes and the caller.
-/

namespace Logline

open Buffer (Writes Grows escaped quotedText)
open Json (Content Spells SpellsMember content?)
open JsonPainter (Images images_writeQuoted)
open Text (utf8)

/-- What a time stands for: a number where the layout gives one, a text otherwise. -/
def TimeLayout.image (home : Zone) (layout : TimeLayout) (t : Instant) (utc : Bool) : Content :=
  match layout with
  | .unix => .number (t.seconds < 0) t.seconds.natAbs
  | .unixMillis => .number (t.millis < 0) t.millis.natAbs
  | .unixMicros => .number (t.micros < 0) t.micros.natAbs
  | _ => .string (layout.text home t utc)

def Caller.image (caller : Caller) : Content :=
  .object [("file", .string caller.file), ("line", .number false caller.line),
    ("function", .string caller.function)]

/-- The members of a line: the record, its attributes and its caller. -/
def Job.members (j : Job) (output : Marshal → Marshal.Output) : List (String × Content) :=
  [("time", j.options.timeLayout.image j.options.home j.record.time j.options.utc)] ++
    ((if j.record.logger.isEmpty then [] else [("logger", .string j.record.logger)]) ++
    ([("level", .string (j.registry.title j.record.level))] ++
    ([("msg", .string j.record.message)] ++
    (Value.members output (Attr.resolve j.given) ++
    (j.record.caller.toList.map fun caller =>
      ("caller", (caller.redacted j.options.redactor).image))))))

namespace JsonPainter

variable {slack : Nat} {base : Canvas}

theorem grows_escapeTail {b d : Buffer} {s : String} (hd : d.toList = b.toList ++ utf8 s) :
    Grows slack b (escaped (utf8 s)) (escapeTail d b.size) := by
  rw [escapeTail, Buffer.tail_of_append hd]
  show Grows slack b (escaped (utf8 s)) ((d.truncate b.size).writeEscaped (Text.lossy (utf8 s)))
  rw [Text.lossy_utf8]
  exact (Writes.writeEscaped s _).of_toList (Buffer.truncate_of_append hd)

/-- A custom pattern may give any text, so what it gives is written again with escapes. -/
theorem writes_customTime (home : Zone) (pattern : String) (t : Instant) (utc : Bool) :
    Writes slack (writeTime home (.custom pattern) t utc)
      (quotedText (utf8 ((TimeLayout.custom pattern).text home t utc))) := by
  intro b
  refine (Writes.pushByte 0x22 b).bind fun d _ => ?_
  refine (Writes.writeLayout home (.custom pattern) t utc d).replace ?_ fun e he => ?_
  · exact (Buffer.length_le_escaped _).trans (List.length_append ▸ Nat.le_add_right _ _)
  · exact (grows_escapeTail he).bind fun d _ => Writes.pushByte 0x22 d

theorem images_writeTime (home : Zone) (layout : TimeLayout) {t : Instant} (ht : t.Valid)
    (utc : Bool) : Images slack (writeTime home layout t utc) (layout.image home t utc) := by
  have hFixed : ∀ layout : TimeLayout, (∀ pattern, layout ≠ .custom pattern) →
      Images slack (quoted (·.writeLayout home layout t utc)) (.string (layout.text home t utc)) :=
    fun layout hCustom =>
      images_quoted (.writeLayout home layout t utc) (plain_layout hCustom home ht utc)
  cases layout with
  | iso8601Nanos => exact hFixed .iso8601Nanos (by simp)
  | iso8601Micros => exact hFixed .iso8601Micros (by simp)
  | iso8601Millis => exact hFixed .iso8601Millis (by simp)
  | rfc3339 => exact hFixed .rfc3339 (by simp)
  | unix => exact images_writeInt t.seconds
  | unixMillis => exact images_writeInt t.millis
  | unixMicros => exact images_writeInt t.micros
  | custom pattern => exact ⟨_, writes_customTime home pattern t utc, Json.spells_string _⟩

abbrev ShowsMembers (slack : Nat) (base : Canvas) (f : Canvas → Canvas.Result)
    (members : List (String × Content)) : Prop :=
  Canvas.Shows slack 0x2c SpellsMember base f members

theorem shows_field (label key : String) {f : Buffer → Buffer.Result} {content : Content}
    (hLabel : utf8 label = quotedText (utf8 key) ++ [0x3a]) (hf : Images slack f content) :
    ShowsMembers slack base (field label f) [(key, content)] := by
  obtain ⟨text, hText, hSpells⟩ := hf
  have hMember := (Json.spellsString_quotedText key).member hSpells
  rw [List.append_cons, ← hLabel] at hMember
  refine Canvas.Shows.field (fun c hc => ?_) hMember
  refine (Canvas.grows_write hc (.pushText label)).bind fun d hd hFresh => ?_
  rw [← hFresh]
  exact Canvas.grows_write hd hText

theorem shows_time (home : Zone) (layout : TimeLayout) (ht : base.time.Valid) (utc : Bool) :
    ShowsMembers slack base (Painter.json.time home layout utc)
      [("time", layout.image home base.time utc)] := by
  refine (shows_field "\"time\":" "time" (by decide) (images_writeTime home layout ht utc)).congr ?_
  rintro _ ⟨buffer, fields, rfl⟩
  rfl

theorem shows_loggerName (name : String) (width : Nat) :
    ShowsMembers slack base (Painter.json.loggerName name width)
      (if name.isEmpty then [] else [("logger", .string name)]) := by
  by_cases hName : name.isEmpty
  · rw [if_pos hName]
    exact Canvas.Shows.none.congr fun c _ => if_pos hName
  · rw [if_neg hName]
    exact (shows_field "\"logger\":" "logger" (by decide) (images_writeQuoted name)).congr
      fun c _ => if_neg hName

theorem shows_level :
    ShowsMembers slack base Painter.json.level [("level", .string base.title)] := by
  refine (shows_field "\"level\":" "level" (by decide) (images_writeQuoted base.title)).congr ?_
  rintro _ ⟨buffer, fields, rfl⟩
  rfl

theorem shows_message (message : String) :
    ShowsMembers slack base (Painter.json.message message) [("msg", .string message)] :=
  shows_field "\"msg\":" "msg" (by decide) (images_writeQuoted message)

theorem paints_attr (a : Attr) {output : Marshal → Marshal.Output}
    (ha : a.value.Leaves (Value.JsonLeaf slack output)) :
    ∃ text, (∀ base, Canvas.Paints slack 0x2c base (attr a) [text]) ∧
      SpellsMember text (a.key, a.value.image output) := by
  obtain ⟨text, hText, hSpells⟩ := images_writeValue a.value ha
  refine ⟨_, fun base => .field fun c hc => ?_,
    (Json.spellsString_quotedText a.key).member hSpells⟩
  exact Canvas.grows_write hc
    ((Writes.writeQuoted a.key).bind ((Writes.pushByte 0x3a).bind hText))

theorem shows_attr (a : Attr) {output : Marshal → Marshal.Output}
    (ha : a.value.Leaves (Value.JsonLeaf slack output)) :
    ShowsMembers slack base (attr a) [(a.key, a.value.image output)] := by
  obtain ⟨text, hPaints, hMember⟩ := paints_attr a ha
  exact ⟨[text], hPaints base, .cons hMember .nil⟩

theorem shows_attrs (attrs : List Attr) {output : Marshal → Marshal.Output}
    (hAttrs : Value.LeavesOf (Value.JsonLeaf slack output) attrs) :
    ShowsMembers slack base (Painter.json.attrs attrs) (Value.members output attrs) := by
  induction attrs with
  | nil => exact .none
  | cons a r ih => exact (shows_attr a hAttrs.1).bind (ih hAttrs.2)

theorem shows_caller (caller : Caller) :
    ShowsMembers slack base (Painter.json.caller caller) [("caller", caller.image)] := by
  have hFile := (Json.spellsString_quotedText "file").member (Json.spells_string caller.file)
  have hLine := (Json.spellsString_quotedText "line").member (Json.spells_nat caller.line)
  have hFunction := (Json.spellsString_quotedText "function").member
    (Json.spells_string caller.function)
  have hMember := (Json.spellsString_quotedText "caller").member
    (Json.spells_object (.cons hFile (.cons hLine (.cons hFunction .nil))))
  have hLabel : utf8 "\"caller\":\x7b\"file\":" =
      quotedText (utf8 "caller") ++ 0x3a :: 0x7b :: (quotedText (utf8 "file") ++ [0x3a]) := by
    decide
  have hLineLabel : utf8 ",\"line\":" = 0x2c :: (quotedText (utf8 "line") ++ [0x3a]) := by decide
  have hFunctionLabel : utf8 ",\"function\":" =
      0x2c :: (quotedText (utf8 "function") ++ [0x3a]) := by decide
  have hWrite : Writes slack (writeCaller caller) _ :=
    (Writes.writeQuoted caller.file).bind <| (Writes.pushText _).bind <|
      (Writes.writeNat caller.line).bind <| (Writes.pushText _).bind <|
        (Writes.writeQuoted caller.function).bind (.pushByte 0x7d)
  refine Canvas.Shows.field (fun c hc => ?_) hMember
  have hField := (Canvas.grows_write hc (.pushText "\"caller\":\x7b\"file\":")).bind
    fun d hd hFresh => hFresh ▸ Canvas.grows_write hd hWrite
  rw [hLabel, hLineLabel, hFunctionLabel] at hField
  simpa [joined, Canvas.pushText] using hField

theorem shows_callerStep (options : RenderOptions) :
    ShowsMembers slack base (base.callerStep options .json) (base.caller.toList.map fun caller =>
      ("caller", (caller.redacted options.redactor).image)) := by
  unfold Canvas.callerStep
  cases base.caller with
  | some caller => exact shows_caller _
  | none => exact .none

end JsonPainter

open JsonPainter

/-- The line of a record in JSON, on any canvas. -/
theorem Job.json_line (j : Job) (c : Canvas) {slack : Nat} {output : Marshal → Marshal.Output}
    (hTime : j.record.time.Valid)
    (hLeaves : Value.LeavesOf (Value.JsonLeaf slack output) j.given) :
    ∃ line, content? line = some (.object (j.members output)) ∧ 0x0a ∉ line ∧
      Delivers slack (line ++ [0x0a]) ((j.inFormat .json).run c) := by
  have hBase := (j.inFormat .json).holds_load c
  rw [Job.run]
  generalize (j.inFormat .json).load c = base at hBase
  have hValid : base.time.Valid := by rw [hBase.time]; exact hTime
  have hAttrs : Value.LeavesOf (Value.JsonLeaf slack output) base.table.attrs := by
    rw [hBase.attrs]
    exact Job.leavesOf_resolve hLeaves
  obtain ⟨texts, hMembers, hRender⟩ := Canvas.exists_render hBase.fresh
    (fun c hc => Canvas.grows_write hc (.pushByte 0x7b))
    (shows_time j.options.home j.options.timeLayout hValid j.options.utc)
    (shows_loggerName base.logger j.options.nameWidth) shows_level (shows_message base.message)
    (shows_attrs base.table.attrs hAttrs) (shows_callerStep j.options)
    (fun c hc => Canvas.grows_none hc)
    (fun c hc => Canvas.grows_write hc (.pushByte 0x7d))
  rw [hBase.time, hBase.logger, hBase.title, hBase.message, hBase.attrs, hBase.caller] at hMembers
  have hSpells : Spells _ (.object (j.members output)) := Json.spells_object hMembers
  refine ⟨_, hSpells.content?_eq, hSpells.oneLine, ?_⟩
  have hText : ∀ inside : List UInt8, [0x7b] ++ (inside ++ ([0x7d] ++ [0x0a])) =
      0x7b :: (inside ++ [0x7d]) ++ [0x0a] := fun inside => by simp
  rw [hText] at hRender
  exact hRender.delivers hBase.empty

theorem Marshal.Output.isJson_pair : pair.IsJson := by
  have hSpells : Spells (utf8 "[3,4]") (.array [.number false 3, .number false 4]) :=
    Json.spells_array (.cons (Json.spells_nat 3) (.cons (Json.spells_nat 4) .nil))
  intro _
  refine .inr ⟨?_, hSpells.oneLine⟩
  rw [pair, hSpells.content?_eq]
  rfl

theorem Job.json_line_of_pair :
    Job.ofPair.record.time.Valid ∧
      Value.LeavesOf (Value.JsonLeaf 5 fun _ => .pair) Job.ofPair.given ∧
      ∃ line, content? line = some (.object (Job.ofPair.members fun _ => .pair)) ∧
        0x0a ∉ line ∧ Delivers 5 (line ++ [0x0a]) ((Job.ofPair.inFormat .json).run .new) := by
  have hTime : Job.ofPair.record.time.Valid := by decide
  have hLeaves : Value.LeavesOf (Value.JsonLeaf 5 fun _ => .pair) Job.ofPair.given := by
    refine ⟨⟨?_, ⟨Marshal.appends_pair .json, Marshal.Output.isJson_pair⟩, trivial⟩, trivial⟩
    show Instant.epoch.Valid
    decide
  exact ⟨hTime, hLeaves, Job.json_line Job.ofPair .new hTime hLeaves⟩

end Logline
