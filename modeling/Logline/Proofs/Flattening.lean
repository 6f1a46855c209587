import Logline.Proofs.FieldLine
import Logline.Proofs.JsonLine

/-! # Flattened groups

The text formats write one field for each leaf of an attribute, under the keys of the groups around
it. They are the leaves that a reader of the object finds who goes into the groups, in its order.
-/

namespace Logline

open Json (Content content?)
open Text (utf8)

/-- The field of a leaf on a canvas with the path `outside`. -/
def Leaf.text (sanitized : Bool) (outside : String) (output : Marshal → Marshal.Output)
    (leaf : Leaf) : List UInt8 :=
  keyText sanitized (outside ++ groupPath leaf.groups) leaf.key ++
    0x3d :: leaf.value.fieldText output

namespace Value

/-! ## Walking an object -/

mutual

/-- What a reader finds in a member who goes into the objects that are there for groups: contents
with their names, and with the names of the objects around them. -/
def found (groups : List String) (name : String) :
    Value → Content → List (List String × String × Content)
  | .group attrs, .object members => foundAll (groups ++ [name]) attrs members
  | .group _, _ => []
  | _, content => [(groups, name, content)]

def foundAll (groups : List String) :
    List (Entry Value) → List (String × Content) → List (List String × String × Content)
  | ⟨_, value⟩ :: r, (name, content) :: members =>
    value.found groups name content ++ foundAll groups r members
  | _, _ => []

end

end Value

/-- A leaf as it stands in an object. -/
def Leaf.member (output : Marshal → Marshal.Output) (leaf : Leaf) :
    List String × String × Content :=
  (leaf.groups, leaf.key, leaf.value.image output)

namespace Value

mutual

theorem found_image (output : Marshal → Marshal.Output) (groups : List String) (key : String)
    (v : Value) :
    v.found groups key (v.image output) = (v.flatten groups key).map (Leaf.member output) := by
  cases v with
  | group attrs => exact foundAll_members output (groups ++ [key]) attrs
  | _ => rfl

theorem foundAll_members (output : Marshal → Marshal.Output) (groups : List String)
    (attrs : List (Entry Value)) :
    foundAll groups attrs (members output attrs) =
      (flattenAll groups attrs).map (Leaf.member output) := by
  cases attrs with
  | nil => rfl
  | cons a r =>
    obtain ⟨key, value⟩ := a
    rw [flattenAll, List.map_append, ← found_image output groups key value,
      ← foundAll_members output groups r]
    rfl

end

end Value

namespace TextPainter

variable {slack : Nat} {base : Canvas}

theorem paints_writeLeaves (sanitized : Bool) (outside : String)
    {output : Marshal → Marshal.Output} {leaves : List Leaf}
    (hLeaves : ∀ leaf ∈ leaves, leaf.value.isGroup = false ∧
      leaf.value.Leaves (Value.FieldLeaf slack base.mode output)) :
    Canvas.Paints slack 0x20 base (writeLeaves sanitized outside leaves)
      (leaves.map (Leaf.text sanitized outside output)) := by
  induction leaves with
  | nil => exact .none
  | cons leaf r ih =>
    obtain ⟨hGroup, hLeaf⟩ := hLeaves leaf List.mem_cons_self
    exact (paints_writeLeaf sanitized _ leaf.key hGroup hLeaf).bind
      (ih fun leaf hMem => hLeaves leaf (List.mem_cons_of_mem _ hMem))

theorem paints_writeAttr (sanitized : Bool) (key : String) {output : Marshal → Marshal.Output}
    {v : Value} (hv : v.Leaves (Value.FieldLeaf slack base.mode output)) :
    Canvas.Paints slack 0x20 base (writeAttr sanitized key v)
      ((v.flatten [] key).map (Leaf.text sanitized base.path output)) := by
  refine (paints_writeLeaves sanitized base.path fun leaf hMem => ?_).congr ?_
  · exact (Value.isLeaf_of_mem_flatten _ hMem).imp_right fun hLeaf => hLeaf hv
  · rintro _ ⟨buffer, fields, rfl⟩
    exact writeAttr_eq_writeLeaves sanitized key v _

/-- Groups are flattened: each leaf is written once under its own path, which is the one where a
reader of the object finds it, and the path of the canvas is the same as before. -/
theorem writeAttr_flattens (sanitized : Bool) (a : Attr) (c : Canvas) (slack : Nat)
    (output jsonOutput : Marshal → Marshal.Output) :
    (∀ leaf ∈ a.value.flatten [] a.key, leaf.value.isGroup = false) ∧
      writeAttr sanitized a.key a.value c =
        writeLeaves sanitized c.path (a.value.flatten [] a.key) c ∧
      (∀ d, writeAttr sanitized a.key a.value c = .ok d → d.path = c.path) ∧
      (a.value.Leaves (Value.FieldLeaf slack c.mode output) →
        Canvas.Grows slack c c
          (joined 0x20 c.isFresh
            ((a.value.flatten [] a.key).map (Leaf.text sanitized c.path output)))
          (c.isFresh && (a.value.flatten [] a.key).isEmpty)
          (writeAttr sanitized a.key a.value c)) ∧
      (a.value.Leaves (Value.JsonLeaf slack jsonOutput) →
        ∃ text members, (∀ base, Canvas.Paints slack 0x2c base (Painter.json.attr a) [text]) ∧
          content? (0x7b :: (text ++ [0x7d])) = some (.object members) ∧
          Value.foundAll [] [a] members =
            (a.value.flatten [] a.key).map (Leaf.member jsonOutput)) := by
  refine ⟨fun leaf hMem => (Value.isLeaf_of_mem_flatten (fun _ => True) hMem).1,
    writeAttr_eq_writeLeaves sanitized _ _ c, fun d => path_writeAttr, fun hText => ?_,
    fun hJson => ?_⟩
  · have hGrows := paints_writeAttr sanitized a.key hText c c.of_self
    rwa [List.isEmpty_map] at hGrows
  · obtain ⟨text, hPaints, hMember⟩ := JsonPainter.paints_attr a hJson
    have hObject := (Json.spells_object (.cons hMember .nil)).content?_eq
    rw [show joined 0x2c true [text] = text from List.append_nil text] at hObject
    refine ⟨text, [(a.key, a.value.image jsonOutput)], hPaints, hObject, ?_⟩
    show a.value.found [] a.key (a.value.image jsonOutput) ++ [] = _
    rw [List.append_nil, Value.found_image]

/-- A group with a point in a key, a group without leaves and a leaf under an empty key. -/
def nestedAttr : Attr :=
  ⟨"request", .group [⟨"größe.", .marshal .pair⟩, ⟨"a", .group []⟩,
    ⟨"", .group [⟨"at", .null⟩]⟩]⟩

theorem writeAttr_flattens_of_nested :
    nestedAttr.value.Leaves (Value.FieldLeaf 5 .colorful fun _ => .pair) ∧
      nestedAttr.value.Leaves (Value.JsonLeaf 5 fun _ => .pair) ∧
      Canvas.Grows 5 .new .new (utf8 "request.größe.=[3,4] request..at=null") false
        (writeAttr false nestedAttr.key nestedAttr.value .new) ∧
      Canvas.Grows 5 .new .new (utf8 "request.gre.=[3,4] request..at=null") false
        (writeAttr true nestedAttr.key nestedAttr.value .new) ∧
      ∃ text members, (∀ base, Canvas.Paints 5 0x2c base (Painter.json.attr nestedAttr) [text]) ∧
        content? (0x7b :: (text ++ [0x7d])) = some (.object members) ∧
        Value.foundAll [] [nestedAttr] members =
          [(["request"], "größe.", Marshal.Output.pair.image), (["request", ""], "at", .null)] := by
  have hText : nestedAttr.value.Leaves (Value.FieldLeaf 5 .colorful fun _ => .pair) :=
    ⟨Marshal.appends_pair .colorful, trivial, ⟨trivial, trivial⟩, trivial⟩
  have hJson : nestedAttr.value.Leaves (Value.JsonLeaf 5 fun _ => .pair) :=
    ⟨⟨Marshal.appends_pair .json, Marshal.Output.isJson_pair⟩, trivial, ⟨trivial, trivial⟩,
      trivial⟩
  have hLine : ∀ sanitized, _ := fun sanitized =>
    (writeAttr_flattens sanitized nestedAttr .new 5 (fun _ => .pair) fun _ => .pair).2.2.2.1 hText
  refine ⟨hText, hJson, ?_, ?_,
    (writeAttr_flattens true nestedAttr .new 5 (fun _ => .pair) fun _ => .pair).2.2.2.2 hJson⟩
  · refine (congrArg (Canvas.Grows 5 .new .new · false _) ?_).mp (hLine false)
    decide +kernel
  · refine (congrArg (Canvas.Grows 5 .new .new · false _) ?_).mp (hLine true)
    decide +kernel

end TextPainter

end Logline
