import Logline.Proofs.Leaves
import Logline.Render.Painters

/-! # Paths through groups

Groups are flattened with one path that is extended on the way into a group and cut back on the way
out. What comes of it are the leaves of an attribute, depth first, each one written under the keys
of the groups around it, whatever path the canvas has by then.
-/

namespace Logline

/-- A value that is no group, and the keys of the groups around it with the outermost first. -/
structure Leaf where
  groups : List String
  key : String
  value : Value

/-- The keys of groups, each with a point after it. -/
def groupPath (groups : List String) : String :=
  groups.foldl (fun path key => path ++ key ++ ".") ""

theorem groupPath_concat (groups : List String) (key : String) :
    groupPath (groups ++ [key]) = groupPath groups ++ key ++ "." := by
  rw [groupPath, List.foldl_append]
  rfl

namespace Value

mutual

/-- The leaves of an attribute inside of groups, depth first. -/
def flatten (groups : List String) (key : String) : Value → List Leaf
  | .group attrs => flattenAll (groups ++ [key]) attrs
  | value => [⟨groups, key, value⟩]

def flattenAll (groups : List String) : List (Entry Value) → List Leaf
  | [] => []
  | ⟨key, value⟩ :: r => value.flatten groups key ++ flattenAll groups r

end

mutual

/-- What is flattened is no group, and has any property that all leaves have. -/
theorem isLeaf_of_mem_flatten (P : Value → Prop) {groups : List String} {key : String} {v : Value}
    {leaf : Leaf} (h : leaf ∈ v.flatten groups key) :
    leaf.value.isGroup = false ∧ (v.Leaves P → leaf.value.Leaves P) := by
  cases v with
  | group attrs => exact isLeaf_of_mem_flattenAll P h
  | _ => rw [List.mem_singleton.mp h]; exact ⟨rfl, id⟩

theorem isLeaf_of_mem_flattenAll (P : Value → Prop) {groups : List String}
    {attrs : List (Entry Value)} {leaf : Leaf} (h : leaf ∈ flattenAll groups attrs) :
    leaf.value.isGroup = false ∧ (LeavesOf P attrs → leaf.value.Leaves P) := by
  cases attrs with
  | nil => cases h
  | cons a r =>
    rcases List.mem_append.mp h with hHere | hRest
    · obtain ⟨hGroup, hLeaf⟩ := isLeaf_of_mem_flatten P hHere
      exact ⟨hGroup, fun hAttrs => hLeaf hAttrs.1⟩
    · obtain ⟨hGroup, hLeaf⟩ := isLeaf_of_mem_flattenAll P hRest
      exact ⟨hGroup, fun hAttrs => hLeaf hAttrs.2⟩

end

theorem mem_flattenAll {groups : List String} {attrs : List Attr} {leaf : Leaf} :
    leaf ∈ flattenAll groups attrs ↔ ∃ a ∈ attrs, leaf ∈ a.value.flatten groups a.key := by
  induction attrs with
  | nil => simp [flattenAll]
  | cons a r ih => simp [flattenAll, ih]

end Value

namespace TextPainter

/-- The field of a value that is no group. -/
def writeLeaf (sanitized : Bool) (path key : String) (v : Value) (c : Canvas) : Canvas.Result := do
  let c ← c.nextField 0x20
  c.write fun b => do
    let b ← writeKey sanitized path key b
    let b ← b.pushByte 0x3d
    writeValue c.mode v b

/-- The fields of leaves in a row, on a canvas with the path `outside`. -/
def writeLeaves (sanitized : Bool) (outside : String) : List Leaf → Canvas → Canvas.Result
  | [], c => .ok c
  | leaf :: r, c =>
    writeLeaf sanitized (outside ++ groupPath leaf.groups) leaf.key leaf.value c >>=
      writeLeaves sanitized outside r

theorem writeLeaves_append (sanitized : Bool) (outside : String) (xs ys : List Leaf) (c : Canvas) :
    writeLeaves sanitized outside (xs ++ ys) c =
      writeLeaves sanitized outside xs c >>= writeLeaves sanitized outside ys := by
  induction xs generalizing c with
  | nil => rfl
  | cons leaf r ih =>
    rw [List.cons_append, writeLeaves, writeLeaves, bind_assoc]
    exact bind_congr ih

/-- A step that does not look at the path of a canvas and leaves it there. -/
def IgnoresPath (f : Canvas → Canvas.Result) : Prop :=
  ∀ (c : Canvas) (path : String), f { c with path } = (f c).map fun d => { d with path }

namespace IgnoresPath

theorem path_eq {f : Canvas → Canvas.Result} (hf : IgnoresPath f) {c d : Canvas}
    (h : f c = .ok d) : d.path = c.path := by
  have hSame : f c = (f c).map fun d => { d with path := c.path } := hf c c.path
  rw [h] at hSame
  calc
    d.path = { d with path := c.path }.path := congrArg Canvas.path (Except.ok.inj hSame)
    _ = c.path := rfl

theorem ok : IgnoresPath .ok := fun _ _ => rfl

theorem bind {f g : Canvas → Canvas.Result} (hf : IgnoresPath f) (hg : IgnoresPath g) :
    IgnoresPath fun c => f c >>= g := by
  intro c path
  dsimp only
  rw [hf c path]
  cases f c with
  | error fault => rfl
  | ok d => exact hg d path

theorem write {f : Canvas → Buffer → Buffer.Result}
    (hf : ∀ (c : Canvas) (path : String), f { c with path } = f c) :
    IgnoresPath fun c => c.write (f c) := by
  intro c path
  dsimp only
  rw [hf c path, Canvas.write, Canvas.write]
  cases f c c.buffer <;> rfl

theorem nextField (separator : UInt8) : IgnoresPath (·.nextField separator) := by
  have hCount : IgnoresPath fun c => .ok { c with fields := c.fields + 1 } := fun _ _ => rfl
  have hSeparator : IgnoresPath (·.pushByte separator) := write fun _ _ => rfl
  intro c path
  dsimp only
  unfold Canvas.nextField
  by_cases hFields : 0 < c.fields
  · rw [if_pos hFields, if_pos hFields]
    exact hSeparator.bind hCount c path
  · rw [if_neg hFields, if_neg hFields]
    rfl

theorem writeLeaf (sanitized : Bool) (path key : String) (v : Value) :
    IgnoresPath (writeLeaf sanitized path key v) :=
  (nextField 0x20).bind (write fun _ _ => rfl)

theorem writeLeaves (sanitized : Bool) (outside : String) (leaves : List Leaf) :
    IgnoresPath (writeLeaves sanitized outside leaves) := by
  induction leaves with
  | nil => exact ok
  | cons leaf r ih => exact (writeLeaf sanitized _ leaf.key leaf.value).bind ih

end IgnoresPath

theorem writeAttr_leaf (sanitized : Bool) (key : String) {v : Value} (hv : v.isGroup = false)
    (c : Canvas) : writeAttr sanitized key v c = writeLeaf sanitized c.path key v c := by
  have hField : writeAttr sanitized key v c =
      (c.nextField 0x20 >>= fun d => d.write fun b =>
        writeKey sanitized d.path key b >>= fun b => b.pushByte 0x3d >>= writeValue d.mode v) := by
    cases v with
    | group attrs => cases hv
    | _ => rfl
  rw [hField, writeLeaf]
  cases hNext : c.nextField 0x20 with
  | error fault => rfl
  | ok d =>
    rw [← (IgnoresPath.nextField 0x20).path_eq hNext]
    rfl

/-- What a step that ignores the path does inside of a group, it does outside as well. -/
theorem IgnoresPath.leave_enter {f : Canvas → Canvas.Result} (hf : IgnoresPath f) (c : Canvas)
    (key : String) :
    (f (c.enter key) >>= fun d => .ok (d.leave c.path.utf8ByteSize)) = f c := by
  have hSame : f c = (f c).map fun d => { d with path := c.path } := hf c c.path
  rw [hSame, Canvas.enter, hf c]
  cases f c with
  | error fault => rfl
  | ok d =>
    have hPath : Text.firstBytes c.path.utf8ByteSize (c.path ++ key ++ ".") = c.path := by
      rw [String.append_assoc, Text.firstBytes_append]
    show Except.ok { d with path := _ } = Except.ok { d with path := _ }
    rw [hPath]

mutual

/-- Flattening writes the leaves in a row, each under its own path. -/
theorem writeAttr_eq (sanitized : Bool) (outside key : String) (groups : List String) (v : Value)
    (c : Canvas) (hPath : c.path = outside ++ groupPath groups) :
    writeAttr sanitized key v c = writeLeaves sanitized outside (v.flatten groups key) c := by
  cases v with
  | group attrs =>
    have hInner : (c.enter key).path = outside ++ groupPath (groups ++ [key]) := by
      rw [groupPath_concat, ← String.append_assoc, ← String.append_assoc, ← hPath]
      rfl
    have hAttrs := writeAttrs_eq sanitized outside (groups ++ [key]) attrs (c.enter key) hInner
    show (writeAttrs sanitized attrs (c.enter key) >>= fun d =>
      .ok (d.leave c.path.utf8ByteSize)) = _
    -- The leaves inside carry their whole path, so it does not matter that the canvas has it too.
    rw [hAttrs]
    exact (IgnoresPath.writeLeaves sanitized outside _).leave_enter c key
  | _ =>
    rw [writeAttr_leaf sanitized key rfl, hPath]
    exact (bind_pure _).symm

theorem writeAttrs_eq (sanitized : Bool) (outside : String) (groups : List String)
    (attrs : List (Entry Value)) (c : Canvas) (hPath : c.path = outside ++ groupPath groups) :
    writeAttrs sanitized attrs c =
      writeLeaves sanitized outside (Value.flattenAll groups attrs) c := by
  cases attrs with
  | nil => rfl
  | cons a r =>
    obtain ⟨key, value⟩ := a
    have hHere := writeAttr_eq sanitized outside key groups value c hPath
    show (writeAttr sanitized key value c >>= writeAttrs sanitized r) = _
    rw [hHere, Value.flattenAll, writeLeaves_append]
    cases hResult : writeLeaves sanitized outside (value.flatten groups key) c with
    | error fault => rfl
    | ok d =>
      have hStays := (IgnoresPath.writeLeaves sanitized outside _).path_eq hResult
      exact writeAttrs_eq sanitized outside groups r d (hStays.trans hPath)

end

theorem writeAttr_eq_writeLeaves (sanitized : Bool) (key : String) (v : Value) (c : Canvas) :
    writeAttr sanitized key v c = writeLeaves sanitized c.path (v.flatten [] key) c :=
  writeAttr_eq sanitized c.path key [] v c String.append_empty.symm

theorem path_writeAttr {sanitized : Bool} {key : String} {v : Value} {c d : Canvas}
    (h : writeAttr sanitized key v c = .ok d) : d.path = c.path := by
  rw [writeAttr_eq_writeLeaves] at h
  exact (IgnoresPath.writeLeaves sanitized c.path _).path_eq h

theorem path_writeAttrs {sanitized : Bool} {attrs : List Attr} {c d : Canvas}
    (h : writeAttrs sanitized attrs c = .ok d) : d.path = c.path := by
  rw [writeAttrs_eq sanitized c.path [] attrs c String.append_empty.symm] at h
  exact (IgnoresPath.writeLeaves sanitized c.path _).path_eq h

theorem writeAttr_group (sanitized : Bool) (key : String) (attrs : List Attr) (c : Canvas) :
    writeAttr sanitized key (.group attrs) c =
      (writeAttrs sanitized attrs { c with path := c.path ++ key ++ "." } >>= fun d =>
        .ok { d with path := c.path }) := by
  show (writeAttrs sanitized attrs (c.enter key) >>= fun d =>
    .ok (d.leave c.path.utf8ByteSize)) = (writeAttrs sanitized attrs (c.enter key) >>= _)
  cases hResult : writeAttrs sanitized attrs (c.enter key) with
  | error fault => rfl
  | ok d =>
    have hPath : Text.firstBytes c.path.utf8ByteSize d.path = c.path := by
      rw [path_writeAttrs hResult, Canvas.enter, String.append_assoc, Text.firstBytes_append]
    show Except.ok { d with path := _ } = Except.ok { d with path := _ }
    rw [hPath]

end TextPainter

end Logline
