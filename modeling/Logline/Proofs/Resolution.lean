import Logline.Engine.Call
import Logline.Proofs.ArgumentLists
import Logline.Proofs.Lineage
import Logline.Proofs.MergedAttrs

/-! # The attributes of a line

A call merges the attributes of the loggers above, if the engine collects them, of the logger
itself, of the context and of the arguments. What is rendered is what one merge of all of them in
a row would leave.
-/

namespace Logline

/-- A key of the list picks the entry of the context that has it, however often it is listed. -/
theorem LogContext.extract_eq (context : LogContext) (keys : List String) :
    context.extract keys = keys.filterMap fun key => context.fields.find? (·.key == key) := by
  rw [extract]
  congr 1
  funext key
  rw [get?, find?, Option.map_map]
  cases hFound : context.fields.find? (·.key == key) with
  | none => rfl
  | some found =>
    have hKey : found.key = key := by simpa using List.find?_some hFound
    simp [← hKey]

namespace Engine

/-- The entries of the call's context under the keys that the logger lists, key after key. -/
def contextAttrs (e : Engine) (id : NodeId) (call : Call) : List Attr :=
  call.context.elim [] fun context =>
    (e.config id).contextKeys.filterMap fun key => context.fields.find? (·.key == key)

theorem resolveAttrs_eq_merge (e : Engine) (id : NodeId) (call : Call) (table : AttrTable) :
    e.resolveAttrs id call table = table.merge (e.inheritedAttrs id ++ (e.config id).attrs ++
      e.contextAttrs id call ++ Arg.toAttrs call.args) := by
  simp only [AttrTable.merge_append, resolveAttrs, AttrTable.mergeArgs_eq, contextAttrs]
  cases call.context with
  | none => rfl
  | some context => rw [Option.elim_some, ← context.extract_eq]

theorem load_table_attrs (e : Engine) (env : Environment) (id : NodeId) (call : Call)
    (canvas : Canvas) : (e.load env id call canvas).table.attrs = Attr.resolve
      (e.inheritedAttrs id ++ (e.config id).attrs ++ e.contextAttrs id call ++
        Arg.toAttrs call.args) := by
  rw [← AttrTable.merge_empty_attrs, ← resolveAttrs_eq_merge]
  rfl

theorem inheritedAttrs_eq {e : Engine} {id : NodeId} {above : List NodeId}
    (hTree : e.hierarchy.Grown) (hAbove : e.hierarchy.Lineage id above) :
    e.inheritedAttrs id =
      if e.collectRecursive then above.flatMap fun logger => (e.config logger).attrs else [] := by
  rw [(hAbove.unique (hTree.ordered.lineage id))]
  rfl

theorem load_congr {e : Engine} (h : Hierarchy) {id : NodeId}
    (hNode : h.node id = e.hierarchy.node id) (hFlat : e.collectRecursive = false)
    (env : Environment) (call : Call) (canvas : Canvas) :
    { e with hierarchy := h }.load env id call canvas = e.load env id call canvas := by
  have hConfig : { e with hierarchy := h }.config id = e.config id := by
    rw [config, config, node, node, hNode]
  have hRecord : { e with hierarchy := h }.record id call = e.record id call := by
    simp only [record, node, hNode, hConfig]
  have hAbove : { e with hierarchy := h }.inheritedAttrs id = e.inheritedAttrs id := by
    simp [inheritedAttrs, hFlat]
  simp only [load, resolveAttrs, hConfig, hRecord, hAbove]

/-- A line is rendered with what one merge of all sources leaves. An engine that does not collect
renders the same line whatever stands around the logger. -/
theorem load_attrs (e : Engine) (hTree : e.hierarchy.Grown) (env : Environment) (id : NodeId)
    (call : Call) (canvas : Canvas) :
    (∃ above, e.hierarchy.Lineage id above ∧
      (e.load env id call canvas).table.attrs = Attr.resolve
        ((if e.collectRecursive then above.flatMap fun logger => (e.config logger).attrs else []) ++
          (e.config id).attrs ++
          (call.context.elim [] fun context =>
            (e.config id).contextKeys.filterMap fun key => context.fields.find? (·.key == key)) ++
          Arg.toAttrs call.args)) ∧
    (e.collectRecursive = false → ∀ h : Hierarchy, h.node id = e.hierarchy.node id →
      { e with hierarchy := h }.paint env id call canvas = e.paint env id call canvas) := by
  constructor
  · have hAbove := hTree.ordered.lineage id
    refine ⟨_, hAbove, ?_⟩
    rw [← inheritedAttrs_eq hTree hAbove]
    exact e.load_table_attrs env id call canvas
  · intro hFlat h hNode
    have hConfig : { e with hierarchy := h }.config id = e.config id := by
      rw [config, config, node, node, hNode]
    rw [paint, paint, load_congr h hNode hFlat, renderOptions, hConfig]
    rfl

theorem load_attrs_of_child :
    let tree := ((Hierarchy.ofRoot "app" { attrs := [⟨"k", .int 1⟩, ⟨"r", .int 2⟩] }).add .root
      "db" { attrs := [⟨"k", .int 3⟩, ⟨"s", .int 4⟩], contextKeys := ["u", "gone", "k", "u"] })
    let context := LogContext.ofList [⟨"k", .int 6⟩, ⟨"hidden", .int 7⟩, ⟨"u", .int 8⟩]
    let call : Call :=
      { level := .info, message := "m", context := some context,
        args := [.value (.string "s"), .value (.int 5)] }
    let e : Engine := { (default : Engine) with hierarchy := tree, collectRecursive := true }
    tree.Grown ∧ (e.load default ⟨1⟩ call .new).table.attrs =
      [⟨"k", .int 6⟩, ⟨"r", .int 2⟩, ⟨"s", .int 5⟩, ⟨"u", .int 8⟩] := by
  intro tree context call e
  have hTree : tree.Grown := .child .root _ _ (.root _ _) (by decide)
  refine ⟨hTree, ?_⟩
  obtain ⟨⟨above, hAbove, hAttrs⟩, _⟩ := load_attrs e hTree default ⟨1⟩ call .new
  obtain rfl : above = [.root] := hAbove.unique (@Hierarchy.Lineage.child _ _ _ [] rfl (.root rfl))
  rw [hAttrs]
  rfl

end Engine

end Logline
