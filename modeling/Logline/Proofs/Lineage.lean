import Logline.Engine.Basic

/-! # Lineages

The loggers above a logger are kept in a list when it is made. In a hierarchy that came about by
new children and changed configurations the list is what going from parent to parent gives, since
parents come before their children and configurations do not move a logger.
-/

namespace Logline

namespace Hierarchy

/-- The hierarchies that come about: from a root, by new children and by changed configurations. -/
inductive Grown : Hierarchy → Prop where
  | root (name : String) (config : NodeConfig) : Grown (.ofRoot name config)
  | child {h : Hierarchy} (parent : NodeId) (name : String) (config : NodeConfig) :
      Grown h → parent.index < h.nodes.length → Grown (h.add parent name config)
  | changed {h : Hierarchy} (id : NodeId) (f : NodeConfig → NodeConfig) :
      Grown h → Grown (h.configure id f)

/-- The loggers above one, the root first, found by going from parent to parent. -/
inductive Lineage (h : Hierarchy) : NodeId → List NodeId → Prop where
  | root {id : NodeId} : (h.node id).parent? = none → Lineage h id []
  | child {id parent : NodeId} {above : List NodeId} :
      (h.node id).parent? = some parent → Lineage h parent above → Lineage h id (above ++ [parent])

theorem Lineage.unique {h : Hierarchy} {id : NodeId} {as bs : List NodeId}
    (ha : h.Lineage id as) (hb : h.Lineage id bs) : as = bs := by
  induction ha generalizing bs with
  | root hRoot =>
    cases hb with
    | root _ => rfl
    | child hParent _ => simp [hRoot] at hParent
  | child hParent _ ih =>
    cases hb with
    | root hRoot => simp [hRoot] at hParent
    | child hParent' hAbove =>
      obtain rfl := Option.some.inj (hParent.symm.trans hParent')
      rw [ih hAbove]

/-- Parents come before their children, and a child stands right below its parent. -/
structure Ordered (h : Hierarchy) : Prop where
  root : h.root.ancestors = []
  below : ∀ i node, h.others[i]? = some node →
    ∃ parent : NodeId, parent.index ≤ i ∧ node.ancestors = (h.node parent).ancestors ++ [parent]

theorem node_succ (h : Hierarchy) (i : Nat) :
    h.node ⟨i + 1⟩ = (h.others[i]?).getD h.root := by
  simp [node, nodes, List.getD_eq_getElem?_getD]

theorem node_add {h : Hierarchy} {id : NodeId} (hId : id.index < h.nodes.length)
    (parent : NodeId) (name : String) (config : NodeConfig) :
    (h.add parent name config).node id = h.node id := by
  have hEq : (h.add parent name config).nodes =
      h.nodes ++ [⟨name, (h.node parent).ancestors ++ [parent], config⟩] := rfl
  rw [node, node, hEq, List.getD_eq_getElem?_getD, List.getElem?_append_left hId,
    List.getD_eq_getElem?_getD]
  rfl

theorem ancestors_configure (h : Hierarchy) (id other : NodeId) (f : NodeConfig → NodeConfig) :
    ((h.configure id f).node other).ancestors = (h.node other).ancestors := by
  obtain ⟨_ | i⟩ := id <;> obtain ⟨_ | j⟩ := other
  · rfl
  · simp only [node_succ, configure]
    cases h.others[j]? <;> rfl
  · rfl
  · simp only [node_succ, configure, List.getElem?_modify]
    cases h.others[j]? with
    | none => rfl
    | some node => by_cases hij : i = j <;> simp [hij, Node.configure]

theorem others_configure (h : Hierarchy) (id : NodeId) (f : NodeConfig → NodeConfig) (i : Nat) :
    (((h.configure id f).others)[i]?).map (·.ancestors) = (h.others[i]?).map (·.ancestors) := by
  obtain ⟨_ | j⟩ := id
  · rfl
  · simp only [configure, List.getElem?_modify]
    cases h.others[i]? with
    | none => rfl
    | some node => by_cases hij : j = i <;> simp [hij, Node.configure]

theorem Ordered.ofRoot (name : String) (config : NodeConfig) : (ofRoot name config).Ordered where
  root := rfl
  below i node h := by simp [Hierarchy.ofRoot] at h

theorem Ordered.add {h : Hierarchy} (ho : h.Ordered) {parent : NodeId}
    (hParent : parent.index < h.nodes.length) (name : String) (config : NodeConfig) :
    (h.add parent name config).Ordered where
  root := ho.root
  below i node hNode := by
    have hLength : h.nodes.length = h.others.length + 1 := rfl
    rcases Nat.lt_trichotomy i h.others.length with hi | rfl | hi
    · have hOld : h.others[i]? = some node := by
        rw [← hNode]
        exact (List.getElem?_append_left hi).symm
      obtain ⟨p, hp, hEq⟩ := ho.below i node hOld
      exact ⟨p, hp, by rw [node_add (by omega), hEq]⟩
    · have hNew : node = ⟨name, (h.node parent).ancestors ++ [parent], config⟩ := by
        simpa [Hierarchy.add, eq_comm] using hNode
      exact ⟨parent, by omega, by rw [hNew, node_add hParent]⟩
    · have hNone : (h.add parent name config).others[i]? = none :=
        List.getElem?_eq_none (by simp [Hierarchy.add]; omega)
      simp [hNone] at hNode

theorem Ordered.configure {h : Hierarchy} (ho : h.Ordered) (id : NodeId)
    (f : NodeConfig → NodeConfig) : (h.configure id f).Ordered where
  root := (ancestors_configure h id .root f).trans ho.root
  below i node hNode := by
    have hOld := others_configure h id f i
    rw [hNode, Option.map_some, eq_comm, Option.map_eq_some_iff] at hOld
    obtain ⟨old, hOld, hSame⟩ := hOld
    obtain ⟨p, hp, hEq⟩ := ho.below i old hOld
    exact ⟨p, hp, by rw [← hSame, hEq, ancestors_configure]⟩

theorem Grown.ordered {h : Hierarchy} (hg : h.Grown) : h.Ordered := by
  induction hg with
  | root name config => exact .ofRoot name config
  | child parent name config _ hParent ih => exact ih.add hParent name config
  | changed id f _ ih => exact ih.configure id f

/-- The loggers that a logger lists above it are those that its parents lead to. -/
theorem Ordered.lineage {h : Hierarchy} (ho : h.Ordered) (id : NodeId) :
    h.Lineage id (h.node id).ancestors := by
  obtain ⟨index⟩ := id
  induction index using Nat.strongRecOn with
  | ind index ih =>
    have hTop : (h.node ⟨index⟩).ancestors = [] → h.Lineage ⟨index⟩ (h.node ⟨index⟩).ancestors := by
      intro hEmpty
      rw [hEmpty]
      exact .root (by simp [Node.parent?, hEmpty])
    cases index with
    | zero => exact hTop ho.root
    | succ i =>
      cases hNode : h.others[i]? with
      | none => exact hTop (by rw [node_succ, hNode]; exact ho.root)
      | some node =>
        obtain ⟨⟨p⟩, hp, hAncestors⟩ := ho.below i node hNode
        have hSelf : h.node ⟨i + 1⟩ = node := by rw [node_succ, hNode]; rfl
        rw [hSelf, hAncestors]
        exact .child (by simp [hSelf, Node.parent?, hAncestors]) (ih p (Nat.lt_succ_of_le hp))

end Hierarchy

namespace Engine

theorem grown_build (env : Environment) (o : EngineOptions) : (build env o).hierarchy.Grown :=
  .root o.name o.node

theorem grown_setOption {e : Engine} (hg : e.hierarchy.Grown) (id : NodeId)
    (option : LoggerOption) : (e.setOption id option).hierarchy.Grown :=
  .changed id _ hg

theorem grown_childWith {e : Engine} (hg : e.hierarchy.Grown) {parent : NodeId}
    (hParent : parent.index < e.hierarchy.nodes.length) (name : String)
    (options : List LoggerOption) : (e.childWith parent name options).2.hierarchy.Grown := by
  unfold childWith
  split
  · exact .child parent _ _ hg hParent
  · split
    · exact hg
    · exact .child parent name _ hg hParent

end Engine

end Logline
