import Logline.Proofs.Lineage

/-! # Siblings

A logger is found below its parent by its name. A new logger only takes a name that none of its
siblings has, and a name once given stays, so a parent has one child of a name at most, and the
look-up finds it.
-/

namespace Logline.Hierarchy

variable {h : Hierarchy} {id other parent : NodeId} {name : String}

/-- Whether an identity was given to a logger. -/
def Has (h : Hierarchy) (id : NodeId) : Prop := id.index < h.nodes.length

instance : Decidable (h.Has id) := inferInstanceAs (Decidable (_ < _))

theorem has_root (h : Hierarchy) : h.Has .root := Nat.succ_pos _

theorem getElem?_nodes (hId : h.Has id) : h.nodes[id.index]? = some (h.node id) := by
  rw [node, List.getD_eq_getElem?_getD, List.getElem?_eq_getElem hId]
  rfl

theorem index_inj : id.index = other.index ↔ id = other :=
  ⟨fun hIndex => congrArg NodeId.mk hIndex, congrArg NodeId.index⟩

/-- Going up from a logger that is there ends at the root. -/
theorem Ordered.head?_ancestors (ho : h.Ordered) (hId : h.Has id) :
    ((h.node id).ancestors ++ [id]).head? = some .root := by
  obtain ⟨index⟩ := id
  induction index using Nat.strongRecOn with
  | ind index ih =>
    cases index with
    | zero =>
      have hRoot : (h.node ⟨0⟩).ancestors = [] := ho.root
      rw [hRoot]
      rfl
    | succ i =>
      obtain ⟨above, hLe, hAncestors⟩ := ho.below i (h.node ⟨i + 1⟩) (getElem?_nodes hId)
      have hLt : above.index < i + 1 := Nat.lt_succ_of_le hLe
      have hAbove := ih above.index hLt (Nat.lt_trans hLt hId)
      rw [hAncestors, List.head?_append, hAbove]
      rfl

/-! ## Changes of one logger -/

theorem nodes_configure (h : Hierarchy) (id : NodeId) (f : NodeConfig → NodeConfig) :
    (h.configure id f).nodes = h.nodes.modify id.index (·.configure f) := by
  obtain ⟨_ | i⟩ := id
  · rfl
  · exact (List.modify_succ_cons ..).symm

theorem has_configure (f : NodeConfig → NodeConfig) :
    (h.configure id f).Has other ↔ h.Has other := by
  rw [Has, Has, nodes_configure, List.length_modify]

theorem node_configure (f : NodeConfig → NodeConfig) (hOther : h.Has other) :
    (h.configure id f).node other =
      if id = other then (h.node other).configure f else h.node other := by
  have hThere : (h.configure id f).Has other := (has_configure f).mpr hOther
  have hAfter := getElem?_nodes hThere
  rw [nodes_configure, List.getElem?_modify, getElem?_nodes hOther] at hAfter
  simp only [index_inj] at hAfter
  exact (Option.some.inj hAfter).symm

/-! ## New loggers -/

theorem nodes_add (h : Hierarchy) (parent : NodeId) (name : String) (config : NodeConfig) :
    (h.add parent name config).nodes =
      h.nodes ++ [⟨name, (h.node parent).ancestors ++ [parent], config⟩] := rfl

theorem has_add (parent : NodeId) (name : String) (config : NodeConfig) :
    (h.add parent name config).Has id ↔ h.Has id ∨ id = h.nextId := by
  rw [Has, Has, nodes_add, List.length_append, List.length_singleton, ← index_inj, nextId]
  exact Nat.lt_succ_iff_lt_or_eq

theorem node_add_nextId (h : Hierarchy) (parent : NodeId) (name : String) (config : NodeConfig) :
    (h.add parent name config).node h.nextId =
      ⟨name, (h.node parent).ancestors ++ [parent], config⟩ := by
  have hNew := getElem?_nodes ((has_add (h := h) parent name config).mpr (.inr rfl))
  rw [nodes_add, nextId, List.getElem?_concat_length] at hNew
  exact (Option.some.inj hNew).symm

theorem parent?_add_nextId (h : Hierarchy) (parent : NodeId) (name : String)
    (config : NodeConfig) :
    ((h.add parent name config).node h.nextId).parent? = some parent := by
  rw [node_add_nextId, Node.parent?, List.getLast?_concat]

/-! ## Names -/

/-- The names of all loggers, in the order of their creation. -/
def names (h : Hierarchy) : List String := h.nodes.map (·.name)

theorem names_configure (f : NodeConfig → NodeConfig) : (h.configure id f).names = h.names := by
  apply List.ext_getElem?
  intro i
  rw [names, names, nodes_configure, List.getElem?_map, List.getElem?_map, List.getElem?_modify]
  cases h.nodes[i]? with
  | none => rfl
  | some node =>
    by_cases hIndex : id.index = i
    · simp only [hIndex, if_true]
      rfl
    · simp only [hIndex, if_false]
      rfl

theorem names_add (parent : NodeId) (name : String) (config : NodeConfig) :
    (h.add parent name config).names = h.names ++ [name] := by
  rw [names, nodes_add, List.map_append]
  rfl

/-! ## Look-up -/

/-- A logger is a child of another one, under a name. -/
structure IsChild (h : Hierarchy) (parent : NodeId) (name : String) (id : NodeId) : Prop where
  has : h.Has id
  parent : (h.node id).parent? = some parent
  name : (h.node id).name = name

theorem mem_entries {node : Node} : (id, node) ∈ h.entries ↔ h.Has id ∧ h.node id = node := by
  have hEntry : (id, node) ∈ h.entries ↔ h.nodes[id.index]? = some node := by
    rw [entries, List.mem_map]
    constructor
    · rintro ⟨⟨_, _⟩, hMem, hEntry⟩
      cases hEntry
      exact List.mem_zipIdx_iff_getElem?.mp hMem
    · intro hNode
      exact ⟨(node, id.index), List.mem_zipIdx_iff_getElem?.mpr hNode, rfl⟩
  rw [hEntry]
  constructor
  · intro hNode
    have hId : h.Has id := (List.getElem?_eq_some_iff.mp hNode).1
    exact ⟨hId, Option.some.inj ((getElem?_nodes hId).symm.trans hNode)⟩
  · rintro ⟨hId, rfl⟩
    exact getElem?_nodes hId

theorem mem_children {node : Node} :
    (id, node) ∈ h.children parent ↔
      (h.Has id ∧ h.node id = node) ∧ node.parent? = some parent := by
  rw [children, List.mem_filter, mem_entries, beq_iff_eq]

theorem child?_eq_none_iff : h.child? parent name = none ↔ ∀ id, ¬ h.IsChild parent name id := by
  rw [child?, Option.map_eq_none_iff, List.find?_eq_none]
  constructor
  · intro hNone id hChild
    have hMem : (id, h.node id) ∈ h.children parent :=
      mem_children.mpr ⟨⟨hChild.has, rfl⟩, hChild.parent⟩
    exact hNone _ hMem (beq_iff_eq.mpr hChild.name)
  · rintro hNone ⟨id, node⟩ hMem hName
    obtain ⟨⟨hId, rfl⟩, hParent⟩ := mem_children.mp hMem
    exact hNone id ⟨hId, hParent, beq_iff_eq.mp hName⟩

theorem isChild_of_child? (hFound : h.child? parent name = some id) :
    h.IsChild parent name id := by
  obtain ⟨⟨_, node⟩, hFind, rfl⟩ := Option.map_eq_some_iff.mp hFound
  obtain ⟨⟨hId, rfl⟩, hParent⟩ := mem_children.mp (List.mem_of_find?_eq_some hFind)
  have hName := List.find?_some hFind
  exact ⟨hId, hParent, beq_iff_eq.mp hName⟩

/-- A parent has one child of a name at most. -/
def Distinct (h : Hierarchy) : Prop :=
  ∀ parent name id other, h.IsChild parent name id → h.IsChild parent name other → id = other

theorem Distinct.child?_eq_some_iff (hd : h.Distinct) :
    h.child? parent name = some id ↔ h.IsChild parent name id := by
  constructor
  · exact isChild_of_child?
  · intro hChild
    cases hFound : h.child? parent name with
    | none => exact absurd hChild (child?_eq_none_iff.mp hFound id)
    | some other => rw [hd _ _ _ _ hChild (isChild_of_child? hFound)]

theorem distinct_ofRoot (name : String) (config : NodeConfig) : (ofRoot name config).Distinct := by
  intro parent name id other hChild
  have hRoot : id = .root := index_inj.mp (Nat.lt_one_iff.mp hChild.has)
  have hParent := hChild.parent
  rw [hRoot] at hParent
  cases hParent

theorem isChild_add {child : String} (config : NodeConfig) :
    (h.add parent name config).IsChild other child id ↔
      h.IsChild other child id ∨ (id = h.nextId ∧ other = parent ∧ child = name) := by
  constructor
  · rintro ⟨hHas, hParent, hName⟩
    obtain hOld | rfl := (has_add parent name config).mp hHas
    · rw [node_add hOld] at hParent hName
      exact .inl ⟨hOld, hParent, hName⟩
    · rw [parent?_add_nextId] at hParent
      rw [node_add_nextId] at hName
      exact .inr ⟨rfl, (Option.some.inj hParent).symm, hName.symm⟩
  · rintro (⟨hHas, hParent, hName⟩ | ⟨rfl, rfl, rfl⟩)
    · rw [← node_add hHas parent name config] at hParent hName
      exact ⟨(has_add parent name config).mpr (.inl hHas), hParent, hName⟩
    · refine ⟨(has_add _ _ config).mpr (.inr rfl), parent?_add_nextId .., ?_⟩
      rw [node_add_nextId]

theorem isChild_configure (f : NodeConfig → NodeConfig) :
    (h.configure id f).IsChild parent name other ↔ h.IsChild parent name other := by
  have hPlace (hOther : h.Has other) :
      ((h.configure id f).node other).parent? = (h.node other).parent? ∧
        ((h.configure id f).node other).name = (h.node other).name := by
    rw [node_configure f hOther]
    split <;> exact ⟨rfl, rfl⟩
  constructor
  · rintro ⟨hHas, hParent, hName⟩
    have hOther := (has_configure f).mp hHas
    rw [(hPlace hOther).1] at hParent
    rw [(hPlace hOther).2] at hName
    exact ⟨hOther, hParent, hName⟩
  · rintro ⟨hHas, hParent, hName⟩
    rw [← (hPlace hHas).1] at hParent
    rw [← (hPlace hHas).2] at hName
    exact ⟨(has_configure f).mpr hHas, hParent, hName⟩

/-- A child under a free name leaves every name with one child at most. -/
theorem Distinct.add (hd : h.Distinct) (hFree : h.child? parent name = none)
    (config : NodeConfig) : (h.add parent name config).Distinct := by
  have hNone := child?_eq_none_iff.mp hFree
  intro above child id other hChild hOther
  obtain hOld | ⟨rfl, rfl, rfl⟩ := (isChild_add config).mp hChild
  · obtain hOld' | ⟨-, rfl, rfl⟩ := (isChild_add config).mp hOther
    · exact hd above child id other hOld hOld'
    · exact absurd hOld (hNone id)
  · obtain hOld | ⟨rfl, -, -⟩ := (isChild_add config).mp hOther
    · exact absurd hOld (hNone other)
    · rfl

theorem Distinct.configure (hd : h.Distinct) (id : NodeId) (f : NodeConfig → NodeConfig) :
    (h.configure id f).Distinct := by
  intro above child id other hChild hOther
  exact hd above child id other ((isChild_configure f).mp hChild) ((isChild_configure f).mp hOther)

end Logline.Hierarchy
