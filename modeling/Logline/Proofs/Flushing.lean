import Logline.Proofs.LastFlush
import Logline.Proofs.Lineage
import Logline.Proofs.MergedAttrs
import Mathlib.Data.List.Nodup

/-! # Flushes

A flush of a logger goes through the routers of this logger and of all loggers below it, each
router once, and through the sinks of each router, each sink once. A failure keeps none of them
from its flush, and the answer is the first failure. A router is closed in the same way.
-/

namespace Logline

/-! ## Loggers below a logger -/

namespace Hierarchy

variable {h : Hierarchy} {id other : NodeId}

/-- A logger is `id` itself, or its parent is one of those. -/
inductive Below (h : Hierarchy) (id : NodeId) : NodeId → Prop where
  | self : Below h id id
  | child {parent other : NodeId} :
      Below h id parent → (h.node other).parent? = some parent → Below h id other

theorem Lineage.below_iff {above : List NodeId} (hLineage : h.Lineage other above) :
    h.Below id other ↔ other = id ∨ id ∈ above := by
  induction hLineage with
  | @root other hNone =>
    constructor
    · intro hBelow
      cases hBelow with
      | self => exact .inl rfl
      | child _ hParent => cases hNone.symm.trans hParent
    · rintro (rfl | hMem)
      · exact .self
      · cases hMem
  | @child other parent above hParent _ ih =>
    rw [List.mem_append, List.mem_singleton]
    constructor
    · intro hBelow
      cases hBelow with
      | self => exact .inl rfl
      | child hBelow hParent' =>
        obtain rfl := Option.some.inj (hParent.symm.trans hParent')
        obtain rfl | hMem := ih.mp hBelow
        · exact .inr (.inr rfl)
        · exact .inr (.inl hMem)
    · rintro (rfl | hMem | rfl)
      · exact .self
      · exact .child (ih.mpr (.inr hMem)) hParent
      · exact .child .self hParent

theorem node_mem (h : Hierarchy) (id : NodeId) : h.node id ∈ h.nodes := by
  rw [node, List.getD_eq_getElem?_getD]
  cases hNode : h.nodes[id.index]? with
  | none => exact List.mem_cons_self
  | some node => exact List.mem_of_getElem? hNode

theorem exists_node {node : Node} (hNode : node ∈ h.nodes) : ∃ id, h.node id = node := by
  obtain ⟨i, hIndex, rfl⟩ := List.mem_iff_getElem.mp hNode
  exact ⟨⟨i⟩, by simp [Hierarchy.node, hIndex]⟩

theorem Ordered.mem_subtree (ho : h.Ordered) {node : Node} :
    node ∈ h.subtree id ↔ ∃ other, h.Below id other ∧ h.node other = node := by
  rw [subtree, List.mem_cons, List.mem_filter, List.contains_iff_mem]
  constructor
  · rintro (rfl | ⟨hNode, hMem⟩)
    · exact ⟨id, .self, rfl⟩
    · obtain ⟨other, rfl⟩ := exists_node hNode
      exact ⟨other, (ho.lineage other).below_iff.mpr (.inr hMem), rfl⟩
  · rintro ⟨other, hBelow, rfl⟩
    obtain rfl | hMem := (ho.lineage other).below_iff.mp hBelow
    · exact .inl rfl
    · exact .inr ⟨h.node_mem other, hMem⟩

end Hierarchy

namespace Engine

variable {e : Engine} {id : NodeId}

theorem mem_reachableRouters (hGrown : e.hierarchy.Grown) {bound : BoundRouter} :
    bound ∈ e.reachableRouters id ↔
      ∃ other, e.hierarchy.Below id other ∧ e.routerOf other = bound := by
  rw [reachableRouters, List.mem_eraseDups, List.mem_map]
  constructor
  · rintro ⟨node, hNode, rfl⟩
    obtain ⟨other, hBelow, rfl⟩ := hGrown.ordered.mem_subtree.mp hNode
    exact ⟨other, hBelow, rfl⟩
  · rintro ⟨other, hBelow, rfl⟩
    exact ⟨_, hGrown.ordered.mem_subtree.mpr ⟨other, hBelow, rfl⟩, rfl⟩

theorem nodup_reachableRouters (e : Engine) (id : NodeId) : (e.reachableRouters id).Nodup :=
  nodup_eraseDups _

/-- The sinks of the routers that a flush goes through, in its order. -/
def flushedSinks (e : Engine) (id : NodeId) : List SinkId :=
  (e.reachableRouters id).flatMap (·.router.allSinks)

end Engine

/-! ## Acts on all items of a list -/

namespace Router

section

variable {W α β : Type} {act : α → W → Except LogError Unit × W}

/-- The items with what the act answers for each of them, one after the other. -/
def answered (act : α → W → Except LogError Unit × W) :
    List α → W → List (α × Except LogError Unit)
  | [], _ => []
  | a :: r, w => (a, (act a w).1) :: answered act r (act a w).2

theorem map_fst_answered (items : List α) (w : W) :
    (answered act items w).map (·.1) = items := by
  induction items generalizing w with
  | nil => rfl
  | cons a r ih => rw [answered, List.map_cons, ih]

theorem firstError_snd (items : List α) (w : W) :
    (firstError act items w).2 = items.foldl (fun w a => (act a w).2) w := by
  induction items generalizing w with
  | nil => rfl
  | cons a r ih => rw [firstError_cons_snd, ih, List.foldl_cons]

theorem firstError_append (as bs : List α) (w : W) :
    firstError act (as ++ bs) w =
      match firstError act as w with
      | (.ok _, w) => firstError act bs w
      | (.error error, w) => (.error error, (firstError act bs w).2) := by
  induction as generalizing w with
  | nil => rfl
  | cons a r ih =>
    rw [List.cons_append, firstError, firstError]
    rcases act a w with ⟨error | _, w'⟩
    · dsimp only
      rw [ih]
      rcases firstError act r w' with ⟨_ | _, _⟩ <;> rfl
    · exact ih w'

/-- Lists of items that are gone through one after the other are gone through as one list. -/
theorem firstError_flatMap (items : β → List α) (bs : List β) (w : W) :
    firstError (fun b => firstError act (items b)) bs w =
      firstError act (bs.flatMap items) w := by
  induction bs generalizing w with
  | nil => rfl
  | cons b r ih =>
    rw [List.flatMap_cons, firstError_append, firstError]
    rcases firstError act (items b) w with ⟨_ | _, w'⟩
    · dsimp only
      rw [ih]
    · exact ih w'

theorem firstError_fst (items : List α) (w : W) :
    (firstError act items w).1 =
      (((answered act items w).find? fun x => !x.2.isOk).map (·.2)).getD (.ok ()) := by
  induction items generalizing w with
  | nil => rfl
  | cons a r ih =>
    rw [firstError, answered, List.find?_cons]
    rcases act a w with ⟨_ | _, w'⟩
    · rfl
    · exact ih w'

/-- An error comes back if and only if some act has failed, and then it is that of the first one. -/
theorem firstError_failed_iff {items : List α} {w : W} :
    (∃ error, (firstError act items w).1 = .error error) ↔
      ∃ a error, (a, .error error) ∈ answered act items w := by
  rw [firstError_fst]
  constructor
  · rintro ⟨error, hError⟩
    cases hFind : (answered act items w).find? fun x => !x.2.isOk with
    | none => simp [hFind] at hError
    | some x =>
      rw [hFind] at hError
      exact ⟨x.1, error, hError ▸ List.mem_of_find?_eq_some hFind⟩
  · rintro ⟨a, error, hMem⟩
    cases hFind : (answered act items w).find? fun x => !x.2.isOk with
    | none => simpa [Except.isOk, Except.toBool] using List.find?_eq_none.mp hFind _ hMem
    | some x =>
      have hFailed := List.find?_some hFind
      obtain ⟨b, failed | _⟩ := x
      · exact ⟨failed, rfl⟩
      · cases hFailed

theorem exists_first_of_firstError {items : List α} {w : W} {error : LogError}
    (h : (firstError act items w).1 = .error error) :
    ∃ before a after, answered act items w = before ++ (a, .error error) :: after ∧
      ∀ x ∈ before, x.2 = .ok () := by
  rw [firstError_fst] at h
  cases hFind : (answered act items w).find? fun x => !x.2.isOk with
  | none => simp [hFind] at h
  | some x =>
    obtain ⟨a, answer⟩ := x
    rw [hFind] at h
    obtain rfl : answer = .error error := h
    obtain ⟨-, before, after, hSplit, hBefore⟩ := List.find?_eq_some_iff_append.mp hFind
    refine ⟨before, a, after, hSplit, fun x hx => ?_⟩
    have hOk := hBefore x hx
    obtain ⟨b, _ | _⟩ := x
    · cases hOk
    · rfl

end

/-! ## Sinks of a router -/

/-- A sink stands in one of the lists of a router. -/
def Mentions (r : Router) (sink : SinkId) : Prop :=
  sink ∈ r.normal ∨ sink ∈ r.errors ∨ ∃ entry ∈ r.overrides, sink ∈ entry.2

instance (r : Router) (sink : SinkId) : Decidable (r.Mentions sink) :=
  inferInstanceAs (Decidable (_ ∨ _))

theorem nodup_allSinks (r : Router) : r.allSinks.Nodup := nodup_eraseDups _

theorem count_allSinks (r : Router) (sink : SinkId) :
    r.allSinks.count sink = if r.Mentions sink then 1 else 0 := by
  rw [r.nodup_allSinks.count]
  exact if_congr mem_allSinks rfl rfl

end Router

/-- A sink is flushed once for each of the routers that mention it. -/
theorem Engine.count_flushedSinks (e : Engine) (id : NodeId) (sink : SinkId) :
    (e.flushedSinks id).count sink =
      (e.reachableRouters id).countP fun bound => decide (bound.router.Mentions sink) := by
  rw [flushedSinks]
  induction e.reachableRouters id with
  | nil => rfl
  | cons bound r ih =>
    rw [List.flatMap_cons, List.count_append, ih, Router.count_allSinks, List.countP_cons,
      Nat.add_comm]
    simp only [decide_eq_true_eq]

/-! ## Whole flushes -/

section

variable {W : Type} [SinkHost W]

/-- A router is closed by one call to each of its sinks, whatever the others answer. -/
theorem Router.close_reaches (r : Router) (w : W) :
    let watched := r.close (⟨w, []⟩ : Journal W)
    let answers := answered SinkHost.close r.allSinks w
    r.close w = (watched.1, watched.2.sinks) ∧ watched.2.calls = r.allSinks.map .close ∧
      (r.close w).2 = r.allSinks.foldl (fun w k => (SinkHost.close k w).2) w ∧
      answers.map (·.1) = r.allSinks ∧
      ((∃ error, (r.close w).1 = .error error) ↔ ∃ k error, (k, .error error) ∈ answers) :=
  ⟨firstError_journal (fun _ _ => rfl) r.allSinks ⟨w, []⟩, firstError_calls (fun _ _ => rfl) _ _,
    firstError_snd _ w, map_fst_answered _ w, firstError_failed_iff⟩

namespace System

theorem flush_eq (s : System W) (id : NodeId) :
    s.flush id =
      ((Router.firstError SinkHost.flush (s.engine.flushedSinks id) s.sinks).1,
        { s with
          sinks := (Router.firstError SinkHost.flush (s.engine.flushedSinks id) s.sinks).2 }) := by
  rw [Engine.flushedSinks, ← Router.firstError_flatMap]
  rfl

theorem flush_unobserved (s : System (Journal W)) (id : NodeId) :
    s.unobserved.flush id = ((s.flush id).1, (s.flush id).2.unobserved) := by
  have hSinks : Router.firstError SinkHost.flush (s.engine.flushedSinks id) s.sinks.sinks =
      ((Router.firstError SinkHost.flush (s.engine.flushedSinks id) s.sinks).1,
        (Router.firstError SinkHost.flush (s.engine.flushedSinks id) s.sinks).2.sinks) :=
    Router.firstError_journal (fun _ _ => rfl) _ s.sinks
  rw [flush_eq, flush_eq]
  exact congrArg (fun done => (done.1, (⟨s.engine, done.2, s.diagnostics⟩ : System W))) hSinks

/-- A flush of a logger asks every sink that a router in effect for the logger, or for one below
it, has in any of its lists, once for each of these routers and whatever the other sinks answer. No
other call is made. An error comes back if and only if one of these flushes has failed, and then it
is the first one. A router is closed sink by sink in the same way. -/
theorem flush_reaches_all (s : System W) (id : NodeId) (hGrown : s.engine.hierarchy.Grown) :
    let routers := s.engine.reachableRouters id
    let sinks := s.engine.flushedSinks id
    let answers := Router.answered SinkHost.flush sinks s.sinks
    let watched := s.observed.flush id
    (∀ bound, bound ∈ routers ↔
      ∃ other, s.engine.hierarchy.Below id other ∧ s.engine.routerOf other = bound) ∧
    routers.Nodup ∧
    -- Where identities tell routers apart, none of them is gone through twice.
    ((∀ a ∈ routers, ∀ b ∈ routers, a.id = b.id → a = b) → (routers.map (·.id)).Nodup) ∧
    -- What the journal notes is what is done without it.
    s.flush id = (watched.1, watched.2.unobserved) ∧
    watched.2.sinks.calls = sinks.map .flush ∧
    (s.flush id).2 =
      { s with sinks := sinks.foldl (fun w k => (SinkHost.flush k w).2) s.sinks } ∧
    (∀ k, sinks.count k = routers.countP fun bound => decide (bound.router.Mentions k)) ∧
    answers.map (·.1) = sinks ∧
    ((∃ error, (s.flush id).1 = .error error) ↔ ∃ k error, (k, .error error) ∈ answers) ∧
    (∀ error, (s.flush id).1 = .error error →
      ∃ before k after, answers = before ++ (k, .error error) :: after ∧
        ∀ x ∈ before, x.2 = .ok ()) ∧
    ∀ (r : Router) (w : W),
      let closing := r.close (⟨w, []⟩ : Journal W)
      let answers := Router.answered SinkHost.close r.allSinks w
      r.close w = (closing.1, closing.2.sinks) ∧
      closing.2.calls = r.allSinks.map .close ∧
      (r.close w).2 = r.allSinks.foldl (fun w k => (SinkHost.close k w).2) w ∧
      (∀ k, r.allSinks.count k = if r.Mentions k then 1 else 0) ∧
      answers.map (·.1) = r.allSinks ∧
      ((∃ error, (r.close w).1 = .error error) ↔ ∃ k error, (k, .error error) ∈ answers) := by
  intro routers sinks answers watched
  have hNodup : routers.Nodup := s.engine.nodup_reachableRouters id
  have hAnswer : (s.flush id).1 = (Router.firstError SinkHost.flush sinks s.sinks).1 := by
    rw [flush_eq]
  refine ⟨fun bound => Engine.mem_reachableRouters hGrown, hNodup, ?_,
    flush_unobserved s.observed id, ?_, ?_, s.engine.count_flushedSinks id,
    Router.map_fst_answered sinks s.sinks, ?_, ?_, ?_⟩
  · exact fun hTell => List.Nodup.map_on hTell hNodup
  · have hCalls := Router.firstError_flush_calls sinks s.observed.sinks
    change (s.observed.flush id).2.sinks.calls = _
    rw [flush_eq]
    exact hCalls
  · rw [flush_eq, Router.firstError_snd]
  · rw [hAnswer]
    exact Router.firstError_failed_iff
  · intro error hError
    rw [hAnswer] at hError
    exact Router.exists_first_of_firstError hError
  · intro r w
    obtain ⟨hWatched, hCalls, hSinks, hItems, hFailed⟩ := r.close_reaches w
    exact ⟨hWatched, hCalls, hSinks, r.count_allSinks, hItems, hFailed⟩

/-- A sink of two routers is flushed for each of them, though the first sink of all fails. -/
theorem flush_reaches_all_of_failing :
    let start := Engine.build default { sinks := [⟨2⟩, ⟨3⟩] }
    let db := start.childWith .root "db" [.sinks [⟨3⟩, ⟨3⟩, ⟨4⟩]]
    let e := (db.2.childWith db.1 "pool" []).2
    let full : Probe := { name := "full", flushFailure := some "no space" }
    let store : SinkStore := {
      sinks := [.console .stdout, .console .stderr, .probe full, .minimal "b", .minimal "c"]
      directory := ⟨"", []⟩
      log := [] }
    let s : System SinkStore := ⟨e, store, []⟩
    e.hierarchy.Grown ∧ (s.observed.flush .root).2.sinks.calls =
        [.flush ⟨2⟩, .flush ⟨3⟩, .flush ⟨3⟩, .flush ⟨4⟩] ∧
      (e.flushedSinks .root).count ⟨3⟩ = 2 ∧ ∃ error, (s.flush .root).1 = .error error := by
  intro start db e full store s
  have hGrown : e.hierarchy.Grown :=
    Engine.grown_childWith
      (Engine.grown_childWith (Engine.grown_build default _) (by decide) "db" _) (by decide)
      "pool" []
  obtain ⟨-, -, -, -, hCalls, -, hCount, -, hFailed, -, -⟩ := s.flush_reaches_all .root hGrown
  have hSinks : e.flushedSinks .root = [⟨2⟩, ⟨3⟩, ⟨3⟩, ⟨4⟩] := by decide +kernel
  refine ⟨hGrown, hCalls.trans (congrArg _ hSinks), (hCount ⟨3⟩).trans (by decide +kernel), ?_⟩
  refine hFailed.mpr ⟨⟨2⟩, .other "no space", ?_⟩
  rw [show s.engine.flushedSinks .root = _ from hSinks]
  exact List.mem_cons_self

end System

end

end Logline
