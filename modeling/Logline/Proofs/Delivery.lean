import Logline.Engine.Application
import Logline.Proofs.WholeCalls
import Logline.Sink.Store

/-! # What memory sinks hold

A memory sink holds the lines of the records that were routed to it, one after the other. What
other sinks do has no part in it: a delivery changes no memory sink but the one it goes to, and
only a switch of the sink itself decides whether it takes a line.
-/

namespace Logline

def Sink.mapMemory (f : MemorySink → MemorySink) : Sink → Sink
  | memory m => memory (f m)
  | sink => sink

/-- Whether a line that is offered is taken. -/
def MemorySink.takes (m : MemorySink) : Bool := !m.closed && !m.failing

/-- A memory sink after it took some lines, with its switches as they were. -/
structure MemorySink.Took (m m' : MemorySink) (lines : List ByteArray) : Prop where
  bytes : m'.bytes.data.toList = m.bytes.data.toList ++ lines.flatMap (·.data.toList)
  closed : m'.closed = m.closed
  failing : m'.failing = m.failing

namespace MemorySink.Took

variable {m m' m'' : MemorySink} {lines more : List ByteArray}

theorem refl (m : MemorySink) : m.Took m [] := ⟨by simp, rfl, rfl⟩

theorem trans (h : m.Took m' lines) (h' : m'.Took m'' more) : m.Took m'' (lines ++ more) where
  bytes := by rw [h'.bytes, h.bytes, List.flatMap_append, List.append_assoc]
  closed := h'.closed.trans h.closed
  failing := h'.failing.trans h.failing

theorem takes_eq (h : m.Took m' lines) : m'.takes = m.takes := by
  rw [takes, takes, h.closed, h.failing]

/-- A line that is offered is taken as a whole or not at all. -/
theorem of_write (m : MemorySink) (level : Level) (line : ByteArray) :
    m.Took ((m.setLevel level).write line).2 (if m.takes then [line] else []) := by
  cases hClosed : m.closed <;> cases hFailing : m.failing <;>
    constructor <;> simp [takes, write, setLevel, hClosed, hFailing]

end MemorySink.Took

theorem SinkId.index_inj {id k : SinkId} : id.index = k.index ↔ id = k :=
  ⟨fun h => congrArg SinkId.mk h, congrArg SinkId.index⟩

namespace SinkStore

variable {s : SinkStore} {id k : SinkId} {m : MemorySink}

theorem memory?_eq_some_iff : s.memory? k = some m ↔ s.get? k = some (.memory m) := by
  rw [memory?]
  split <;> simp_all

theorem get?_put_of_ne (sink : Sink) (h : id ≠ k) : (s.put id sink).get? k = s.get? k :=
  List.getElem?_set_ne fun hIndex => h (SinkId.index_inj.mp hIndex)

theorem memory?_put {before : Sink} (m : MemorySink) (h : s.get? k = some before) :
    (s.put k (.memory m)).memory? k = some m := by
  obtain ⟨hIndex, -⟩ := List.getElem?_eq_some_iff.mp h
  exact memory?_eq_some_iff.mpr (List.getElem?_set_self hIndex)

/-! What is done to one sink leaves the others alone. -/

theorem get?_setLevel_of_ne (level : Level) (h : id ≠ k) :
    (s.setLevel id level).get? k = s.get? k := by
  rw [setLevel]
  split
  · exact get?_put_of_ne _ h
  · rfl
  · rfl

theorem get?_write_of_ne (line : ByteArray) (h : id ≠ k) :
    (s.write id line).2.get? k = s.get? k := by
  rw [write]
  split
  · exact get?_put_of_ne _ h
  · rfl
  · exact get?_put_of_ne (s := s) _ h
  all_goals rfl

theorem memory?_flush (h : s.memory? k = some m) : (s.flush id).2.memory? k = some m := by
  rw [memory?_eq_some_iff] at h ⊢
  rw [flush]
  split
  · next hFile =>
    have hNe : id ≠ k := by
      rintro rfl
      rw [h] at hFile
      cases hFile
    exact (get?_put_of_ne (s := s) _ hNe).trans h
  all_goals exact h

theorem memory?_close (h : s.memory? k = some m) :
    (s.close id).2.memory? k = some (if id = k then m.close else m) := by
  have hGet := memory?_eq_some_iff.mp h
  by_cases hSink : id = k
  · subst hSink
    rw [if_pos rfl, close, hGet]
    exact memory?_put _ hGet
  · rw [if_neg hSink, close]
    split
    · exact memory?_eq_some_iff.mpr ((get?_put_of_ne _ hSink).trans hGet)
    · exact memory?_eq_some_iff.mpr ((get?_put_of_ne _ hSink).trans hGet)
    · exact memory?_flush h

theorem get?_modify (s : SinkStore) (id k : SinkId) (f : Sink → Sink) :
    (s.modify id f).get? k = (s.get? k).map fun sink => if id = k then f sink else sink := by
  rw [get?, modify, List.getElem?_modify]
  simp only [SinkId.index_inj]
  rfl

end SinkStore

namespace Router

/-- The list of sinks that a router has for the lines of a level: the one for the level itself, if
there is one, or else that of its stream. -/
inductive Lists (r : Router) (registry : LevelRegistry) (level : Level) : List SinkId → Prop
  | override {sinks : List SinkId} (own : r.overrides.lookup level = some sinks) :
      Lists r registry level sinks
  | errors {info : LevelInfo} (none : r.overrides.lookup level = none)
      (known : registry.info? level = some info) (stream : info.errorStream) :
      Lists r registry level r.errors
  | normal (none : r.overrides.lookup level = none)
      (stream : ∀ info, registry.info? level = some info → info.errorStream = false) :
      Lists r registry level r.normal

theorem lists_sinksFor (r : Router) (registry : LevelRegistry) (level : Level) :
    r.Lists registry level (r.sinksFor registry level) := by
  rw [sinksFor, LevelRegistry.isErrorStream]
  cases hOwn : r.overrides.lookup level with
  | some sinks => exact .override hOwn
  | none =>
    cases hInfo : registry.info? level with
    | none => exact .normal hOwn fun info h => nomatch hInfo.symm.trans h
    | some info =>
      dsimp only
      split
      · next hStream => exact .errors hOwn hInfo hStream
      · next hStream =>
        refine .normal hOwn fun other h => ?_
        obtain rfl := Option.some.inj (hInfo.symm.trans h)
        exact eq_false_of_ne_true hStream

/-- A line that is offered to a sink reaches no other one. -/
theorem deliver_took {s : SinkStore} {k : SinkId} {m : MemorySink} (level : Level)
    (line : ByteArray) (sink : SinkId) (h : s.memory? k = some m) :
    ∃ m', (deliver level line sink s).2.memory? k = some m' ∧
      m.Took m' (if sink = k then if m.takes then [line] else [] else []) := by
  have hGet := SinkStore.memory?_eq_some_iff.mp h
  have hAfter : (deliver level line sink s).2 = ((s.setLevel sink level).write sink line).2 := by
    rw [deliver_eq]
    rfl
  rw [hAfter]
  by_cases hSink : sink = k
  · subst hSink
    have hSet : s.setLevel sink level = s.put sink (.memory (m.setLevel level)) := by
      rw [SinkStore.setLevel, hGet]
    have hSetGet := SinkStore.memory?_eq_some_iff.mp
      (SinkStore.memory?_put (m.setLevel level) hGet)
    rw [hSet, SinkStore.write, hSetGet, if_pos rfl]
    exact ⟨_, SinkStore.memory?_put _ hSetGet, .of_write m level line⟩
  · refine ⟨m, SinkStore.memory?_eq_some_iff.mpr ?_, ?_⟩
    · rw [SinkStore.get?_write_of_ne _ hSink, SinkStore.get?_setLevel_of_ne _ hSink, hGet]
    · rw [if_neg hSink]
      exact .refl m

/-- Each listing of a sink is one offer of the line, whatever the other sinks answer. -/
theorem deliverAll_took {s : SinkStore} {k : SinkId} {m : MemorySink} (level : Level)
    (line : ByteArray) (sinks : List SinkId) (h : s.memory? k = some m) :
    ∃ m', (deliverAll level line sinks s).2.memory? k = some m' ∧
      m.Took m' (if m.takes then List.replicate (sinks.count k) line else []) := by
  induction sinks generalizing s m with
  | nil => exact ⟨m, h, by simpa using .refl m⟩
  | cons sink r ih =>
    obtain ⟨m', hSink, hTook⟩ := deliver_took level line sink h
    obtain ⟨m'', hRest, hTooks⟩ := ih hSink
    refine ⟨m'', hRest, ?_⟩
    have hLines : (if m.takes then List.replicate ((sink :: r).count k) line else []) =
        (if sink = k then if m.takes then [line] else [] else []) ++
          if m'.takes then List.replicate (r.count k) line else [] := by
      rw [hTook.takes_eq, List.count_cons]
      cases m.takes <;> by_cases hSame : sink = k <;> simp [hSame, List.replicate_succ]
    rw [hLines]
    exact hTook.trans hTooks

/-- An error ends nothing: what is left is done all the same. -/
theorem firstError_cons_snd {W α : Type} (act : α → W → Except LogError Unit × W) (a : α)
    (r : List α) (w : W) :
    (firstError act (a :: r) w).2 = (firstError act r (act a w).2).2 := by
  rw [firstError]
  rcases act a w with ⟨_ | _, t⟩ <;> rfl

theorem firstError_keeps {W α : Type} {act : α → W → Except LogError Unit × W} {P : W → Prop}
    (hAct : ∀ a w, P w → P (act a w).2) (items : List α) {w : W} (h : P w) :
    P (firstError act items w).2 := by
  induction items generalizing w with
  | nil => exact h
  | cons a r ih =>
    rw [firstError_cons_snd]
    exact ih (hAct a w h)

theorem memory?_flush {s : SinkStore} {k : SinkId} {m : MemorySink} (r : Router)
    (h : s.memory? k = some m) : (r.flush s).2.memory? k = some m :=
  firstError_keeps (P := fun s : SinkStore => s.memory? k = some m)
    (fun _ _ hSink => SinkStore.memory?_flush hSink) _ h

end Router

/-! ## Records -/

/-- The router in effect for a record: the one bound to its logger, or else the engine's. -/
def Attempt.router (a : Attempt SinkStore) : Router :=
  match (a.system.engine.config a.node).router with
  | some bound => bound.router
  | none => a.system.engine.router.router

theorem Attempt.lists_listed (a : Attempt SinkStore) :
    a.router.Lists a.environment.registry a.call.level a.listed := by
  have hRouter : (a.system.engine.routerOf a.node).router = a.router := by
    rw [Engine.routerOf, router]
    cases (a.system.engine.config a.node).router <;> rfl
  rw [listed, hRouter]
  exact a.router.lists_sinksFor _ _

/-- The copies of its line that a record adds to a memory sink: one for each listing of the sink,
if the sink takes lines at that time. -/
def Attempt.copies (a : Attempt SinkStore) (k : SinkId) : List ByteArray :=
  match a.line?, a.system.sinks.memory? k with
  | some line, some m => if m.takes then List.replicate (a.listed.count k) line else []
  | _, _ => []

theorem Attempt.copies_filtered {a : Attempt SinkStore} (h : a.passes = false) (k : SinkId) :
    a.copies k = [] := by
  rw [copies, line?, h]
  rfl

theorem Attempt.after_took (a : Attempt SinkStore) {k : SinkId} {m : MemorySink}
    (h : a.system.sinks.memory? k = some m) :
    ∃ m', a.after.sinks.memory? k = some m' ∧ m.Took m' (a.copies k) := by
  change ∃ m', a.sinksAfter.memory? k = some m' ∧ _
  rw [sinksAfter, copies, h]
  cases a.line? with
  | none => exact ⟨m, h, .refl m⟩
  | some line => exact Router.deliverAll_took a.call.level line a.listed h

/-- A call with its reports adds the copies of all their lines, in the order of the records. -/
theorem Runs.took {env : Environment} {id : NodeId} {task : Task} {s t : System SinkStore}
    {as : List (Attempt SinkStore)} {x : Except Buffer.Fault Unit} (h : Runs env id task s as x t)
    {k : SinkId} {m : MemorySink} (hSink : s.sinks.memory? k = some m) :
    ∃ m', t.sinks.memory? k = some m' ∧ m.Took m' (as.flatMap (·.copies k)) := by
  induction h generalizing m with
  | @broken call s t fault tried =>
    obtain ⟨-, rfl⟩ := Attempt.of_attempt tried
    simpa using Attempt.after_took ⟨env, id, call, s⟩ hSink
  | @written call failures s t u as x tried _ ih =>
    obtain ⟨-, rfl⟩ := Attempt.of_attempt tried
    obtain ⟨m', hAfter, hTook⟩ := Attempt.after_took ⟨env, id, call, s⟩ hSink
    obtain ⟨m'', hRest, hTooks⟩ := ih hAfter
    exact ⟨m'', hRest, hTook.trans hTooks⟩
  | done => exact ⟨m, hSink, .refl m⟩
  | lost _ _ ih => exact ih hSink
  | told _ _ _ ihReport ihRest =>
    obtain ⟨m', hReport, hTook⟩ := ihReport hSink
    obtain ⟨m'', hRest, hTooks⟩ := ihRest hReport
    exact ⟨m'', hRest, by rw [List.flatMap_append]; exact hTook.trans hTooks⟩
  | stuck _ _ ih => exact ih hSink

/-- A memory sink is there for each record of a call. -/
theorem Runs.held {env : Environment} {id : NodeId} {task : Task} {s t : System SinkStore}
    {as : List (Attempt SinkStore)} {x : Except Buffer.Fault Unit} (h : Runs env id task s as x t)
    {k : SinkId} {m : MemorySink} (hSink : s.sinks.memory? k = some m) :
    ∀ a ∈ as, ∃ held, a.system.sinks.memory? k = some held := by
  induction h generalizing m with
  | broken => exact List.forall_mem_singleton.mpr ⟨m, hSink⟩
  | @written call failures s t u as x tried _ ih =>
    obtain ⟨-, rfl⟩ := Attempt.of_attempt tried
    obtain ⟨m', hAfter, -⟩ := Attempt.after_took ⟨env, id, call, s⟩ hSink
    exact List.forall_mem_cons.mpr ⟨⟨m, hSink⟩, ih hAfter⟩
  | done => exact fun a h => nomatch h
  | lost _ _ ih => exact ih hSink
  | told _ report _ ihReport ihRest =>
    obtain ⟨m', hReport, -⟩ := report.took hSink
    exact List.forall_mem_append.mpr ⟨ihReport hSink, ihRest hReport⟩
  | stuck _ _ ih => exact ih hSink

namespace System

variable (s : System SinkStore) {k : SinkId} {m : MemorySink}

theorem memory?_escalate (escalation : Escalation) (h : s.sinks.memory? k = some m) :
    (s.escalate escalation).2.sinks.memory? k = some m :=
  escalate_keeps (P := fun t : System SinkStore => t.sinks.memory? k = some m) h h
    (s.engine.router.router.memory?_flush h) (fun _ _ hSink => hSink) escalation

theorem memory?_flush (id : NodeId) (h : s.sinks.memory? k = some m) :
    (s.flush id).2.sinks.memory? k = some m :=
  Router.firstError_keeps (P := fun s : SinkStore => s.memory? k = some m)
    (fun bound _ hSink => bound.router.memory?_flush hSink) _ h

theorem emit_took (env : Environment) (id : NodeId) (call : Call) (h : s.sinks.memory? k = some m) :
    ∃ m', (s.emit env id call).2.sinks.memory? k = some m' ∧
      m.Took m' ((s.attempts env id call).flatMap (·.copies k)) := by
  rw [emit_eq]
  exact (Runs.of_write env id call s).took h

theorem log_took (env : Environment) (id : NodeId) (call : Call) (h : s.sinks.memory? k = some m) :
    ∃ m', (s.log env id call).2.sinks.memory? k = some m' ∧
      m.Took m' ((s.attempts env id call).flatMap (·.copies k)) := by
  obtain ⟨m', hSink, hTook⟩ := (Runs.of_write env id call s).took h
  refine ⟨m', ?_, hTook⟩
  cases hWrite : (s.write env id call).1 with
  | error fault =>
    rw [log_of_error hWrite]
    exact hSink
  | ok done =>
    rw [log_of_ok hWrite]
    cases Escalation.ofLevel call.level call.message with
    | none => exact hSink
    | some escalation => exact memory?_escalate _ escalation hSink

end System

/-! ## Programs -/

/-- What a program does with an application, one thing after the other. -/
inductive Action where
  | log (logger : Logger) (call : Call)
  | emit (logger : Logger) (call : Call)
  | escalate (engine : Nat) (escalation : Escalation)
  | flush (logger : Logger)
  /-- Any change of the levels, of the engines with their loggers and routers, and of the default
  logger. -/
  | configure (environment : Environment) (engines : List Engine) (defaultLogger : Logger)
  | addSink (sink : Sink)
  | setFailing (sink : SinkId) (failing : Bool)
  | setProbe (sink : SinkId) (change : Probe → Probe)
  | close (sink : SinkId)

/-- An engine of an application with the sinks of all. -/
def Application.system (p : Application SinkStore) (index : Nat) : System SinkStore :=
  ⟨p.engine index, p.sinks, p.diagnostics⟩

namespace Action

variable (p : Application SinkStore)

def perform : Action → Application SinkStore
  | log logger call => (p.log logger call).2
  | emit logger call => (p.emit logger call).2
  | escalate engine escalation => (p.escalate engine escalation).2
  | flush logger => (p.flush logger).2
  | configure environment engines defaultLogger =>
    { p with environment, engines, defaultLogger }
  | addSink sink => { p with sinks := (p.sinks.add sink).2 }
  | setFailing sink failing =>
    { p with sinks := p.sinks.modify sink (Sink.mapMemory (·.setFailing failing)) }
  | setProbe sink change => { p with sinks := p.sinks.modify sink (Sink.mapProbe change) }
  | close sink => { p with sinks := (p.sinks.close sink).2 }

/-- The records that an action attempts. -/
def attempts : Action → List (Attempt SinkStore)
  | log logger call | emit logger call =>
    (p.system logger.engine).attempts p.environment logger.node call
  | _ => []

end Action

namespace Application

def performAll (p : Application SinkStore) : List Action → Application SinkStore
  | [] => p
  | action :: r => (action.perform p).performAll r

/-- The records of all actions, in order. -/
def history (p : Application SinkStore) : List Action → List (Attempt SinkStore)
  | [] => []
  | action :: r => action.attempts p ++ (action.perform p).history r

end Application

theorem Action.perform_bytes (p : Application SinkStore) (action : Action) {k : SinkId}
    {m : MemorySink} (h : p.sinks.memory? k = some m) :
    ∃ m', (action.perform p).sinks.memory? k = some m' ∧
      m'.bytes.data.toList = m.bytes.data.toList ++
        ((action.attempts p).flatMap (·.copies k)).flatMap (·.data.toList) := by
  have hGet := SinkStore.memory?_eq_some_iff.mp h
  cases action with
  | log logger call =>
    obtain ⟨m', hSink, hTook⟩ :=
      (p.system logger.engine).log_took p.environment logger.node call h
    exact ⟨m', hSink, hTook.bytes⟩
  | emit logger call =>
    obtain ⟨m', hSink, hTook⟩ :=
      (p.system logger.engine).emit_took p.environment logger.node call h
    exact ⟨m', hSink, hTook.bytes⟩
  | escalate engine escalation =>
    exact ⟨m, (p.system engine).memory?_escalate escalation h, by simp [attempts]⟩
  | flush logger =>
    exact ⟨m, (p.system logger.engine).memory?_flush logger.node h, by simp [attempts]⟩
  | configure environment engines defaultLogger => exact ⟨m, h, by simp [attempts]⟩
  | addSink sink =>
    obtain ⟨hIndex, -⟩ := List.getElem?_eq_some_iff.mp hGet
    have hSink : (p.sinks.add sink).2.get? k = some (.memory m) :=
      (List.getElem?_append_left hIndex).trans hGet
    exact ⟨m, SinkStore.memory?_eq_some_iff.mpr hSink, by simp [attempts]⟩
  | setFailing sink failing =>
    have hSink := SinkStore.get?_modify p.sinks sink k (Sink.mapMemory (·.setFailing failing))
    rw [hGet, Option.map_some] at hSink
    by_cases hSame : sink = k
    · rw [if_pos hSame] at hSink
      exact ⟨_, SinkStore.memory?_eq_some_iff.mpr hSink,
        by simp [attempts, MemorySink.setFailing]⟩
    · rw [if_neg hSame] at hSink
      exact ⟨m, SinkStore.memory?_eq_some_iff.mpr hSink, by simp [attempts]⟩
  | setProbe sink change =>
    have hSink := SinkStore.get?_modify p.sinks sink k (Sink.mapProbe change)
    have hKept : Sink.mapProbe change (.memory m) = .memory m := rfl
    rw [hGet, Option.map_some, hKept, ite_self] at hSink
    exact ⟨m, SinkStore.memory?_eq_some_iff.mpr hSink, by simp [attempts]⟩
  | close sink =>
    exact ⟨_, SinkStore.memory?_close h, by split <;> simp [attempts, MemorySink.close]⟩

theorem Action.held (p : Application SinkStore) (action : Action) {k : SinkId} {m : MemorySink}
    (h : p.sinks.memory? k = some m) :
    ∀ a ∈ action.attempts p, ∃ held, a.system.sinks.memory? k = some held := by
  cases action with
  | log logger call | emit logger call => exact (Runs.of_write _ _ call _).held h
  | _ => exact fun a h => nomatch h

namespace Application

theorem performAll_bytes (p : Application SinkStore) (actions : List Action) {k : SinkId}
    {m : MemorySink} (h : p.sinks.memory? k = some m) :
    ∃ m', (p.performAll actions).sinks.memory? k = some m' ∧
      m'.bytes.data.toList = m.bytes.data.toList ++
        ((p.history actions).flatMap (·.copies k)).flatMap (·.data.toList) := by
  induction actions generalizing p m with
  | nil => exact ⟨m, h, by simp [history]⟩
  | cons action r ih =>
    obtain ⟨m', hSink, hBytes⟩ := action.perform_bytes p h
    obtain ⟨m'', hRest, hMore⟩ := ih (action.perform p) hSink
    refine ⟨m'', hRest, ?_⟩
    rw [hMore, hBytes, history, List.flatMap_append, List.flatMap_append, List.append_assoc]

theorem history_held (p : Application SinkStore) (actions : List Action) {k : SinkId}
    {m : MemorySink} (h : p.sinks.memory? k = some m) :
    ∀ a ∈ p.history actions, ∃ held, a.system.sinks.memory? k = some held := by
  induction actions generalizing p m with
  | nil => exact fun a h => nomatch h
  | cons action r ih =>
    obtain ⟨m', hSink, -⟩ := action.perform_bytes p h
    exact List.forall_mem_append.mpr ⟨action.held p h, ih (action.perform p) hSink⟩

/-- A memory sink holds what it held before and then, record by record, the whole line once for
each time that the router in effect lists the sink for the level, unless the sink is failing or
closed at that time. A record that is filtered leaves everything but its counter as it was. -/
theorem performAll_delivers (p : Application SinkStore) (actions : List Action) {k : SinkId}
    {m : MemorySink} (h : p.sinks.memory? k = some m) :
    (∃ m', (p.performAll actions).sinks.memory? k = some m' ∧
      m'.bytes.data.toList = m.bytes.data.toList ++
        ((p.history actions).flatMap (·.copies k)).flatMap (·.data.toList)) ∧
    (∀ a ∈ p.history actions, ∀ line, a.line? = some line →
      ∃ held sinks, a.system.sinks.memory? k = some held ∧
        a.router.Lists a.environment.registry a.call.level sinks ∧
        a.copies k = if held.failing ∨ held.closed then [] else
          List.replicate (sinks.count k) line) ∧
    ∀ a ∈ p.history actions, a.passes = false →
      a.copies k = [] ∧ a.after = a.system.countFiltered := by
  refine ⟨p.performAll_bytes actions h, fun a hMem line hLine => ?_, fun a _ hFiltered => ?_⟩
  · obtain ⟨held, hHeld⟩ := p.history_held actions h a hMem
    refine ⟨held, a.listed, hHeld, a.lists_listed, ?_⟩
    rw [Attempt.copies, hLine, hHeld]
    cases hFailing : held.failing <;> cases hClosed : held.closed <;>
      simp [MemorySink.takes, hFailing, hClosed]
  · obtain ⟨-, hAfter⟩ := Prod.mk.inj (Attempt.attempt_filtered hFiltered)
    exact ⟨Attempt.copies_filtered hFiltered k, hAfter⟩

/-- A closed sink takes no more; until then a failing sink before it in the list is of no effect
but on the report. -/
theorem performAll_delivers_of_failing :
    let env : Environment := { (default : Environment) with registry := .new }
    let refusing := (MemorySink.named "bad").setFailing true
    let e := Engine.build env
      { node := { format := .logfmt, timeLayout := .unix }, sinks := [⟨2⟩, ⟨3⟩, ⟨3⟩] }
    let p : Application SinkStore :=
      ⟨env, [e], ⟨0, .root⟩, ((SinkStore.new.add (.memory refusing)).2.add (.memory .new)).2, []⟩
    let call : Call := { level := .error, message := "m" }
    let line := "time=0 level=error msg=m\n"
    let report := "time=0 level=warn msg=\"log write failed\" sink=bad " ++
      "error=\"Writer error: bad: write rejected\"\n"
    p.sinks.memory? ⟨3⟩ = some .new ∧
      ∃ m', (p.performAll [.log ⟨0, .root⟩ call, .close ⟨3⟩, .log ⟨0, .root⟩ call]).sinks.memory?
          ⟨3⟩ = some m' ∧
        m'.bytes.data.toList = Text.utf8 (line ++ line ++ report ++ report) := by
  intro env refusing e p call line report
  have hSink : p.sinks.memory? ⟨3⟩ = some .new := rfl
  obtain ⟨⟨m', hAfter, hBytes⟩, -⟩ := p.performAll_delivers
    [.log ⟨0, .root⟩ call, .close ⟨3⟩, .log ⟨0, .root⟩ call] hSink
  refine ⟨hSink, m', hAfter, hBytes.trans ?_⟩
  decide +kernel

end Application

end Logline
