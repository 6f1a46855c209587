import Logline.Proofs.Escalating

/-! # Calls of sinks

A journal stands between a system and its sinks. It passes each call on and notes it, with the
answer to a write. A system does the same with a journal as without one, and what the journal of a
log call shows is the writes of its records, one record after the other.
-/

namespace Logline

inductive SinkCall where
  | write (sink : SinkId) (line : ByteArray) (answer : Except LogError Nat)
  | flush (sink : SinkId)
  | close (sink : SinkId)

/-- Sinks with the calls that they got, oldest first. -/
structure Journal (W : Type) where
  sinks : W
  calls : List SinkCall

variable {W : Type}

instance [SinkHost W] : SinkHost (Journal W) where
  name j sink := SinkHost.name j.sinks sink
  setLevel sink level j := { j with sinks := SinkHost.setLevel sink level j.sinks }
  write sink line j :=
    let (answer, sinks) := SinkHost.write sink line j.sinks
    (answer, ⟨sinks, j.calls ++ [.write sink line answer]⟩)
  flush sink j :=
    let (answer, sinks) := SinkHost.flush sink j.sinks
    (answer, ⟨sinks, j.calls ++ [.flush sink]⟩)
  close sink j :=
    let (answer, sinks) := SinkHost.close sink j.sinks
    (answer, ⟨sinks, j.calls ++ [.close sink]⟩)

namespace System

/-- The same system with a journal that is still empty. -/
def observed (s : System W) : System (Journal W) := ⟨s.engine, ⟨s.sinks, []⟩, s.diagnostics⟩

def unobserved (s : System (Journal W)) : System W := ⟨s.engine, s.sinks.sinks, s.diagnostics⟩

end System

variable [SinkHost W]

/-! ## A journal changes nothing -/

namespace Router

theorem answers_journal (level : Level) (line : ByteArray) (sinks : List SinkId) (j : Journal W) :
    answers level line sinks j = answers level line sinks j.sinks := by
  induction sinks generalizing j with
  | nil => rfl
  | cons sink r ih =>
    rw [answers, answers]
    dsimp only
    rw [ih]
    rfl

theorem deliverAll_journal (level : Level) (line : ByteArray) (sinks : List SinkId)
    (j : Journal W) :
    (deliverAll level line sinks j).2.sinks = (deliverAll level line sinks j.sinks).2 := by
  induction sinks generalizing j with
  | nil => rfl
  | cons sink r ih =>
    rw [deliverAll, deliverAll, deliver_eq, deliver_eq]
    dsimp only
    rw [ih]
    rfl

omit [SinkHost W] in
/-- Acts that a journal passes on lead to the same, with the journal and without it. -/
theorem firstError_journal {α : Type} {act : α → W → Except LogError Unit × W}
    {noted : α → Journal W → Except LogError Unit × Journal W}
    (h : ∀ a j, act a j.sinks = ((noted a j).1, (noted a j).2.sinks)) (items : List α)
    (j : Journal W) :
    firstError act items j.sinks =
      ((firstError noted items j).1, (firstError noted items j).2.sinks) := by
  induction items generalizing j with
  | nil => rfl
  | cons a rest ih =>
    rw [firstError, firstError, h]
    rcases noted a j with ⟨error | _, k⟩
    · dsimp only
      rw [ih]
    · exact ih k

theorem flush_journal (r : Router) (j : Journal W) :
    r.flush j.sinks = ((r.flush j).1, (r.flush j).2.sinks) :=
  firstError_journal (fun _ _ => rfl) r.allSinks j

end Router

namespace System

variable (env : Environment) (id : NodeId)

theorem attempt_unobserved (call : Call) (s : System (Journal W)) :
    s.unobserved.attempt env id call =
      ((s.attempt env id call).1, (s.attempt env id call).2.unobserved) := by
  have hLine : Attempt.line? ⟨env, id, call, s.unobserved⟩ = Attempt.line? ⟨env, id, call, s⟩ :=
    rfl
  have hFailures : Attempt.failures ⟨env, id, call, s.unobserved⟩ =
      Attempt.failures ⟨env, id, call, s⟩ := by
    rw [Attempt.failures, Attempt.failures, hLine]
    cases Attempt.line? ⟨env, id, call, s⟩ with
    | none => rfl
    | some line =>
      exact congrArg (List.filterMap _) (Router.answers_journal _ _ _ s.sinks).symm
  have hSinks : Attempt.sinksAfter ⟨env, id, call, s.unobserved⟩ =
      (Attempt.sinksAfter ⟨env, id, call, s⟩).sinks := by
    rw [Attempt.sinksAfter, Attempt.sinksAfter, hLine]
    cases Attempt.line? ⟨env, id, call, s⟩ with
    | none => rfl
    | some line => exact (Router.deliverAll_journal _ _ _ s.sinks).symm
  rw [Attempt.attempt_eq, Attempt.attempt_eq, Attempt.outcome, Attempt.after, hFailures, hSinks]
  rfl

theorem transparent_unobserved :
    Transparent env id (unobserved : System (Journal W) → System W) where
  attempt := attempt_unobserved env id
  count _ := rfl
  diagnose _ _ := rfl

theorem escalate_unobserved (escalation : Escalation) (s : System (Journal W)) :
    s.unobserved.escalate escalation =
      ((s.escalate escalation).1, (s.escalate escalation).2.unobserved) := by
  have hSuppresses : s.unobserved.engine.suppressesEscalation =
    s.engine.suppressesEscalation := rfl
  unfold escalate
  rw [hSuppresses]
  split
  · rfl
  · cases escalation with
    | panic message => rfl
    | exit code =>
      have hFlush : s.unobserved.engine.router.router.flush s.unobserved.sinks = _ :=
        s.engine.router.router.flush_journal s.sinks
      dsimp only
      rw [hFlush]
      rcases s.engine.router.router.flush s.sinks with ⟨_ | _, sinks⟩ <;> rfl

theorem log_unobserved (call : Call) (s : System (Journal W)) :
    s.unobserved.log env id call =
      ((s.log env id call).1, (s.log env id call).2.unobserved) := by
  rw [log, log, emit_eq, emit_eq, (transparent_unobserved env id).write]
  rcases s.write env id call with ⟨fault | _, t⟩
  · rfl
  · dsimp only [Except.map]
    cases Escalation.ofLevel call.level call.message with
    | none => rfl
    | some escalation => exact escalate_unobserved escalation t

end System

/-! ## What a journal shows -/

namespace Router

/-- The writes of a line to the sinks of a list, with what these answer. -/
def writes (level : Level) (line : ByteArray) (sinks : List SinkId) (w : W) : List SinkCall :=
  (sinks.zip (answers level line sinks w)).map fun (sink, _, answer) => .write sink line answer

theorem deliverAll_calls (level : Level) (line : ByteArray) (sinks : List SinkId)
    (j : Journal W) :
    (deliverAll level line sinks j).2.calls = j.calls ++ writes level line sinks j := by
  induction sinks generalizing j with
  | nil => exact (List.append_nil _).symm
  | cons sink r ih =>
    rw [deliverAll, deliver_eq, writes, answers]
    dsimp only
    rw [ih, List.zip_cons_cons, List.map_cons]
    exact List.append_assoc _ [_] _

omit [SinkHost W] in
/-- Acts that are one call each are all noted, whatever they answer. -/
theorem firstError_calls {act : SinkId → Journal W → Except LogError Unit × Journal W}
    {call : SinkId → SinkCall} (h : ∀ sink j, (act sink j).2.calls = j.calls ++ [call sink])
    (sinks : List SinkId) (j : Journal W) :
    (firstError act sinks j).2.calls = j.calls ++ sinks.map call := by
  induction sinks generalizing j with
  | nil => exact (List.append_nil _).symm
  | cons sink r ih =>
    rw [firstError, List.map_cons, List.append_cons, ← h]
    rcases act sink j with ⟨_ | _, k⟩ <;> exact ih k

theorem firstError_flush_calls (sinks : List SinkId) (j : Journal W) :
    (firstError SinkHost.flush sinks j).2.calls = j.calls ++ sinks.map .flush :=
  firstError_calls (fun _ _ => rfl) sinks j

end Router

/-- The writes of the line of a record. -/
def Attempt.writes (a : Attempt W) : List SinkCall :=
  match a.line? with
  | some line => Router.writes a.call.level line a.listed a.system.sinks
  | none => []

theorem Attempt.after_calls (a : Attempt (Journal W)) :
    a.after.sinks.calls = a.system.sinks.calls ++ a.writes := by
  change a.sinksAfter.calls = _
  rw [sinksAfter, writes]
  cases a.line? with
  | none => exact (List.append_nil _).symm
  | some line => exact Router.deliverAll_calls _ _ _ _

theorem Attempt.of_mem_writes {a : Attempt W} {c : SinkCall} (h : c ∈ a.writes) :
    ∃ sink line answer, c = .write sink line answer ∧ a.line? = some line ∧ sink ∈ a.listed := by
  rw [writes] at h
  cases hLine : a.line? with
  | none =>
    rw [hLine] at h
    cases h
  | some line =>
    rw [hLine] at h
    obtain ⟨⟨sink, name, answer⟩, hMem, rfl⟩ := List.mem_map.mp h
    exact ⟨sink, line, answer, rfl, rfl, (List.of_mem_zip hMem).1⟩

/-- A call and its reports write their lines, one record after the other. -/
theorem Runs.calls {env : Environment} {id : NodeId} {task : Task} {s t : System (Journal W)}
    {as : List (Attempt (Journal W))} {x : Except Buffer.Fault Unit}
    (h : Runs env id task s as x t) :
    t.sinks.calls = s.sinks.calls ++ as.flatMap (·.writes) := by
  induction h with
  | @broken call s t fault tried =>
    obtain ⟨-, rfl⟩ := Attempt.of_attempt tried
    rw [Attempt.after_calls, List.flatMap_singleton]
  | @written call failures s t u as x tried _ ih =>
    obtain ⟨-, rfl⟩ := Attempt.of_attempt tried
    rw [ih, Attempt.after_calls, List.flatMap_cons, List.append_assoc]
  | done => exact (List.append_nil _).symm
  | lost _ _ ih => exact ih
  | told _ _ _ ihReport ihRest =>
    rw [ihRest, ihReport, List.flatMap_append, List.append_assoc]
    rfl
  | stuck _ _ ih => exact ih

end Logline
