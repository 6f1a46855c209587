import Logline.Proofs.Reporting

/-! # Calls as a whole

What the single records of a call keep, the call keeps, and a map of systems that no record notices
is not noticed by the call. After its records a call ends: in the panic of a record without a line,
or with the escalation that it owes.
-/

namespace Logline

variable {W : Type} [SinkHost W]

/-! ## What a call keeps -/

/-- What announcements and writes keep of the sinks is kept by a list of them. -/
theorem Router.deliverAll_keeps {P : W → Prop}
    (hLevel : ∀ sink level w, P w → P (SinkHost.setLevel sink level w))
    (hWrite : ∀ sink line w, P w → P (SinkHost.write sink line w).2) (level : Level)
    (line : ByteArray) (sinks : List SinkId) {w : W} (h : P w) :
    P (deliverAll level line sinks w).2 := by
  induction sinks generalizing w with
  | nil => exact h
  | cons sink r ih =>
    rw [deliverAll, deliver_eq]
    exact ih (hWrite sink line _ (hLevel sink level w h))

theorem Attempt.after_keeps {P : W → Prop}
    (hLevel : ∀ sink level w, P w → P (SinkHost.setLevel sink level w))
    (hWrite : ∀ sink line w, P w → P (SinkHost.write sink line w).2) {a : Attempt W}
    (h : P a.system.sinks) : P a.after.sinks := by
  change P a.sinksAfter
  rw [sinksAfter]
  cases a.line? with
  | none => exact h
  | some line => exact Router.deliverAll_keeps hLevel hWrite _ _ _ h

theorem Runs.keeps {P : W → Prop}
    (hLevel : ∀ sink level w, P w → P (SinkHost.setLevel sink level w))
    (hWrite : ∀ sink line w, P w → P (SinkHost.write sink line w).2) {env : Environment}
    {id : NodeId} {task : Task} {s t : System W} {as : List (Attempt W)}
    {x : Except Buffer.Fault Unit} (h : Runs env id task s as x t) (hSinks : P s.sinks) :
    P t.sinks := by
  induction h with
  | broken tried =>
    obtain ⟨-, rfl⟩ := Attempt.of_attempt tried
    exact Attempt.after_keeps hLevel hWrite hSinks
  | written tried _ ih =>
    obtain ⟨-, rfl⟩ := Attempt.of_attempt tried
    exact ih (Attempt.after_keeps hLevel hWrite hSinks)
  | done => exact hSinks
  | lost _ _ ih => exact ih hSinks
  | told _ _ _ ihReport ihRest => exact ihRest (ihReport hSinks)
  | stuck _ _ ih => exact ih hSinks

namespace System

theorem bare_write (env : Environment) (id : NodeId) (call : Call) (s : System W) :
    (s.write env id call).2.engine.bare = s.engine.bare :=
  (Runs.of_write env id call s).bare_eq.1

theorem suppressesEscalation_write (env : Environment) (id : NodeId) (call : Call)
    (s : System W) :
    (s.write env id call).2.engine.suppressesEscalation = s.engine.suppressesEscalation := by
  rw [← Engine.suppressesEscalation_bare, bare_write, Engine.suppressesEscalation_bare]

/-- An escalation is counted, or the sinks are flushed, or nothing is done. -/
theorem escalate_keeps {P : System W → Prop} {s : System W} (hSame : P s)
    (hCounted : P { s with engine := s.engine.countSuppressed })
    (hFlushed : P { s with sinks := (s.engine.router.router.flush s.sinks).2 })
    (hTold : ∀ t d, P t → P (t.diagnose d)) (escalation : Escalation) :
    P (s.escalate escalation).2 := by
  unfold escalate
  split
  · exact hCounted
  · cases escalation with
    | panic message => exact hSame
    | exit code =>
      dsimp only
      generalize s.engine.router.router.flush s.sinks = answer at hFlushed ⊢
      obtain ⟨error | _, sinks⟩ := answer
      · exact hTold _ _ hFlushed
      · exact hFlushed

theorem bare_escalate (escalation : Escalation) (s : System W) :
    (s.escalate escalation).2.engine.bare = s.engine.bare :=
  escalate_keeps (P := fun t => t.engine.bare = s.engine.bare) rfl rfl rfl (fun _ _ h => h)
    escalation

theorem emit_eq (env : Environment) (id : NodeId) (call : Call) (s : System W) :
    s.emit env id call =
      ((s.write env id call).1.map fun _ => Escalation.ofLevel call.level call.message,
        (s.write env id call).2) := by
  rw [emit]
  rcases s.write env id call with ⟨_ | _, t⟩ <;> rfl

theorem bare_emit (env : Environment) (id : NodeId) (call : Call) (s : System W) :
    (s.emit env id call).2.engine.bare = s.engine.bare := by
  rw [emit_eq, bare_write]

theorem bare_log (env : Environment) (id : NodeId) (call : Call) (s : System W) :
    (s.log env id call).2.engine.bare = s.engine.bare := by
  rw [← bare_emit env id call s, log]
  rcases s.emit env id call with ⟨_ | _ | escalation, t⟩
  · rfl
  · rfl
  · exact t.bare_escalate escalation

/-! ## Two systems -/

/-- A map of systems that records do not notice: what comes of a record is the same, and leaves
the image of what it leaves. -/
structure Transparent {V : Type} [SinkHost V] (env : Environment) (id : NodeId)
    (f : System V → System W) : Prop where
  attempt (call : Call) (s : System V) : (f s).attempt env id call =
    ((s.attempt env id call).1, f (s.attempt env id call).2)
  count (s : System V) : (f s).countWriteFailure = f s.countWriteFailure
  diagnose (s : System V) (d : Diagnostic) : (f s).diagnose d = f (s.diagnose d)

namespace Transparent

variable {V : Type} [SinkHost V] {env : Environment} {id : NodeId} {f : System V → System W}

theorem noteLost (h : Transparent env id f) (failures : List SinkFailure) (s : System V) :
    (f s).noteLost failures = f (s.noteLost failures) := by
  induction failures generalizing s with
  | nil => rfl
  | cons failure r ih =>
    rw [System.noteLost, List.foldl_cons, h.count, h.diagnose]
    exact ih (s.countWriteFailure.diagnose (.lostWarning failure))

theorem reportAll (h : Transparent env id f) (call : Call) (failures : List SinkFailure)
    (s : System V) :
    System.reportAll env id call failures (f s) =
      ((System.reportAll env id call failures s).1,
        f (System.reportAll env id call failures s).2) := by
  induction failures generalizing call s with
  | nil => rfl
  | cons failure r ih =>
    rw [System.reportAll, System.reportAll, h.count, h.attempt]
    rcases s.countWriteFailure.attempt env id (failure.report (call.later 0)) with ⟨fault | lost, t⟩
    · rfl
    · dsimp only
      rw [h.noteLost, ih]

/-- What holds of one record holds of a call with all its reports. -/
theorem write (h : Transparent env id f) (call : Call) (s : System V) :
    (f s).write env id call = ((s.write env id call).1, f (s.write env id call).2) := by
  rw [System.write, System.write, h.attempt]
  rcases s.attempt env id call with ⟨fault | failures, t⟩
  · rfl
  · dsimp only
    split
    · rw [h.noteLost]
    · rw [h.reportAll]

end Transparent

/-! ## The end of a call -/

variable {env : Environment} {id : NodeId} {call : Call} {s : System W}

theorem log_of_error {fault : Buffer.Fault} (h : (s.write env id call).1 = .error fault) :
    s.log env id call = (.panicked fault.message, (s.write env id call).2) := by
  rw [log, emit_eq, h]
  rfl

theorem log_of_ok (h : (s.write env id call).1 = .ok ()) :
    s.log env id call = match Escalation.ofLevel call.level call.message with
      | some escalation => (s.write env id call).2.escalate escalation
      | none => (.returned, (s.write env id call).2) := by
  rw [log, emit_eq, h]
  cases Escalation.ofLevel call.level call.message <;> rfl

end System

end Logline
