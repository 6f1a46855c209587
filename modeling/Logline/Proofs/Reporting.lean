import Logline.Proofs.Attempts

/-! # Records and their reports

A call attempts a record, and then, for each sink that failed, a report that is itself a record.
Written down as it is meant, with every report written the way any record is, this recursion comes
to its end for all sinks, since reports have the one level whose failures are not reported.
-/

namespace Logline

namespace System

variable {W : Type} [SinkHost W]

/-- The reports of failures of a call, each with the system that it finds. After one without a
line there are no more. -/
def reports (env : Environment) (id : NodeId) (call : Call) :
    List SinkFailure → System W → List (Attempt W)
  | [], _ => []
  | failure :: r, s =>
    let a : Attempt W := ⟨env, id, failure.report (call.later 0), s.countWriteFailure⟩
    a :: match a.outcome with
      | .ok lost => reports env id call.reported r (a.after.noteLost lost)
      | .error _ => []

/-- The records of a call: the one that it asks for, and the reports. -/
def attempts (env : Environment) (id : NodeId) (call : Call) (s : System W) : List (Attempt W) :=
  let a : Attempt W := ⟨env, id, call, s⟩
  a :: match a.outcome with
    | .ok failures =>
      if call.level = .warn then [] else reports env id call failures a.after
    | .error _ => []

theorem reports_calls (env : Environment) (id : NodeId) (call : Call)
    (failures : List SinkFailure) (s : System W) :
    (s.reports env id call failures).map (·.call) <+: call.reports failures ∧
      ((reportAll env id call failures s).1 = .ok () →
        (s.reports env id call failures).map (·.call) = call.reports failures) := by
  induction failures generalizing call s with
  | nil => exact ⟨List.prefix_rfl, fun _ => rfl⟩
  | cons failure r ih =>
    have hTried := Attempt.attempt_eq env id (failure.report (call.later 0)) s.countWriteFailure
    rw [reports, reportAll, hTried, List.map_cons, Call.reports_cons]
    cases Attempt.outcome ⟨env, id, failure.report (call.later 0), s.countWriteFailure⟩ with
    | ok lost =>
      obtain ⟨hPrefix, hAll⟩ := ih call.reported ((Attempt.after
        ⟨env, id, failure.report (call.later 0), s.countWriteFailure⟩).noteLost lost)
      exact ⟨(List.prefix_cons_inj _).mpr hPrefix, fun h => congrArg _ (hAll h)⟩
    | error fault => exact ⟨(List.prefix_cons_inj _).mpr List.nil_prefix, nofun⟩

/-- The reports of a call are those that its record leads to, in order, and all of them unless one
has no line. -/
theorem attempts_calls (env : Environment) (id : NodeId) (call : Call) (s : System W) :
    (s.attempts env id call).tail.map (·.call) <+: Attempt.owed ⟨env, id, call, s⟩ ∧
      ((s.write env id call).1 = .ok () →
        (s.attempts env id call).tail.map (·.call) = Attempt.owed ⟨env, id, call, s⟩) := by
  have hTried := Attempt.attempt_eq env id call s
  rw [attempts, write, hTried, Attempt.owed]
  cases hOutcome : Attempt.outcome ⟨env, id, call, s⟩ with
  | ok failures =>
    rw [(Attempt.complete_of_ok hOutcome).2]
    dsimp only [List.tail_cons]
    split
    · exact ⟨List.prefix_rfl, fun _ => rfl⟩
    · exact reports_calls env id call failures _
  | error fault => exact ⟨List.nil_prefix, nofun⟩

end System

/-! ## The recursion as it is meant -/

inductive Task where
  | write (call : Call)
  /-- The failures of a call, still to be reported. -/
  | report (call : Call) (failures : List SinkFailure)

section

variable {W : Type} [SinkHost W]

/-- What a task comes to, with all records that are attempted on the way. A report is written as
any other record is, and what its own failures lead to is left to the same rules. -/
inductive Runs (env : Environment) (id : NodeId) :
    Task → System W → List (Attempt W) → Except Buffer.Fault Unit → System W → Prop
  | broken {call : Call} {s t : System W} {fault : Buffer.Fault}
      (tried : s.attempt env id call = (.error fault, t)) :
      Runs env id (.write call) s [⟨env, id, call, s⟩] (.error fault) t
  | written {call : Call} {failures : List SinkFailure} {s t u : System W}
      {as : List (Attempt W)} {x : Except Buffer.Fault Unit}
      (tried : s.attempt env id call = (.ok failures, t))
      (told : Runs env id (.report call failures) t as x u) :
      Runs env id (.write call) s (⟨env, id, call, s⟩ :: as) x u
  | done {call : Call} {s : System W} : Runs env id (.report call []) s [] (.ok ()) s
  | lost {call : Call} {failure : SinkFailure} {r : List SinkFailure} {s t : System W}
      {as : List (Attempt W)} {x : Except Buffer.Fault Unit} (warning : call.level = .warn)
      (rest : Runs env id (.report call.reported r)
        (s.countWriteFailure.diagnose (.lostWarning failure)) as x t) :
      Runs env id (.report call (failure :: r)) s as x t
  | told {call : Call} {failure : SinkFailure} {r : List SinkFailure} {s t u : System W}
      {as bs : List (Attempt W)} {x : Except Buffer.Fault Unit} (other : call.level ≠ .warn)
      (report : Runs env id (.write (failure.report (call.later 0))) s.countWriteFailure as
        (.ok ()) t)
      (rest : Runs env id (.report call.reported r) t bs x u) :
      Runs env id (.report call (failure :: r)) s (as ++ bs) x u
  | stuck {call : Call} {failure : SinkFailure} {r : List SinkFailure} {s t : System W}
      {as : List (Attempt W)} {fault : Buffer.Fault} (other : call.level ≠ .warn)
      (report : Runs env id (.write (failure.report (call.later 0))) s.countWriteFailure as
        (.error fault) t) :
      Runs env id (.report call (failure :: r)) s as (.error fault) t

namespace Runs

variable {env : Environment} {id : NodeId} {call : Call}

theorem unique {task : Task} {s t u : System W} {as bs : List (Attempt W)}
    {x y : Except Buffer.Fault Unit} (h : Runs env id task s as x t)
    (h' : Runs env id task s bs y u) : as = bs ∧ x = y ∧ t = u := by
  -- What the record comes to and its level leave one rule for the second run as well.
  induction h generalizing bs y u with
  | broken tried =>
    cases h' with
    | broken tried' =>
      cases tried.symm.trans tried'
      exact ⟨rfl, rfl, rfl⟩
    | written tried' => cases tried.symm.trans tried'
  | written tried _ ih =>
    cases h' with
    | broken tried' => cases tried.symm.trans tried'
    | written tried' told' =>
      cases tried.symm.trans tried'
      obtain ⟨rfl, rfl, rfl⟩ := ih told'
      exact ⟨rfl, rfl, rfl⟩
  | done =>
    cases h' with
    | done => exact ⟨rfl, rfl, rfl⟩
  | lost warning _ ih =>
    cases h' with
    | lost _ rest' => exact ih rest'
    | told other' => exact absurd warning other'
    | stuck other' => exact absurd warning other'
  | told other _ _ ihReport ihRest =>
    cases h' with
    | lost warning' => exact absurd warning' other
    | told _ report' rest' =>
      obtain ⟨rfl, -, rfl⟩ := ihReport report'
      obtain ⟨rfl, rfl, rfl⟩ := ihRest rest'
      exact ⟨rfl, rfl, rfl⟩
    | stuck _ report' => cases (ihReport report').2.1
  | stuck other _ ih =>
    cases h' with
    | lost warning' => exact absurd warning' other
    | told _ report' => cases (ih report').2.1
    | stuck _ report' => exact ih report'

theorem of_lost (h : call.level = .warn) (failures : List SinkFailure) (s : System W) :
    Runs env id (.report call failures) s [] (.ok ()) (s.noteLost failures) := by
  induction failures generalizing call s with
  | nil => exact .done
  | cons failure r ih =>
    have hReported : call.reported.level = .warn := h
    exact .lost h (ih hReported _)

/-- A warning is one record and no more. -/
theorem of_warning (h : call.level = .warn) (s : System W) :
    Runs env id (.write call) s [⟨env, id, call, s⟩]
      (s.write env id call).1 (s.write env id call).2 := by
  rw [System.write]
  rcases hTried : s.attempt env id call with ⟨fault | failures, t⟩
  · exact .broken hTried
  · dsimp only
    rw [if_pos h]
    exact .written hTried (of_lost h failures t)

theorem of_reports (h : call.level ≠ .warn) (failures : List SinkFailure) (s : System W) :
    Runs env id (.report call failures) s (s.reports env id call failures)
      (System.reportAll env id call failures s).1 (System.reportAll env id call failures s).2 := by
  induction failures generalizing call s with
  | nil => exact .done
  | cons failure r ih =>
    -- The report is a warning, so its run is known without another induction.
    have hReport : Runs env id (.write (failure.report (call.later 0))) s.countWriteFailure _ _ _ :=
      of_warning rfl s.countWriteFailure
    have hReported : call.reported.level ≠ .warn := h
    have hTried := Attempt.attempt_eq env id (failure.report (call.later 0)) s.countWriteFailure
    rw [System.write, hTried] at hReport
    rw [System.reports, System.reportAll, hTried]
    cases hOutcome :
        Attempt.outcome ⟨env, id, failure.report (call.later 0), s.countWriteFailure⟩ with
    | ok lost =>
      rw [hOutcome] at hReport
      exact .told h hReport (ih hReported _)
    | error fault =>
      rw [hOutcome] at hReport
      exact .stuck h hReport

theorem of_write (env : Environment) (id : NodeId) (call : Call) (s : System W) :
    Runs env id (.write call) s (s.attempts env id call)
      (s.write env id call).1 (s.write env id call).2 := by
  have hTried := Attempt.attempt_eq env id call s
  rw [System.attempts, System.write, hTried]
  cases hOutcome : Attempt.outcome ⟨env, id, call, s⟩ with
  | error fault => exact .broken (hTried.trans (by rw [hOutcome]))
  | ok failures =>
    rw [hOutcome] at hTried
    dsimp only
    split
    · next h => exact .written hTried (of_lost h failures _)
    · next h => exact .written hTried (of_reports h failures _)

/-- The recursion comes to its end in one way, which is the one that the system takes. -/
theorem write_iff {s t : System W} {as : List (Attempt W)} {x : Except Buffer.Fault Unit} :
    Runs env id (.write call) s as x t ↔
      as = s.attempts env id call ∧ (x, t) = s.write env id call := by
  constructor
  · intro h
    obtain ⟨hAttempts, rfl, rfl⟩ := h.unique (of_write env id call s)
    exact ⟨hAttempts, rfl⟩
  · rintro ⟨rfl, h⟩
    have hRun := of_write env id call s
    rw [← h] at hRun
    exact hRun

theorem head_eq {s t : System W} {as : List (Attempt W)} {x : Except Buffer.Fault Unit}
    (h : Runs env id (.write call) s as x t) : as = ⟨env, id, call, s⟩ :: as.tail := by
  cases h <;> rfl

/-- All records of a call are records of its logger, under the settings that it finds. -/
theorem bare_eq {task : Task} {s t : System W} {as : List (Attempt W)}
    {x : Except Buffer.Fault Unit} (h : Runs env id task s as x t) :
    t.engine.bare = s.engine.bare ∧ ∀ a ∈ as,
      a.environment = env ∧ a.node = id ∧ a.system.engine.bare = s.engine.bare := by
  induction h with
  | broken tried =>
    obtain ⟨-, rfl⟩ := Attempt.of_attempt tried
    refine ⟨rfl, fun a h => ?_⟩
    cases List.mem_singleton.mp h
    exact ⟨rfl, rfl, rfl⟩
  | written tried _ ih =>
    obtain ⟨-, rfl⟩ := Attempt.of_attempt tried
    refine ⟨ih.1, fun a h => ?_⟩
    obtain rfl | h := List.mem_cons.mp h
    · exact ⟨rfl, rfl, rfl⟩
    · exact ih.2 a h
  | done => exact ⟨rfl, fun a h => nomatch h⟩
  | lost _ _ ih => exact ih
  | told _ _ _ ihReport ihRest =>
    refine ⟨ihRest.1.trans ihReport.1, fun a h => ?_⟩
    obtain h | h := List.mem_append.mp h
    · exact ihReport.2 a h
    · obtain ⟨hEnv, hNode, hBare⟩ := ihRest.2 a h
      exact ⟨hEnv, hNode, hBare.trans ihReport.1⟩
  | stuck _ _ ih => exact ih

/-- A call fails only by a record that passes and has no line. -/
theorem ok_iff {task : Task} {s t : System W} {as : List (Attempt W)}
    {x : Except Buffer.Fault Unit} (h : Runs env id task s as x t) :
    x = .ok () ↔ ∀ a ∈ as, a.passes → a.line?.isSome := by
  induction h with
  | broken tried =>
    obtain ⟨hPass, hLine⟩ := Attempt.broken_of_error (Attempt.of_attempt tried).1
    simp [hPass, hLine]
  | written tried _ ih =>
    have hLine := (Attempt.complete_of_ok (Attempt.of_attempt tried).1).1
    rw [ih, List.forall_mem_cons]
    exact (and_iff_right hLine).symm
  | done => simp
  | lost _ _ ih => exact ih
  | told _ _ _ ihReport ihRest =>
    rw [ihRest, List.forall_mem_append]
    exact (and_iff_right (ihReport.mp rfl)).symm
  | stuck _ _ ih => exact ih

end Runs

end

end Logline
