import Logline.Proofs.Escalating
import Logline.Proofs.Resolution

/-! # Failed writes that are told

A sink that fails is named in a warning, which is a record like any other: it is filtered, rendered
and routed as the logger does with its records. A sink that fails on a warning is named on the
standard error. Where a logger takes no warnings, the failure of a sink is only counted.
-/

namespace Logline

/-- The last attributes of a row keep their values. -/
theorem Attr.mem_resolve_append (as : List Attr) {bs : List Attr} {a : Attr}
    (h : bs.reverse.find? (·.key == a.key) = some a) : a ∈ Attr.resolve (as ++ bs) := by
  have hMem : a ∈ bs := List.mem_reverse.mp (List.mem_of_find?_eq_some h)
  refine List.mem_filterMap.mpr ⟨a.key, ?_, ?_⟩
  · exact List.mem_eraseDups.mpr (List.mem_map_of_mem (List.mem_append_right as hMem))
  · rw [List.reverse_append, List.find?_append, h]
    rfl

variable {W : Type}

namespace Attempt

/-- The attributes that the line of a record shows. -/
def attrs (a : Attempt W) : List Attr :=
  (a.system.engine.load a.environment a.node a.call a.system.engine.pool.checkout.1).table.attrs

/-- A report names the sink and its error, whatever attributes its logger has. -/
theorem attrs_report {a : Attempt W} {failure : SinkFailure} {time : Instant}
    (h : a.call = failure.report time) :
    ⟨"sink", .string failure.sink⟩ ∈ a.attrs ∧
      ⟨"error", .string failure.error.message⟩ ∈ a.attrs := by
  rw [attrs, Engine.load_table_attrs, h]
  constructor
  · apply Attr.mem_resolve_append
    rfl
  · apply Attr.mem_resolve_append
    rfl

theorem line?_filtered {a : Attempt W} (h : a.passes = false) : a.line? = none := by
  rw [line?, h]
  rfl

variable [SinkHost W]

/-- What a record leaves of the sinks: its line, if it has one, is handed to the router. -/
def offer (w : W) (a : Attempt W) : W :=
  match a.line? with
  | some line => ((a.system.engine.routerOf a.node).router.route a.environment.registry
      a.call.level line w).2
  | none => w

theorem after_sinks (a : Attempt W) : a.after.sinks = offer a.system.sinks a := by
  change a.sinksAfter = _
  rw [sinksAfter, offer]
  cases a.line? <;> rfl

theorem foldl_offer_filtered {as : List (Attempt W)} (h : ∀ a ∈ as, a.passes = false) (w : W) :
    as.foldl offer w = w := by
  induction as with
  | nil => rfl
  | cons a r ih =>
    obtain ⟨hFirst, hRest⟩ := List.forall_mem_cons.mp h
    have hOffer : offer w a = w := by
      rw [offer, line?_filtered hFirst]
    rw [List.foldl_cons, hOffer]
    exact ih hRest

/-- What is printed of the failed writes of a record: all of them, if it is a warning. -/
def printed (a : Attempt W) : List Diagnostic :=
  if a.call.level = .warn then a.failures.map .lostWarning else []

theorem printed_broken {a : Attempt W} (h : a.line? = none) : a.printed = [] := by
  rw [printed, failures, h]
  exact ite_self _

end Attempt

/-- What a task prints of failures that it begins with. -/
def Task.prints : Task → List Diagnostic
  | write _ => []
  | report call failures => if call.level = .warn then failures.map .lostWarning else []

variable [SinkHost W]

namespace Runs

variable {env : Environment} {id : NodeId} {task : Task} {s t : System W}
  {as : List (Attempt W)} {x : Except Buffer.Fault Unit}

/-- The lines of a run are handed to the router one after the other, and nothing else is done to
the sinks. -/
theorem sinks_eq (h : Runs env id task s as x t) :
    t.sinks = as.foldl Attempt.offer s.sinks := by
  induction h with
  | @broken call s t fault tried =>
    obtain ⟨-, rfl⟩ := Attempt.of_attempt tried
    exact Attempt.after_sinks _
  | @written call failures s t u as x tried _ ih =>
    obtain ⟨-, rfl⟩ := Attempt.of_attempt tried
    rw [ih, Attempt.after_sinks]
    rfl
  | done => rfl
  | lost _ _ ih => exact ih
  | told _ _ _ ihReport ihRest =>
    rw [ihRest, ihReport, List.foldl_append]
    rfl
  | stuck _ _ ih => exact ih

theorem diagnostics_eq (h : Runs env id task s as x t) :
    t.diagnostics = s.diagnostics ++ task.prints ++ as.flatMap (·.printed) := by
  -- By the rules of a run. The failures of a warning are printed by the task that its record
  -- leaves, so the record and the task say the same of them.
  induction h with
  | @broken call s t fault tried =>
    obtain ⟨hOutcome, rfl⟩ := Attempt.of_attempt tried
    have hNone := Attempt.printed_broken (Attempt.broken_of_error hOutcome).2
    rw [List.flatMap_singleton, hNone]
    simp [Task.prints, Attempt.after]
  | @written call failures s t u as x tried _ ih =>
    obtain ⟨hOutcome, rfl⟩ := Attempt.of_attempt tried
    have hPrinted : Attempt.printed ⟨env, id, call, s⟩ = (Task.report call failures).prints := by
      rw [Attempt.printed, (Attempt.complete_of_ok hOutcome).2, Task.prints]
    rw [ih, List.flatMap_cons, hPrinted, Task.prints, List.append_nil, List.append_assoc]
    rfl
  | done => simp [Task.prints]
  | @lost call failure r s t as x warning _ ih =>
    rw [ih, Task.prints, Task.prints, Call.level_reported, if_pos warning, if_pos warning,
      List.map_cons]
    simp [System.diagnose, System.countWriteFailure]
  | @told call failure r s t u as bs x other report _ ihReport ihRest =>
    rw [ihRest, ihReport, Task.prints, Task.prints, Task.prints, Call.level_reported, if_neg other,
      if_neg other, List.flatMap_append]
    simp [System.countWriteFailure]
  | @stuck call failure r s t as fault other report ih =>
    rw [ih, Task.prints, Task.prints, if_neg other]
    rfl

/-- A run that breaks breaks with its last record. -/
theorem broken_last (h : Runs env id task s as x t) {fault : Buffer.Fault}
    (hBroken : x = .error fault) :
    ∃ before last, as = before ++ [last] ∧ last.passes ∧ last.line? = none ∧
      ∀ a ∈ before, a.passes → a.line?.isSome := by
  induction h with
  | broken tried =>
    obtain ⟨hPass, hLine⟩ := Attempt.broken_of_error (Attempt.of_attempt tried).1
    exact ⟨[], _, rfl, hPass, hLine, fun _ hMem => nomatch hMem⟩
  | written tried _ ih =>
    obtain ⟨before, last, rfl, hPass, hLine, hBefore⟩ := ih hBroken
    have hFirst := (Attempt.complete_of_ok (Attempt.of_attempt tried).1).1
    exact ⟨_ :: before, last, rfl, hPass, hLine, List.forall_mem_cons.mpr ⟨hFirst, hBefore⟩⟩
  | done => cases hBroken
  | lost _ _ ih => exact ih hBroken
  | told _ report _ _ ihRest =>
    obtain ⟨before, last, rfl, hPass, hLine, hBefore⟩ := ihRest hBroken
    refine ⟨_ ++ before, last, (List.append_assoc _ _ _).symm, hPass, hLine, ?_⟩
    exact List.forall_mem_append.mpr ⟨report.ok_iff.mp rfl, hBefore⟩
  | stuck _ _ ih => exact ih hBroken

end Runs

namespace System

variable {env : Environment} {id : NodeId} {call : Call} {s : System W}

theorem escalate_diagnostics (escalation : Escalation) (s : System W) :
    s.diagnostics <+: (s.escalate escalation).2.diagnostics :=
  escalate_keeps (P := fun t => s.diagnostics <+: t.diagnostics) List.prefix_rfl List.prefix_rfl
    List.prefix_rfl (fun _ _ h => h.trans (List.prefix_append _ _)) escalation

theorem log_diagnostics (env : Environment) (id : NodeId) (call : Call) (s : System W) :
    (s.write env id call).2.diagnostics <+: (s.log env id call).2.diagnostics := by
  cases hWrite : (s.write env id call).1 with
  | error fault =>
    have hLog : (s.log env id call).2 = (s.write env id call).2 :=
      congrArg Prod.snd (log_of_error hWrite)
    exact hLog ▸ List.prefix_rfl
  | ok done =>
    rw [log_of_ok hWrite]
    cases Escalation.ofLevel call.level call.message with
    | none => exact List.prefix_rfl
    | some escalation => exact escalate_diagnostics escalation _

/-- Where a logger takes warnings, each failed write is told: that of a warning on the standard
error, and that of another record in a warning which names the sink and its error and is handed to
the router, unless a report without a line ends the call first. Where the logger takes none, the
reports are filtered like other warnings, and the sinks and the standard error show nothing. -/
theorem log_tells_failures (env : Environment) (id : NodeId) (call : Call) (s : System W) :
    let own : Attempt W := ⟨env, id, call, s⟩
    let reports := (s.attempts env id call).tail
    let written := s.write env id call
    s.attempts env id call = own :: reports ∧
    -- Each line is handed to the router, in the order of the records.
    written.2.sinks = (own :: reports).foldl Attempt.offer s.sinks ∧
    -- What failed of a warning is printed, be it a report or not.
    s.diagnostics ++ (own :: reports).flatMap (·.printed) <+:
      (s.log env id call).2.diagnostics ∧
    (written.1 = .ok () → ∀ a ∈ own :: reports, a.passes → a.line?.isSome) ∧
    (∀ fault, written.1 = .error fault → (s.log env id call).1 = .panicked fault.message ∧
      ∃ before last, own :: reports = before ++ [last] ∧ last.passes ∧ last.line? = none ∧
        ∀ a ∈ before, a.passes → a.line?.isSome) ∧
    (call.level ≠ .warn →
      -- What failed of another record has one report each, as far as the call comes.
      reports.map (·.call) <+: call.reports own.failures ∧
      (written.1 = .ok () → reports.map (·.call) = call.reports own.failures) ∧
      (∀ report ∈ reports, report.passes = s.engine.enabled env id .warn ∧
        ∀ (failure : SinkFailure) time, report.call = failure.report time →
          ⟨"sink", .string failure.sink⟩ ∈ report.attrs ∧
          ⟨"error", .string failure.error.message⟩ ∈ report.attrs) ∧
      (s.engine.enabled env id .warn = false →
        written.2.sinks = own.offer s.sinks ∧ written.2.diagnostics = s.diagnostics)) := by
  intro own reports written
  have hRun := Runs.of_write env id call s
  have hRecords : s.attempts env id call = own :: reports := hRun.head_eq
  have hSinks : written.2.sinks = (own :: reports).foldl Attempt.offer s.sinks := by
    rw [← hRecords]
    exact hRun.sinks_eq
  have hDiagnostics : written.2.diagnostics =
      s.diagnostics ++ (own :: reports).flatMap (·.printed) := by
    rw [← hRecords]
    exact hRun.diagnostics_eq.trans (by rw [Task.prints, List.append_nil])
  refine ⟨hRecords, hSinks, ?_, ?_, ?_, ?_⟩
  · rw [← hDiagnostics]
    exact s.log_diagnostics env id call
  · intro hDone
    rw [← hRecords]
    exact hRun.ok_iff.mp hDone
  · intro fault hFault
    constructor
    · exact congrArg Prod.fst (log_of_error hFault)
    · rw [← hRecords]
      exact hRun.broken_last hFault
  · intro hLevel
    have hOwed : Attempt.owed own = call.reports own.failures := if_neg hLevel
    obtain ⟨hSome, hAll⟩ := s.attempts_calls env id call
    refine ⟨hOwed ▸ hSome, fun hDone => hOwed ▸ hAll hDone, ?_, ?_⟩
    · intro report hReport
      exact ⟨passes_report hReport, fun failure time hCall => Attempt.attrs_report hCall⟩
    · intro hFiltered
      have hNone : ∀ report ∈ reports, report.passes = false :=
        fun report hReport => (passes_report hReport).trans hFiltered
      have hOwnPrinted : own.printed = [] := if_neg hLevel
      have hPrinted : reports.flatMap (·.printed) = [] := List.flatMap_eq_nil_iff.mpr
        fun report hReport => Attempt.printed_broken (Attempt.line?_filtered (hNone report hReport))
      constructor
      · rw [hSinks, List.foldl_cons, Attempt.foldl_offer_filtered hNone]
      · rw [hDiagnostics, List.flatMap_cons, hOwnPrinted, hPrinted]
        exact List.append_nil _

/-- Two failed writes that only the counters know of: one of a logger that takes no warnings, and
one whose report breaks over an attribute of its logger. -/
theorem log_leaves_failure_untold :
    let env : Environment := { (default : Environment) with registry := .new }
    let refusing := (MemorySink.named "bad").setFailing true
    let store : SinkStore := ((SinkStore.new.add (.memory refusing)).2.add (.memory .new)).2
    let router : Router := { errors := [⟨2⟩], overrides := [(.warn, [⟨3⟩])] }
    let call : Call := { level := .error, message := "m", args := [.attr ⟨"k", .string "v"⟩] }
    let strict : System SinkStore := ⟨Engine.build env
      { node := { format := .logfmt, timeLayout := .unix, level := .error },
        router := some router }, store, []⟩
    let broken : System SinkStore := ⟨Engine.build env
      { node := { format := .logfmt, timeLayout := .unix, attrs := [⟨"k", .marshal .boundless⟩] },
        router := some router }, store, []⟩
    let told (s : System SinkStore) : Option String × List Diagnostic :=
      ((s.sinks.memory? ⟨3⟩).map (·.contents), s.diagnostics)
    ((strict.log env .root call).1 = .returned ∧
      told (strict.log env .root call).2 = (some "", []) ∧
      (strict.log env .root call).2.engine.metrics =
        { linesRendered := 1, bytesRendered := 29, writeFailures := 1, filtered := 1 }) ∧
    (broken.log env .root call).1 = .panicked "buffer too large" ∧
      told (broken.log env .root call).2 = (some "", []) ∧
      (broken.log env .root call).2.engine.metrics.writeFailures = 1 := by
  decide +kernel

end System

end Logline
