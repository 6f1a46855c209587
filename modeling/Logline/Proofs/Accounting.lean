import Logline.Proofs.WholeCalls
import Logline.Sink.Store
import Mathlib.Algebra.GroupWithZero.Nat

/-! # What a call adds to the counters

The counters of an engine account for the records of a call one by one. Each line counts once, with
its length, for whatever number of sinks; a failed write counts when it is reported, or, for a
warning, when it is given up.
-/

namespace Logline

variable {W : Type} [SinkHost W]

namespace Attempt

/-- What records add to the counters, the failures that are reported left out. -/
def account (as : List (Attempt W)) : Tally where
  lines := (as.filterMap (·.line?)).length
  bytes := ((as.filterMap (·.line?)).map (·.size)).sum
  failures := ((as.filter (·.call.level = .warn)).map (·.failures.length)).sum
  filtered := as.countP (!·.passes)
  lookups := as.countP (·.searches)

theorem account_append (as bs : List (Attempt W)) :
    account (as ++ bs) = account as + account bs := by
  ext <;> simp [account, Tally.add_eq, Tally.add]

theorem account_cons (a : Attempt W) (as : List (Attempt W)) :
    account (a :: as) = a.tally +
      { failures := if a.call.level = .warn then a.failures.length else 0 } + account as := by
  have hLines : (a :: as).filterMap (·.line?) = a.line?.toList ++ as.filterMap (·.line?) := by
    rw [List.filterMap_cons]
    cases a.line? <;> rfl
  ext
  case failures =>
    by_cases h : a.call.level = .warn <;> simp [Tally.add_eq, Tally.add, account, tally, h]
  case filtered =>
    cases h : a.passes <;> simp [Tally.add_eq, Tally.add, account, tally, h, Nat.add_comm]
  case lookups =>
    cases h : a.searches <;> simp [Tally.add_eq, Tally.add, account, tally, h, Nat.add_comm]
  case suppressed => rfl
  all_goals
    simp only [Tally.add_eq, Tally.add, account, tally, hLines]
    cases a.line? <;> simp [Nat.add_comm]

end Attempt

theorem Runs.length_pos {env : Environment} {id : NodeId} {call : Call} {s t : System W}
    {as : List (Attempt W)} {x : Except Buffer.Fault Unit}
    (h : Runs env id (.write call) s as x t) : 0 < as.length := by
  rw [h.head_eq]
  exact Nat.succ_pos _

/-- The failures that a task counts, each before its report or instead of one. -/
def Task.counted (as : List (Attempt W)) : Task → Nat
  | write _ => as.tail.length
  | report call failures => as.length + if call.level = .warn then failures.length else 0

theorem Runs.metrics_eq {env : Environment} {id : NodeId} {task : Task} {s t : System W}
    {as : List (Attempt W)} {x : Except Buffer.Fault Unit} (h : Runs env id task s as x t) :
    t.engine.metrics =
      s.engine.metrics.plus (Attempt.account as + { failures := task.counted as }) := by
  -- By the rules of a run. A failure is counted before its report is written, so no account of
  -- records has it, and the task carries the number of those.
  induction h with
  | @broken call s t fault tried =>
    obtain ⟨hOutcome, rfl⟩ := Attempt.of_attempt tried
    have hLine := (Attempt.broken_of_error hOutcome).2
    have hFailures : Attempt.failures ⟨env, id, call, s⟩ = [] := by rw [Attempt.failures, hLine]
    change s.engine.metrics.plus _ = _
    congr 1
    rw [Attempt.account_cons, hFailures]
    ext <;> simp [Tally.add_eq, Tally.add, Attempt.account, Task.counted]
  | @written call failures s t u as x tried _ ih =>
    obtain ⟨hOutcome, rfl⟩ := Attempt.of_attempt tried
    have hFailures := (Attempt.complete_of_ok hOutcome).2
    rw [ih]
    change (s.engine.metrics.plus _).plus _ = _
    rw [← Metrics.plus_add, Attempt.account_cons, hFailures]
    congr 1
    ext <;> simp [Tally.add_eq, Tally.add, Task.counted]
    all_goals omega
  | done =>
    have hNothing {call : Call} : Attempt.account ([] : List (Attempt W)) +
        { failures := (Task.report call []).counted ([] : List (Attempt W)) } = {} := by
      ext <;> simp [Tally.add_eq, Tally.add, Attempt.account, Task.counted]
    rw [hNothing, Metrics.plus_zero]
  | @lost call failure r s t as x warning _ ih =>
    have hCounted : (s.countWriteFailure.diagnose (.lostWarning failure)).engine.metrics =
        s.engine.metrics.plus { failures := 1 } := s.countWriteFailure_metrics
    rw [ih, hCounted, ← Metrics.plus_add]
    congr 1
    ext <;> simp [Tally.add_eq, Tally.add, Task.counted, warning]
    omega
  | @told call failure r s t u as bs x other report _ ihReport ihRest =>
    have hPos : 0 < as.length := report.length_pos
    rw [ihRest, ihReport, s.countWriteFailure_metrics, ← Metrics.plus_add, ← Metrics.plus_add,
      Attempt.account_append]
    congr 1
    ext <;> simp [Tally.add_eq, Tally.add, Task.counted, other]
    all_goals omega
  | @stuck call failure r s t as fault other report ih =>
    have hPos : 0 < as.length := report.length_pos
    rw [ih, s.countWriteFailure_metrics, ← Metrics.plus_add]
    congr 1
    ext <;> simp [Tally.add_eq, Tally.add, Task.counted, other]
    omega

namespace System

/-- Whether a call asks for an escalation that the engine only counts. -/
def suppresses (s : System W) (call : Call) : Bool :=
  (Escalation.ofLevel call.level call.message).isSome && s.engine.suppressesEscalation

theorem escalate_metrics (escalation : Escalation) (s : System W) :
    (s.escalate escalation).2.engine.metrics = s.engine.metrics.plus
      { suppressed := if s.engine.suppressesEscalation then 1 else 0 } := by
  unfold escalate
  split
  · exact Metrics.recordSuppressed_eq _
  · cases escalation with
    | panic message => exact (Metrics.plus_zero _).symm
    | exit code =>
      rcases s.engine.router.router.flush s.sinks with ⟨_ | _, sinks⟩ <;>
        exact (Metrics.plus_zero _).symm

/-- What `log` adds after the record and its reports are written. -/
theorem log_metrics (env : Environment) (id : NodeId) (call : Call) (s : System W) :
    (s.log env id call).2.engine.metrics = (s.write env id call).2.engine.metrics.plus
      { suppressed := if (s.write env id call).1.isOk && s.suppresses call then 1 else 0 } := by
  cases hWrite : (s.write env id call).1 with
  | error fault =>
    rw [log_of_error hWrite]
    exact (Metrics.plus_zero _).symm
  | ok done =>
    rw [log_of_ok hWrite, suppresses]
    cases Escalation.ofLevel call.level call.message with
    | none => exact (Metrics.plus_zero _).symm
    | some escalation =>
      rw [← suppressesEscalation_write env id call s]
      exact (s.write env id call).2.escalate_metrics escalation

theorem write_filtered {env : Environment} {id : NodeId} {call : Call} {s : System W}
    (h : s.engine.enabled env id call.level = false) :
    s.attempts env id call = [⟨env, id, call, s⟩] ∧
      s.write env id call = (.ok (), s.countFiltered) := by
  have hTried : s.attempt env id call = (.ok [], s.countFiltered) :=
    (Attempt.attempt_eq env id call s).trans (Attempt.attempt_filtered h)
  rw [attempts, (Attempt.of_attempt hTried).1, write, hTried]
  constructor <;> dsimp only <;> split <;> rfl

/-- Reports are warnings from no place in the program. -/
theorem of_mem_reports {env : Environment} {id : NodeId} {call : Call} {s : System W}
    {a : Attempt W} (h : a ∈ (s.attempts env id call).tail) :
    a.call.level = .warn ∧ a.call.site = none := by
  have hOwed := (s.attempts_calls env id call).1.subset (List.mem_map_of_mem h)
  rw [Attempt.owed] at hOwed
  split at hOwed
  · cases hOwed
  · obtain ⟨n, _, hCall⟩ := List.mem_mapIdx.mp hOwed
    rw [← hCall]
    exact ⟨rfl, rfl⟩

/-- The threshold of the logger decides on its reports as on other warnings. -/
theorem passes_report {env : Environment} {id : NodeId} {call : Call} {s : System W}
    {a : Attempt W} (h : a ∈ (s.attempts env id call).tail) :
    a.passes = s.engine.enabled env id .warn := by
  obtain ⟨hEnv, hNode, hBare⟩ :=
    (Runs.of_write env id call s).bare_eq.2 a (List.mem_of_mem_tail h)
  rw [Attempt.passes, hEnv, hNode, (of_mem_reports h).1, ← Engine.enabled_bare, hBare,
    Engine.enabled_bare]

/-- The account of a call by its record and the reports. -/
theorem account_attempts (env : Environment) (id : NodeId) (call : Call) (s : System W) :
    Attempt.account (s.attempts env id call) +
        { failures := (Task.write call).counted (s.attempts env id call) } =
      { lines := ((s.attempts env id call).filterMap (·.line?)).length
        bytes := (((s.attempts env id call).filterMap (·.line?)).map (·.size)).sum
        failures := (s.attempts env id call).tail.length +
          ((s.attempts env id call).tail.map (·.failures.length)).sum +
          if call.level = .warn then (Attempt.failures ⟨env, id, call, s⟩).length else 0
        filtered := (s.attempts env id call).countP (!·.passes)
        lookups := if Attempt.searches ⟨env, id, call, s⟩ then 1 else 0 } := by
  have hReports : ∀ a ∈ (s.attempts env id call).tail, _ := fun a h => of_mem_reports h
  rw [(Runs.of_write env id call s).head_eq] at hReports ⊢
  generalize (s.attempts env id call).tail = reports at hReports ⊢
  dsimp only [List.tail_cons] at hReports ⊢
  ext
  case lines => rfl
  case bytes => rfl
  case suppressed => rfl
  case filtered => rfl
  case failures =>
    have hWarn : reports.filter (·.call.level = .warn) = reports :=
      List.filter_eq_self.mpr fun a h => decide_eq_true (hReports a h).1
    by_cases h : call.level = .warn <;>
      simp [Tally.add_eq, Tally.add, Attempt.account, Task.counted, hWarn, h] <;>
      omega
  case lookups =>
    have hNone : reports.countP (·.searches) = 0 := by
      refine List.countP_eq_zero.mpr fun a h => ?_
      simp [Attempt.searches, Call.walksStack, (hReports a h).2]
    simp [Tally.add_eq, Tally.add, Attempt.account, List.countP_cons, hNone]

/-- The counters after a call are those before it, with its records, its failed writes and its
escalation counted, and with nothing else. -/
theorem log_accounts (env : Environment) (id : NodeId) (call : Call) (s : System W) :
    -- The recursion of records and reports has one end, and the system comes to it.
    (∀ as x t, Runs env id (.write call) s as x t ↔
      as = s.attempts env id call ∧ (x, t) = s.write env id call) ∧
    -- A record that is filtered is counted, and nothing else happens.
    (s.engine.enabled env id call.level = false →
      s.attempts env id call = [⟨env, id, call, s⟩] ∧
        s.write env id call = (.ok (), s.countFiltered)) ∧
    -- After the record there are its reports, in the order of the failures, and none of theirs.
    (∃ reports, s.attempts env id call = ⟨env, id, call, s⟩ :: reports ∧
      reports.map (·.call) <+: Attempt.owed ⟨env, id, call, s⟩ ∧
      ((s.write env id call).1 = .ok () →
        reports.map (·.call) = Attempt.owed ⟨env, id, call, s⟩) ∧
      (∀ a ∈ reports, a.passes = s.engine.enabled env id .warn) ∧
      -- Only a record that passes and has no line ends the call, in a panic.
      ((s.write env id call).1 = .ok () ↔ ∀ a ∈ s.attempts env id call, a.passes → a.line?.isSome) ∧
      (∀ fault, (s.write env id call).1 = .error fault →
        (s.log env id call).1 = .panicked fault.message) ∧
      -- Each line counts once, each failure counts once.
      (s.log env id call).2.engine.metrics = s.engine.metrics.plus
        { lines := ((s.attempts env id call).filterMap (·.line?)).length
          bytes := (((s.attempts env id call).filterMap (·.line?)).map (·.size)).sum
          failures := reports.length + (reports.map (·.failures.length)).sum +
            if call.level = .warn then (Attempt.failures ⟨env, id, call, s⟩).length else 0
          filtered := (s.attempts env id call).countP (!·.passes)
          lookups := if Attempt.searches ⟨env, id, call, s⟩ then 1 else 0
          suppressed := if (s.write env id call).1.isOk && s.suppresses call then 1 else 0 }) := by
  have hRun := Runs.of_write env id call s
  refine ⟨fun as x t => Runs.write_iff, fun hFiltered => ?_, (s.attempts env id call).tail,
    hRun.head_eq, (s.attempts_calls env id call).1, (s.attempts_calls env id call).2, ?_,
    hRun.ok_iff, ?_, ?_⟩
  · exact write_filtered hFiltered
  · exact fun a h => passes_report h
  · exact fun fault h => congrArg Prod.fst (log_of_error h)
  · rw [log_metrics, hRun.metrics_eq, account_attempts, ← Metrics.plus_add, Tally.add_eq,
      Tally.add]
    simp

end System

/-- A value that asks for more room than a line may take. -/
def Marshal.boundless : Marshal where
  id := 0
  write _ b := (b.grow Buffer.maxSize).map (·, none)
  debug := "Boundless"

/-- A record that is filtered may still count as an escalation, and one that passes may count as
nothing at all: its line came to no end, and the call ended in a panic. -/
theorem System.log_counts_otherwise :
    let env : Environment := { (default : Environment) with registry := .new }
    let silent : System SinkStore :=
      ⟨Engine.build env { node := { level := .off }, testing := true }, .new, []⟩
    let flat : System SinkStore := ⟨Engine.build env { node := { format := .logfmt } }, .new, []⟩
    let endless : Call :=
      { level := .error, message := "m", args := [.attr ⟨"k", .marshal .boundless⟩] }
    (silent.engine.enabled env .root .panic = false ∧
      (silent.log env .root { level := .panic, message := "m" }).2.engine.metrics =
        { filtered := 1, escalationsSuppressed := 1 }) ∧
    flat.engine.enabled env .root endless.level = true ∧
      (flat.log env .root endless).2.engine.metrics = {} := by
  decide +kernel

end Logline
