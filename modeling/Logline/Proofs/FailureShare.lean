import Logline.Proofs.Accounting
import Logline.Proofs.Isolation
import Logline.Proofs.Rounding

/-! # The share of failures

The counter of failures counts writes, and a line that several sinks refuse counts once for each of
them. So the rate is a share of the lines only as long as no line fails at more than one sink; the
number of lines that fail at all never gets larger than the number of lines.
-/

namespace Logline

variable {W : Type} [SinkHost W]

namespace Attempt

/-- The writes of some records that failed. -/
def failed (as : List (Attempt W)) : Nat := (as.map (·.failures.length)).sum

/-- The records whose lines failed at some sink. -/
def hit (as : List (Attempt W)) : Nat := as.countP (!·.failures.isEmpty)

/-- Whether each record that passes has a line. -/
def Complete (as : List (Attempt W)) : Prop := ∀ a ∈ as, a.passes → a.line?.isSome

theorem failures_unwritten {a : Attempt W} (h : a.line? = none) : a.failures = [] := by
  rw [failures, h]

theorem length_answers (level : Level) (line : ByteArray) (sinks : List SinkId) (w : W) :
    (Router.answers level line sinks w).length = sinks.length := by
  induction sinks generalizing w with
  | nil => rfl
  | cons sink r ih =>
    rw [Router.answers]
    exact congrArg Nat.succ (ih _)

theorem length_failures_le (a : Attempt W) : a.failures.length ≤ a.listed.length := by
  rw [failures]
  split
  · rw [← length_answers a.call.level _ a.listed a.system.sinks]
    exact List.length_filterMap_le ..
  · exact Nat.zero_le _

theorem hit_le_lines (as : List (Attempt W)) : hit as ≤ (as.filterMap (·.line?)).length := by
  induction as with
  | nil => exact Nat.le_refl 0
  | cons a r ih =>
    rw [hit, List.countP_cons, List.filterMap_cons]
    cases hLine : a.line? with
    | none =>
      rw [failures_unwritten hLine]
      exact ih
    | some line =>
      refine Nat.add_le_add ih ?_
      split <;> decide

theorem failed_cons (a : Attempt W) (as : List (Attempt W)) :
    failed (a :: as) = a.failures.length + failed as := rfl

theorem failed_append (as bs : List (Attempt W)) : failed (as ++ bs) = failed as + failed bs := by
  rw [failed, List.map_append, List.sum_append]
  rfl

theorem hit_cons (a : Attempt W) (as : List (Attempt W)) :
    hit (a :: as) = hit as + if a.failures = [] then 0 else 1 := by
  rw [hit, List.countP_cons]
  cases a.failures <;> rfl

theorem hit_le_failed (as : List (Attempt W)) : hit as ≤ failed as := by
  induction as with
  | nil => exact Nat.le_refl 0
  | cons a r ih =>
    rw [hit_cons, failed_cons]
    cases a.failures with
    | nil => simpa using ih
    | cons failure rest =>
      simp only [reduceCtorEq, if_false, List.length_cons]
      omega

/-- The failed writes are as many as the lines that fail just when no line fails twice. -/
theorem failed_eq_hit_iff (as : List (Attempt W)) :
    failed as = hit as ↔ ∀ a ∈ as, a.failures.length ≤ 1 := by
  induction as with
  | nil => simp [failed, hit]
  | cons a r ih =>
    have hRest := hit_le_failed r
    rw [List.forall_mem_cons, ← ih, hit_cons, failed_cons]
    cases a.failures with
    | nil => simp
    | cons failure rest =>
      simp only [reduceCtorEq, if_false, List.length_cons]
      omega

theorem length_owed (a : Attempt W) :
    a.owed.length = if a.call.level = .warn then 0 else a.failures.length := by
  rw [owed]
  split
  · rfl
  · exact a.call.length_reports _

end Attempt

/-! ## One call -/

namespace System

/-- The failures that a call counts are failed writes of its records, and all of them if each of
the records that pass has a line. -/
theorem account_failures (env : Environment) (id : NodeId) (call : Call) (s : System W) :
    let as := s.attempts env id call
    let counted := (Attempt.account as + { failures := (Task.write call).counted as }).failures
    counted ≤ Attempt.failed as ∧ (Attempt.Complete as → counted = Attempt.failed as) := by
  intro as counted
  have hRun := Runs.of_write env id call s
  have hCounted : counted = as.tail.length + (as.tail.map (·.failures.length)).sum +
      if call.level = .warn then (Attempt.failures ⟨env, id, call, s⟩).length else 0 :=
    congrArg Tally.failures (account_attempts env id call s)
  have hFailed : Attempt.failed as =
      (Attempt.failures ⟨env, id, call, s⟩).length + (as.tail.map (·.failures.length)).sum := by
    have hHead : as = ⟨env, id, call, s⟩ :: as.tail := hRun.head_eq
    rw [hHead, Attempt.failed_cons]
    rfl
  obtain ⟨hSome, hAll⟩ := s.attempts_calls env id call
  have hOwed : (Attempt.owed ⟨env, id, call, s⟩).length =
      if call.level = .warn then 0 else (Attempt.failures ⟨env, id, call, s⟩).length :=
    Attempt.length_owed _
  have hTail : as.tail.length ≤ (Attempt.owed ⟨env, id, call, s⟩).length ∧
      (Attempt.Complete as → as.tail.length = (Attempt.owed ⟨env, id, call, s⟩).length) := by
    constructor
    · simpa only [List.length_map] using hSome.length_le
    · intro hComplete
      simpa only [List.length_map] using congrArg List.length (hAll (hRun.ok_iff.mpr hComplete))
  rw [hCounted, hFailed]
  rw [hOwed] at hTail
  obtain ⟨hMost, hEvery⟩ := hTail
  -- A warning has no reports and counts its failures itself; any other record leaves that to them.
  by_cases hWarn : call.level = .warn
  · simp only [if_pos hWarn] at hMost hEvery ⊢
    constructor
    · omega
    · intro _
      omega
  · simp only [if_neg hWarn] at hMost hEvery ⊢
    constructor
    · omega
    · intro hComplete
      have hTail := hEvery hComplete
      omega

end System

/-! ## Runs -/

/-- What is done with a system, in view of its counters. -/
inductive MeterAction (W : Type) where
  | log (environment : Environment) (id : NodeId) (call : Call)
  | emit (environment : Environment) (id : NodeId) (call : Call)
  | reset
  /-- Anything else that is done leaves the counters alone. -/
  | other (f : System W → System W)

namespace MeterAction

def withMetrics (s : System W) (metrics : Metrics) : System W :=
  { s with engine := { s.engine with metrics } }

def perform (s : System W) : MeterAction W → System W
  | log env id call => (s.log env id call).2
  | emit env id call => (s.emit env id call).2
  | reset => withMetrics s {}
  | other f => withMetrics (f s) s.engine.metrics

/-- The records since the last reset, given those before. -/
def records (s : System W) (as : List (Attempt W)) : MeterAction W → List (Attempt W)
  | log env id call | emit env id call => as ++ s.attempts env id call
  | reset => []
  | other _ => as

def performAll (s : System W) : List (MeterAction W) → System W
  | [] => s
  | action :: r => performAll (action.perform s) r

def allRecords (s : System W) (as : List (Attempt W)) : List (MeterAction W) → List (Attempt W)
  | [] => as
  | action :: r => allRecords (action.perform s) (action.records s as) r

end MeterAction

/-- Counters that stand for the lines of some records and for failed writes of these. -/
structure Metrics.Counts (m : Metrics) (as : List (Attempt W)) (n : Nat) : Prop where
  lines : m.linesRendered = .ofNat (as.filterMap (·.line?)).length
  failures : m.writeFailures = .ofNat n
  le : n ≤ Attempt.failed as
  eq : Attempt.Complete as → n = Attempt.failed as

namespace Metrics.Counts

variable {m : Metrics} {as : List (Attempt W)} {n : Nat}

theorem reset : Counts {} ([] : List (Attempt W)) 0 :=
  ⟨rfl, rfl, Nat.le_refl 0, fun _ => rfl⟩

theorem suppressed (h : m.Counts as n) (k : Nat) :
    (m.plus { suppressed := k }).Counts as n := by
  refine ⟨?_, ?_, h.le, h.eq⟩
  · simp [plus, h.lines]
  · simp [plus, h.failures]

theorem write {s : System W} (h : s.engine.metrics.Counts as n) (env : Environment)
    (id : NodeId) (call : Call) :
    ∃ more, (s.write env id call).2.engine.metrics.Counts (as ++ s.attempts env id call) more := by
  obtain ⟨hLe, hEq⟩ := s.account_failures env id call
  refine ⟨n + (Attempt.account (s.attempts env id call) +
    { failures := (Task.write call).counted (s.attempts env id call) }).failures, ?_, ?_, ?_, ?_⟩
  · rw [(Runs.of_write env id call s).metrics_eq, List.filterMap_append, List.length_append,
      UInt64.ofNat_add, ← h.lines]
    rfl
  · rw [(Runs.of_write env id call s).metrics_eq, UInt64.ofNat_add, ← h.failures]
    rfl
  · rw [Attempt.failed_append]
    exact Nat.add_le_add h.le hLe
  · intro hComplete
    obtain ⟨hBefore, hCall⟩ := List.forall_mem_append.mp hComplete
    rw [Attempt.failed_append, h.eq hBefore, hEq hCall]

theorem perform {s : System W} (h : s.engine.metrics.Counts as n) (action : MeterAction W) :
    ∃ more, (action.perform s).engine.metrics.Counts (action.records s as) more := by
  cases action with
  | log env id call =>
    obtain ⟨more, hMore⟩ := h.write env id call
    refine ⟨more, ?_⟩
    have hLog : (MeterAction.perform s (.log env id call)).engine.metrics = _ :=
      s.log_metrics env id call
    rw [hLog]
    exact hMore.suppressed _
  | emit env id call =>
    obtain ⟨more, hMore⟩ := h.write env id call
    refine ⟨more, ?_⟩
    rw [MeterAction.perform, System.emit_eq]
    exact hMore
  | reset => exact ⟨0, reset⟩
  | other f => exact ⟨n, h⟩

theorem performAll {s : System W} (h : s.engine.metrics.Counts as n)
    (actions : List (MeterAction W)) :
    ∃ more, (MeterAction.performAll s actions).engine.metrics.Counts
      (MeterAction.allRecords s as actions) more := by
  induction actions generalizing s as n with
  | nil => exact ⟨n, h⟩
  | cons action r ih =>
    obtain ⟨more, hMore⟩ := h.perform action
    exact ih hMore

end Metrics.Counts

/-- As long as no more writes failed than lines were rendered, the rate is a share in percent. -/
theorem Metrics.within_failureRate {m : Metrics} (h : m.writeFailures ≤ m.linesRendered) :
    m.failureRate.Within 100 := by
  rw [failureRate]
  split
  · exact Binary64.within_hundred Nat.one_pos (by norm_num)
  · next hLines =>
    have hPos : 0 < m.linesRendered.toNat := by
      apply Nat.pos_of_ne_zero
      intro hZero
      exact hLines (UInt64.toNat_inj.mp hZero)
    exact Binary64.within_mul_hundred
      (Binary64.within_div hPos (UInt64.le_iff_toNat_le.mp h) m.linesRendered.toNat_lt)

namespace System

/-- What the counters of an engine say about the records since their last reset. Lines count once
and failures once for each sink, so the rate is a share of the lines if none fails at two sinks. -/
theorem performAll_share (env : Environment) (o : EngineOptions) (sinks : W)
    (actions : List (MeterAction W)) :
    let start : System W := ofBuild env o sinks
    let m := (MeterAction.performAll start actions).engine.metrics
    let as := MeterAction.allRecords start [] actions
    let lines := (as.filterMap (·.line?)).length
    -- The lines that hit a failing sink are a share of the lines.
    Attempt.hit as ≤ lines ∧
    m.linesRendered = .ofNat lines ∧
    ∃ failures, m.writeFailures = .ofNat failures ∧
      -- What is counted for them is every failed write, up to one for each sink of a line.
      failures ≤ Attempt.failed as ∧
      (∀ a ∈ as, a.failures.length ≤ a.listed.length) ∧
      (Attempt.Complete as → failures = Attempt.failed as ∧
        (failures = Attempt.hit as ↔ ∀ a ∈ as, a.failures.length ≤ 1)) ∧
      ((∀ a ∈ as, a.failures.length ≤ 1) → lines < 2 ^ 64 →
        m.writeFailures ≤ m.linesRendered ∧ m.failureRate.Within 100) := by
  intro start m as lines
  obtain ⟨failures, hCounts⟩ := Metrics.Counts.performAll (s := start) .reset actions
  have hLines : Attempt.hit as ≤ lines := Attempt.hit_le_lines as
  refine ⟨hLines, hCounts.lines, failures, hCounts.failures, hCounts.le, ?_, ?_, ?_⟩
  · exact fun a _ => a.length_failures_le
  · intro hComplete
    refine ⟨hCounts.eq hComplete, ?_⟩
    rw [hCounts.eq hComplete]
    exact Attempt.failed_eq_hit_iff as
  · intro hOnce hBound
    have hFailures : failures ≤ lines := by
      refine hCounts.le.trans ?_
      rw [(Attempt.failed_eq_hit_iff as).mpr hOnce]
      exact hLines
    have hOrder : m.writeFailures ≤ m.linesRendered := by
      rw [UInt64.le_iff_toNat_le, hCounts.failures, hCounts.lines, UInt64.toNat_ofNat',
        UInt64.toNat_ofNat', Nat.mod_eq_of_lt (hFailures.trans_lt hBound), Nat.mod_eq_of_lt hBound]
      exact hFailures
    exact ⟨hOrder, Metrics.within_failureRate hOrder⟩

/-- A warning that two sinks refuse is one line and two failures, and the rate is two hundred. -/
theorem performAll_share_twice :
    let env : Environment := { (default : Environment) with registry := .new }
    let refusing : MemorySink := { (default : MemorySink) with failing := true }
    let store : SinkStore := { SinkStore.new with sinks := [.memory refusing, .memory refusing] }
    let start : System SinkStore := ofBuild env { sinks := [⟨0⟩, ⟨1⟩] } store
    let m := (MeterAction.performAll start
      [.log env .root { level := .warn, message := "m" }]).engine.metrics
    m.linesRendered = 1 ∧ m.writeFailures = 2 ∧ m.failureRate = .ofNat 200 := by
  decide +kernel

end System

end Logline
