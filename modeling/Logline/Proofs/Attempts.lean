import Logline.Engine.System

/-! # One record

A record on its way takes a canvas out of the pool and puts it back, tells the counters and offers
its line to the sinks. What comes of it is a function of the system that it finds, part by part: the
line, the sinks that it is for, the writes that failed and what the counters gain.
-/

namespace Logline

/-- The reports of failed writes of a call, each with its own instant. -/
def Call.reports (call : Call) (failures : List SinkFailure) : List Call :=
  failures.mapIdx fun n failure => failure.report (call.later n)

theorem Call.reports_cons (call : Call) (failure : SinkFailure) (r : List SinkFailure) :
    call.reports (failure :: r) = failure.report (call.later 0) :: call.reported.reports r :=
  List.mapIdx_cons

theorem Call.length_reports (call : Call) (failures : List SinkFailure) :
    (call.reports failures).length = failures.length := List.length_mapIdx

namespace Router

variable {W : Type} [SinkHost W]

/-- What the sinks of a list answer to a line, each under its name. -/
def answers (level : Level) (line : ByteArray) :
    List SinkId → W → List (String × Except LogError Nat)
  | [], _ => []
  | sink :: r, w =>
    let (answer, w) := SinkHost.write sink line (SinkHost.setLevel sink level w)
    (SinkHost.name w sink, answer) :: answers level line r w

/-- A write of so many bytes failed if the sink says so, or took fewer. -/
def failure? (size : Nat) : String × Except LogError Nat → Option SinkFailure
  | (name, .ok n) => if n < size then some ⟨name, shortWrite n size⟩ else none
  | (name, .error error) => some ⟨name, error⟩

theorem deliver_eq (level : Level) (line : ByteArray) (sink : SinkId) (w : W) :
    deliver level line sink w =
      let (answer, t) := SinkHost.write sink line (SinkHost.setLevel sink level w)
      (failure? line.size (SinkHost.name t sink, answer), t) := by
  rw [deliver]
  rcases SinkHost.write sink line (SinkHost.setLevel sink level w) with ⟨error | n, t⟩
  · rfl
  · simp only [failure?]
    split <;> rfl

theorem deliverAll_fst (level : Level) (line : ByteArray) (sinks : List SinkId) (w : W) :
    (deliverAll level line sinks w).1 =
      (answers level line sinks w).filterMap (failure? line.size) := by
  induction sinks generalizing w with
  | nil => rfl
  | cons sink r ih =>
    rw [deliverAll, deliver_eq, answers, List.filterMap_cons]
    rcases SinkHost.write sink line (SinkHost.setLevel sink level w) with ⟨answer, t⟩
    dsimp only
    rw [ih]
    cases failure? line.size (SinkHost.name t sink, answer) <;> rfl

end Router

/-- What is added to the counters of an engine. -/
@[ext]
structure Tally where
  lines : Nat := 0
  bytes : Nat := 0
  failures : Nat := 0
  suppressed : Nat := 0
  filtered : Nat := 0
  lookups : Nat := 0
  deriving DecidableEq, Repr

namespace Tally

def add (t u : Tally) : Tally where
  lines := t.lines + u.lines
  bytes := t.bytes + u.bytes
  failures := t.failures + u.failures
  suppressed := t.suppressed + u.suppressed
  filtered := t.filtered + u.filtered
  lookups := t.lookups + u.lookups

instance : Add Tally := ⟨add⟩

theorem add_eq (t u : Tally) : t + u = t.add u := rfl

end Tally

/-- Counters wrap around at their width. -/
def Metrics.plus (m : Metrics) (t : Tally) : Metrics where
  linesRendered := m.linesRendered + .ofNat t.lines
  bytesRendered := m.bytesRendered + .ofNat t.bytes
  writeFailures := m.writeFailures + .ofNat t.failures
  escalationsSuppressed := m.escalationsSuppressed + .ofNat t.suppressed
  filtered := m.filtered + .ofNat t.filtered
  callerLookups := m.callerLookups + .ofNat t.lookups

theorem Metrics.plus_add (m : Metrics) (t u : Tally) : m.plus (t + u) = (m.plus t).plus u := by
  simp only [plus, Tally.add_eq, Tally.add, UInt64.ofNat_add, UInt64.add_assoc]

theorem Metrics.plus_zero (m : Metrics) : m.plus {} = m := by
  simp [plus]

theorem Metrics.recordRendered_eq (m : Metrics) (bytes : Nat) :
    m.recordRendered bytes = m.plus { lines := 1, bytes } := by
  simp [plus, recordRendered]

theorem Metrics.recordFiltered_eq (m : Metrics) : m.recordFiltered = m.plus { filtered := 1 } := by
  simp [plus, recordFiltered]

theorem Metrics.recordSuppressed_eq (m : Metrics) :
    m.recordSuppressed = m.plus { suppressed := 1 } := by
  simp [plus, recordSuppressed]

theorem System.countWriteFailure_metrics {W : Type} (s : System W) :
    s.countWriteFailure.engine.metrics = s.engine.metrics.plus { failures := 1 } := by
  simp [System.countWriteFailure, Engine.countWriteFailure, Metrics.plus,
    Metrics.recordWriteFailure]

/-- An engine without its canvases and its counters, which are all that a call changes. -/
def Engine.bare (e : Engine) : Engine := { e with pool := .new 0, metrics := {} }

theorem Engine.enabled_bare (e : Engine) (env : Environment) (id : NodeId) (level : Level) :
    e.bare.enabled env id level = e.enabled env id level := rfl

theorem Engine.suppressesEscalation_bare (e : Engine) :
    e.bare.suppressesEscalation = e.suppressesEscalation := rfl

/-- A record on its way: a call of a logger, and the system that it finds. -/
structure Attempt (W : Type) where
  environment : Environment
  node : NodeId
  call : Call
  system : System W

namespace Attempt

variable {W : Type}

/-- Whether the record passes the threshold of its logger. -/
def passes (a : Attempt W) : Bool := a.system.engine.enabled a.environment a.node a.call.level

/-- The canvas after the record was painted on it, unless its line has no end. -/
def painted (a : Attempt W) : Canvas.Result :=
  a.system.engine.paint a.environment a.node a.call a.system.engine.pool.checkout.1

/-- The line of a record that passes. -/
def line? (a : Attempt W) : Option ByteArray :=
  if a.passes then a.painted.toOption.map (·.buffer.bytes) else none

/-- The sinks that the line is for, in the order of the writes. -/
def listed (a : Attempt W) : List SinkId :=
  (a.system.engine.routerOf a.node).router.sinksFor a.environment.registry a.call.level

/-- Whether the stack was searched for the caller. -/
def searches (a : Attempt W) : Bool :=
  a.passes && a.call.walksStack (a.system.engine.config a.node)

def tally (a : Attempt W) : Tally where
  lines := if a.line?.isSome then 1 else 0
  bytes := (a.line?.map (·.size)).getD 0
  filtered := if a.passes then 0 else 1
  lookups := if a.searches then 1 else 0

/-- The pool that the canvas came back to, with a line or in the middle of one. -/
def pool (a : Attempt W) : CanvasPool :=
  if a.passes then
    a.system.engine.pool.checkout.2.release (match a.painted with
      | .ok canvas => canvas
      | .error fault => .ofBuffer fault.buffer)
  else a.system.engine.pool

theorem line?_broken {a : Attempt W} {fault : Buffer.Fault} (h : a.painted = .error fault) :
    a.line? = none := by
  simp [line?, h, Except.toOption]

theorem line?_written {a : Attempt W} {canvas : Canvas} (h : a.passes)
    (hPainted : a.painted = .ok canvas) : a.line? = some canvas.buffer.bytes := by
  simp [line?, h, hPainted, Except.toOption]

/-- The system with a canvas out of the pool and the search for the caller counted. -/
def prepared (a : Attempt W) : System W :=
  { a.system with engine := { a.system.engine with
      pool := a.system.engine.pool.checkout.2
      metrics := a.system.engine.metrics.plus
        { lookups := if a.call.walksStack (a.system.engine.config a.node) then 1 else 0 } } }

theorem prepare_eq (a : Attempt W) :
    a.system.prepare a.node a.call = (a.system.engine.pool.checkout.1, a.prepared) := by
  rw [System.prepare, prepared]
  cases a.call.walksStack (a.system.engine.config a.node) <;>
    simp [Metrics.plus, Metrics.recordCallerLookup]

/-- Taking a canvas and counting the search change nothing that a line shows. -/
theorem paint_prepared (a : Attempt W) :
    a.prepared.engine.paint a.environment a.node a.call a.system.engine.pool.checkout.1 =
      a.painted := rfl

variable [SinkHost W]

/-- The writes of the line that failed, in their order. -/
def failures (a : Attempt W) : List SinkFailure :=
  match a.line? with
  | some line => (Router.answers a.call.level line a.listed a.system.sinks).filterMap
      (Router.failure? line.size)
  | none => []

def outcome (a : Attempt W) : Except Buffer.Fault (List SinkFailure) :=
  if a.passes then a.painted.map fun _ => a.failures else .ok []

/-- The calls that the record leads to: a report of each failure, unless it is a warning itself. -/
def owed (a : Attempt W) : List Call :=
  if a.call.level = .warn then [] else a.call.reports a.failures

/-- The sinks after the line was offered to those that it is for. -/
def sinksAfter (a : Attempt W) : W :=
  match a.line? with
  | some line => (Router.deliverAll a.call.level line a.listed a.system.sinks).2
  | none => a.system.sinks

def after (a : Attempt W) : System W where
  engine := { a.system.engine with
    pool := a.pool, metrics := a.system.engine.metrics.plus a.tally }
  sinks := a.sinksAfter
  diagnostics := a.system.diagnostics

theorem attempt_filtered {a : Attempt W} (h : a.passes = false) :
    (a.outcome, a.after) = (.ok [], a.system.countFiltered) := by
  have hTally : a.tally = { filtered := 1 } := by simp [tally, line?, searches, h]
  rw [outcome, after, hTally, ← Metrics.recordFiltered_eq, pool, sinksAfter, line?, h]
  rfl

theorem attempt_broken {a : Attempt W} {fault : Buffer.Fault} (h : a.passes)
    (hPainted : a.painted = .error fault) :
    (a.outcome, a.after) = (.error fault, a.prepared.release (.ofBuffer fault.buffer)) := by
  have hTally : a.tally =
      { lookups := if a.call.walksStack (a.system.engine.config a.node) then 1 else 0 } := by
    simp [tally, searches, line?_broken hPainted, h]
  rw [outcome, after, hTally, pool, sinksAfter, line?_broken hPainted, h, hPainted]
  rfl

theorem attempt_written {a : Attempt W} {canvas : Canvas} (h : a.passes)
    (hPainted : a.painted = .ok canvas) :
    (a.outcome, a.after) =
      (.ok (a.prepared.send a.environment a.node a.call.level canvas).1,
        (a.prepared.send a.environment a.node a.call.level canvas).2) := by
  have hLine := line?_written h hPainted
  have hTally : a.tally =
      { lookups := if a.call.walksStack (a.system.engine.config a.node) then 1 else 0 } +
        { lines := 1, bytes := canvas.buffer.bytes.size } := by
    simp [tally, searches, hLine, h, Tally.add_eq, Tally.add]
  rw [outcome, after, hTally, Metrics.plus_add, ← Metrics.recordRendered_eq, pool, sinksAfter,
    failures, hLine, h, hPainted]
  dsimp only
  rw [← Router.deliverAll_fst]
  rfl

theorem system_attempt (a : Attempt W) :
    a.system.attempt a.environment a.node a.call = (a.outcome, a.after) := by
  rw [System.attempt]
  cases hPass : a.passes with
  | false => rw [if_neg (by simpa [passes] using hPass), attempt_filtered hPass]
  | true =>
    rw [if_pos (by simpa [passes] using hPass), prepare_eq]
    dsimp only
    rw [paint_prepared]
    cases hPainted : a.painted with
    | ok canvas => rw [attempt_written hPass hPainted]
    | error fault => rw [attempt_broken hPass hPainted]

/-- The system of a record is the one before with the counters told of it, the canvas back in the
pool and the sinks offered the line. -/
theorem attempt_eq (env : Environment) (id : NodeId) (call : Call) (s : System W) :
    s.attempt env id call = (outcome ⟨env, id, call, s⟩, after ⟨env, id, call, s⟩) :=
  system_attempt ⟨env, id, call, s⟩

theorem of_attempt {env : Environment} {id : NodeId} {call : Call} {s t : System W}
    {x : Except Buffer.Fault (List SinkFailure)} (h : s.attempt env id call = (x, t)) :
    outcome ⟨env, id, call, s⟩ = x ∧ after ⟨env, id, call, s⟩ = t :=
  Prod.mk.inj ((attempt_eq env id call s).symm.trans h)

theorem complete_of_ok {a : Attempt W} {failures : List SinkFailure}
    (h : a.outcome = .ok failures) : (a.passes → a.line?.isSome) ∧ a.failures = failures := by
  cases hPass : a.passes with
  | false =>
    rw [outcome, hPass] at h
    cases h
    exact ⟨nofun, by rw [Attempt.failures, line?, hPass]; rfl⟩
  | true =>
    cases hPainted : a.painted with
    | ok canvas =>
      rw [outcome, hPass, hPainted] at h
      cases h
      exact ⟨fun _ => by rw [line?_written hPass hPainted]; rfl, rfl⟩
    | error fault =>
      rw [outcome, hPass, hPainted] at h
      cases h

theorem broken_of_error {a : Attempt W} {fault : Buffer.Fault} (h : a.outcome = .error fault) :
    a.passes ∧ a.line? = none := by
  cases hPass : a.passes with
  | false =>
    rw [outcome, hPass] at h
    cases h
  | true =>
    cases hPainted : a.painted with
    | ok canvas =>
      rw [outcome, hPass, hPainted] at h
      cases h
    | error fault => exact ⟨rfl, line?_broken hPainted⟩

end Attempt

end Logline
