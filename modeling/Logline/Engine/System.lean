import Logline.Engine.Call

/-! # Logging

An engine and the sinks it writes to form a system. A call that passes its logger's threshold is
rendered once and routed; each sink that fails is reported in a warning of its own, and a failure
of a warning only on the standard error, so that a call always comes to its end. What the level of
the record asks for happens after all of that.
-/

namespace Logline

/-- A line for the standard error of the program. -/
inductive Diagnostic where
  | lostWarning (failure : SinkFailure)
  | unflushed (error : LogError)
  deriving DecidableEq, Repr, Inhabited

def Diagnostic.text : Diagnostic → String
  | lostWarning failure =>
    "[LOGGER WARNING] Sink '" ++ failure.sink ++ "' failed to write a warning: " ++
      failure.error.message
  | unflushed error => "[LOGGER ERROR] Failed to flush before exit: " ++ error.message

inductive Outcome where
  | returned
  | panicked (message : String)
  | exited (code : Int)
  deriving DecidableEq, Repr, Inhabited

/-- The call that reports a failure, with the instant at which it does. -/
def SinkFailure.report (failure : SinkFailure) (time : Instant) : Call where
  level := .warn
  message := "log write failed"
  args := [.attr ⟨"sink", .string failure.sink⟩, .attr ⟨"error", .string failure.error.message⟩]
  time

/-- What is left of a call once a failure is reported. -/
def Call.reported (call : Call) : Call := { call with later := fun n => call.later (n + 1) }

@[simp]
theorem Call.level_reported (call : Call) : call.reported.level = call.level := rfl

/-- An engine, the sinks behind a state of type `W`, and the standard error. -/
structure System (W : Type) where
  engine : Engine
  sinks : W
  /-- Oldest first. -/
  diagnostics : List Diagnostic

namespace System

variable {W : Type} [SinkHost W]

def diagnose (s : System W) (d : Diagnostic) : System W :=
  { s with diagnostics := s.diagnostics ++ [d] }

def countWriteFailure (s : System W) : System W :=
  { s with engine := s.engine.countWriteFailure }

def countFiltered (s : System W) : System W :=
  { s with engine := { s.engine with metrics := s.engine.metrics.recordFiltered } }

/-- Takes a canvas for a call, and counts the search for the caller if there is one. -/
def prepare (id : NodeId) (call : Call) (s : System W) : Canvas × System W :=
  let (canvas, pool) := s.engine.pool.checkout
  let metrics := if call.walksStack (s.engine.config id) then s.engine.metrics.recordCallerLookup
    else s.engine.metrics
  (canvas, { s with engine := { s.engine with pool, metrics } })

def release (s : System W) (canvas : Canvas) : System W :=
  { s with engine := { s.engine with pool := s.engine.pool.release canvas } }

def send (env : Environment) (id : NodeId) (level : Level) (canvas : Canvas) (s : System W) :
    List SinkFailure × System W :=
  let bytes := canvas.buffer.bytes
  let (failures, sinks) := (s.engine.routerOf id).router.route env.registry level bytes s.sinks
  let metrics := s.engine.metrics.recordRendered bytes.size
  (failures, { s with engine := { s.engine with metrics }, sinks }.release canvas)

/-- Filters a call, or renders and routes it. The canvas goes back to the pool in any case. -/
def attempt (env : Environment) (id : NodeId) (call : Call) (s : System W) :
    Except Buffer.Fault (List SinkFailure) × System W :=
  if s.engine.enabled env id call.level then
    let (canvas, s) := s.prepare id call
    match s.engine.paint env id call canvas with
    | .ok canvas =>
      let (failures, s) := s.send env id call.level canvas
      (.ok failures, s)
    | .error fault => (.error fault, s.release (.ofBuffer fault.buffer))
  else (.ok [], s.countFiltered)

def noteLost (failures : List SinkFailure) (s : System W) : System W :=
  failures.foldl (fun s failure => s.countWriteFailure.diagnose (.lostWarning failure)) s

/-- Reports failures of a call, each in a warning. -/
def reportAll (env : Environment) (id : NodeId) (call : Call) :
    List SinkFailure → System W → Except Buffer.Fault Unit × System W
  | [], s => (.ok (), s)
  | failure :: r, s =>
    match s.countWriteFailure.attempt env id (failure.report (call.later 0)) with
    | (.ok lost, s) => reportAll env id call.reported r (s.noteLost lost)
    | (.error fault, s) => (.error fault, s)

def write (env : Environment) (id : NodeId) (call : Call) (s : System W) :
    Except Buffer.Fault Unit × System W :=
  match s.attempt env id call with
  | (.ok failures, s) =>
    if call.level = .warn then (.ok (), s.noteLost failures)
    else reportAll env id call failures s
  | (.error fault, s) => (.error fault, s)

/-- Acts on an escalation, unless the engine is told not to. Before the program exits, the
engine's own router is flushed. -/
def escalate (escalation : Escalation) (s : System W) : Outcome × System W :=
  if s.engine.suppressesEscalation then (.returned, { s with engine := s.engine.countSuppressed })
  else
    match escalation with
    | .panic message => (.panicked message, s)
    | .exit code =>
      match s.engine.router.router.flush s.sinks with
      | (.ok _, sinks) => (.exited code, { s with sinks })
      | (.error error, sinks) => (.exited code, { s with sinks }.diagnose (.unflushed error))

def emit (env : Environment) (id : NodeId) (call : Call) (s : System W) :
    Except Buffer.Fault (Option Escalation) × System W :=
  match s.write env id call with
  | (.ok _, s) => (.ok (Escalation.ofLevel call.level call.message), s)
  | (.error fault, s) => (.error fault, s)

/-- Writes a record and acts on its escalation. A line without end ends in a panic. -/
def log (env : Environment) (id : NodeId) (call : Call) (s : System W) : Outcome × System W :=
  match s.emit env id call with
  | (.ok (some escalation), s) => s.escalate escalation
  | (.ok none, s) => (.returned, s)
  | (.error fault, s) => (.panicked fault.message, s)

/-- Flushes the sinks of a logger and of all loggers below it, router by router. -/
def flush (id : NodeId) (s : System W) : Except LogError Unit × System W :=
  let (answer, sinks) := Router.firstError (fun (bound : BoundRouter) => bound.router.flush)
    (s.engine.reachableRouters id) s.sinks
  (answer, { s with sinks })

end System

end Logline
