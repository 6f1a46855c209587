import Logline.Engine.System

/-! # Applications

An application has engines over common sinks and one default logger. The first engine has the
settings that nothing was said about; its root is the default logger until another one takes the
place.
-/

namespace Logline

structure Logger where
  engine : Nat
  node : NodeId
  deriving DecidableEq, Repr, Inhabited

structure Application (W : Type) where
  environment : Environment
  engines : List Engine
  defaultLogger : Logger
  sinks : W
  diagnostics : List Diagnostic

namespace Application

variable {W : Type}

def start (env : Environment) (sinks : W) : Application W :=
  ⟨env, [Engine.build env {}], ⟨0, .root⟩, sinks, []⟩

def addEngine (p : Application W) (e : Engine) : Nat × Application W :=
  (p.engines.length, { p with engines := p.engines ++ [e] })

/-- An engine by its number; the first one stands in for one that is not there. -/
def engine (p : Application W) (index : Nat) : Engine :=
  p.engines.getD index (Engine.build p.environment {})

def putEngine (p : Application W) (index : Nat) (e : Engine) : Application W :=
  { p with engines := p.engines.set index e }

def run {α : Type} (p : Application W) (index : Nat) (act : System W → α × System W) :
    α × Application W :=
  let (answer, s) := act ⟨p.engine index, p.sinks, p.diagnostics⟩
  (answer, { p.putEngine index s.engine with sinks := s.sinks, diagnostics := s.diagnostics })

def modify {α : Type} (p : Application W) (index : Nat) (act : Engine → α × Engine) :
    α × Application W :=
  let (answer, e) := act (p.engine index)
  (answer, p.putEngine index e)

/-- Replaces the default logger and answers with the one before. -/
def setDefault (p : Application W) (logger : Logger) : Logger × Application W :=
  (p.defaultLogger, { p with defaultLogger := logger })

def nodeOf (p : Application W) (logger : Logger) : Node := (p.engine logger.engine).node logger.node

variable [SinkHost W]

def log (p : Application W) (logger : Logger) (call : Call) : Outcome × Application W :=
  p.run logger.engine fun s => s.log p.environment logger.node call

def emit (p : Application W) (logger : Logger) (call : Call) :
    Except Buffer.Fault (Option Escalation) × Application W :=
  p.run logger.engine fun s => s.emit p.environment logger.node call

def flush (p : Application W) (logger : Logger) : Except LogError Unit × Application W :=
  p.run logger.engine fun s => s.flush logger.node

def escalate (p : Application W) (index : Nat) (escalation : Escalation) :
    Outcome × Application W :=
  p.run index fun s => s.escalate escalation

end Application

end Logline
