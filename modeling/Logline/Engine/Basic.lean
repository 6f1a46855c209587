import Logline.Environment
import Logline.Engine.Config
import Logline.Escalation
import Logline.Logger.Hierarchy
import Logline.Logger.Naming
import Logline.Metrics
import Logline.Render.Pool

/-! # Engines

An engine owns a hierarchy of loggers and what they share: the router of the loggers without one
of their own, the canvases, the redactor, the counters and the switches. A logger's configuration
is its parent's at its creation, its options, and the changes made to it since.
-/

namespace Logline

structure Engine where
  hierarchy : Hierarchy
  router : BoundRouter
  redactor : Redactor
  pool : CanvasPool
  metrics : Metrics
  nameWidth : Nat
  /-- Whether lines show the attributes of the loggers above. -/
  collectRecursive : Bool
  noInterrupt : Bool
  testing : Bool
  strictLock : Bool
  nextRouter : Nat
  /-- The number of the next name that is made up. -/
  nextName : Nat
  deriving Inhabited

structure EngineOptions where
  name : String := ""
  node : NodeConfig := {}
  router : Option Router := none
  sinks : List SinkId := []
  redactor : Option Redactor := none
  collectRecursive : Bool := false
  noInterrupt : Bool := false
  testing : Bool := false
  strictLock : Bool := false
  poolSize : Nat := CanvasPool.defaultSize
  deriving Inhabited

namespace EngineOptions

/-- The router of a new engine: as set, or over the sinks, or over the consoles. -/
def chosenRouter (o : EngineOptions) : Router :=
  match o.router with
  | some router => router
  | none =>
    if o.sinks.isEmpty then (Router.empty.addNormal .stdout).addError .stderr
    else .single o.sinks

/-- The redactor of a configuration, unless a pattern cannot be read. -/
def configuredRedactor (env : Environment) (config : EngineConfig) : Except LogError Redactor :=
  config.redactRules.foldlM (fun r rule => r.withRule rule.pattern rule.replacement)
    (if config.redactEnvironment then env.redactor else .empty)

def ofConfig (env : Environment) (config : EngineConfig) : Except LogError EngineOptions := do
  config.validate env.registry
  let redactor ← configuredRedactor env config
  return {
    name := config.name
    node := {
      format := config.format
      color := config.color
      utc := config.utc
      timeLayout := config.timeLayout
      level := config.level
      caller := config.caller }
    redactor := some redactor
    collectRecursive := config.collectRecursive
    noInterrupt := config.noInterrupt
    testing := config.testing
    strictLock := config.strictLock
    poolSize := config.poolSize }

end EngineOptions

namespace Engine

def enforceStrict (strictLock : Bool) (router : Router) : Router :=
  if strictLock then router.withStrict true else router

def build (env : Environment) (o : EngineOptions) : Engine where
  hierarchy := .ofRoot o.name o.node
  router := ⟨0, enforceStrict o.strictLock o.chosenRouter⟩
  redactor := o.redactor.getD env.redactor
  pool := .new o.poolSize
  metrics := {}
  nameWidth := o.name.length
  collectRecursive := o.collectRecursive
  noInterrupt := o.noInterrupt
  testing := o.testing
  strictLock := o.strictLock
  nextRouter := 1
  nextName := 0

/-- An engine for whose pool there is room. -/
def build? (env : Environment) (o : EngineOptions) : Except CanvasPool.Fault Engine :=
  (CanvasPool.new? o.poolSize).map fun pool => { build env o with pool }

/-- An engine with the settings of a configuration that is valid. -/
def ofConfig (env : Environment) (config : EngineConfig) :
    Except LogError (Except CanvasPool.Fault Engine) :=
  (EngineOptions.ofConfig env config).map (build? env)

def node (e : Engine) (id : NodeId) : Node := e.hierarchy.node id

def config (e : Engine) (id : NodeId) : NodeConfig := (e.node id).config

def bind (e : Engine) (router : Router) : BoundRouter × Engine :=
  (⟨e.nextRouter, router⟩, { e with nextRouter := e.nextRouter + 1 })

def setRouter (e : Engine) (router : Router) : Engine :=
  let (router, e) := e.bind (enforceStrict e.strictLock router)
  { e with router }

def routerOf (e : Engine) (id : NodeId) : BoundRouter := (e.config id).router.getD e.router

/-! ## Loggers -/

def setOption (e : Engine) (id : NodeId) (option : LoggerOption) : Engine :=
  { e with
    hierarchy := e.hierarchy.configure id fun config => config.apply e.nextRouter option
    nextRouter := e.nextRouter + 1 }

/-- The number of a name that no child of `parent` has. -/
def freeName (e : Engine) (parent : NodeId) : Nat :=
  Naming.firstFree (fun name => (e.hierarchy.child? parent name).isSome)
    (e.hierarchy.nodes.length + 1) e.nextName

def addChild (e : Engine) (parent : NodeId) (name : String) (options : List LoggerOption) :
    NodeId × Engine :=
  let config := (e.config parent).inherit.applyAll e.nextRouter options
  (e.hierarchy.nextId, { e with
    hierarchy := e.hierarchy.add parent name config
    nameWidth := max e.nameWidth name.length
    nextRouter := e.nextRouter + options.length })

/-- The child of a name. A new one gets the options; one that is there stays as it is. An empty
name always stands for a new child. -/
def childWith (e : Engine) (parent : NodeId) (name : String) (options : List LoggerOption) :
    NodeId × Engine :=
  if name.isEmpty then
    let n := e.freeName parent
    { e with nextName := n + 1 }.addChild parent (Naming.madeUp n) options
  else
    match e.hierarchy.child? parent name with
    | some id => (id, e)
    | none => e.addChild parent name options

def child (e : Engine) (parent : NodeId) (name : String) : NodeId × Engine :=
  e.childWith parent name []

def withOption (e : Engine) (parent : NodeId) (option : LoggerOption) : NodeId × Engine :=
  e.childWith parent "" [option]

def enabled (e : Engine) (env : Environment) (id : NodeId) (level : Level) : Bool :=
  env.registry.enabled (e.config id).level level

/-- The routers of a logger and of all loggers below it, each once. -/
def reachableRouters (e : Engine) (id : NodeId) : List BoundRouter :=
  ((e.hierarchy.subtree id).map fun node => node.config.router.getD e.router).eraseDups

/-- Whether escalations are counted and not acted on. -/
def suppressesEscalation (e : Engine) : Bool := e.testing || e.noInterrupt

def countSuppressed (e : Engine) : Engine := { e with metrics := e.metrics.recordSuppressed }

def countWriteFailure (e : Engine) : Engine := { e with metrics := e.metrics.recordWriteFailure }

end Engine

end Logline
