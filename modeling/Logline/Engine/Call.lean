import Logline.Context
import Logline.Engine.Basic
import Logline.Render.Painters

/-! # Log calls

A log call asks a logger for one record. The attributes of its line are those of the loggers
above, if the engine collects them, those of the logger itself, those that the context has for the
logger's keys, and those of the arguments, where the last value of a key wins.
-/

namespace Logline

structure CallSite where
  caller : Caller
  /-- The places that the stack holds around the call, the innermost first. -/
  frames : List Caller := []
  deriving Inhabited

structure Call where
  level : Level
  message : String
  args : List Arg := []
  context : Option LogContext := none
  site : Option CallSite := none
  time : Instant := .epoch
  /-- The instants at which the failed writes of the record are reported, one after the other. -/
  later : Nat → Instant := fun _ => .epoch
  deriving Inhabited

namespace Call

/-- Whether the stack is searched for the caller. -/
def walksStack (call : Call) (config : NodeConfig) : Bool :=
  call.site.isSome && config.caller && config.extraFrames != 0

/-- The caller that the line names: the place of the call, or one further out on the stack. -/
def callerFor (call : Call) (config : NodeConfig) : Option Caller :=
  match call.site with
  | some site =>
    if config.caller then
      some (if config.extraFrames = 0 then site.caller
        else site.frames.getD config.extraFrames site.caller)
    else none
  | none => none

end Call

namespace Engine

def inheritedAttrs (e : Engine) (id : NodeId) : List Attr :=
  if e.collectRecursive then (e.node id).ancestors.flatMap fun above => (e.config above).attrs
  else []

/-- Merges every source of attributes for a call. -/
def resolveAttrs (e : Engine) (id : NodeId) (call : Call) (table : AttrTable) : AttrTable :=
  let config := e.config id
  let table := (table.merge (e.inheritedAttrs id)).merge config.attrs
  let table := match call.context with
    | some context => table.merge (context.extract config.contextKeys)
    | none => table
  table.mergeArgs call.args

def record (e : Engine) (id : NodeId) (call : Call) : Record where
  level := call.level
  time := call.time
  logger := (e.node id).name
  message := call.message
  caller := call.callerFor (e.config id)

def usesColors (env : Environment) (config : NodeConfig) : Bool :=
  config.format == .colorful && config.color.enabled env.terminalColors

def renderOptions (e : Engine) (env : Environment) (id : NodeId) (call : Call) :
    RenderOptions where
  timeLayout := (e.config id).timeLayout
  utc := (e.config id).utc
  home := env.localZone call.time
  nameWidth := e.nameWidth
  redactor := some e.redactor

def load (e : Engine) (env : Environment) (id : NodeId) (call : Call) (canvas : Canvas) : Canvas :=
  let config := e.config id
  let canvas := canvas.set env.registry (e.record id call) config.format (usesColors env config)
  { canvas with table := e.resolveAttrs id call canvas.table }

def paint (e : Engine) (env : Environment) (id : NodeId) (call : Call) (canvas : Canvas) :
    Canvas.Result :=
  (e.load env id call canvas).render (e.renderOptions env id call) (.ofMode (e.config id).format)

end Engine

end Logline
