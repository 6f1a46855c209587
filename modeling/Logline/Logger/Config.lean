import Logline.Router
import Logline.Time.Layout
import Logline.Attr

/-! # Logger configuration

Each logger has a configuration of its own. A child starts with a copy of its parent's, without
the attributes, and goes its own way from then on.
-/

namespace Logline

/-- A router with an identity, so that two of the same content can be told apart. -/
structure BoundRouter where
  id : Nat
  router : Router
  deriving DecidableEq, Repr, Inhabited

structure NodeConfig where
  format : FormatMode := .colorful
  color : ColorMode := .auto
  utc : Bool := true
  timeLayout : TimeLayout := .iso8601Nanos
  level : Level := .info
  /-- The logger's own attributes; keys may repeat. -/
  attrs : List Attr := []
  router : Option BoundRouter := none
  contextKeys : List String := []
  /-- The number of frames that are skipped to find the caller. -/
  extraFrames : Nat := 0
  caller : Bool := false
  deriving Inhabited

inductive LoggerOption where
  | format (mode : FormatMode)
  | color (mode : ColorMode)
  | utc (on : Bool)
  | timeLayout (layout : TimeLayout)
  | level (level : Level)
  | attrs (attrs : List Attr)
  | sinks (sinks : List SinkId)
  | router (router : BoundRouter)
  | contextKeys (keys : List String)
  | extraFrames (frames : Nat)
  | caller (on : Bool)
  deriving Inhabited

namespace NodeConfig

def inherit (config : NodeConfig) : NodeConfig := { config with attrs := [] }

/-- Makes one change; `id` is the identity of the router that it may have to build. -/
def apply (config : NodeConfig) (id : Nat) : LoggerOption → NodeConfig
  | .format mode => { config with format := mode }
  | .color mode => { config with color := mode }
  | .utc on => { config with utc := on }
  | .timeLayout layout => { config with timeLayout := layout }
  | .level level => { config with level }
  | .attrs attrs => { config with attrs := config.attrs ++ attrs }
  | .sinks sinks => { config with router := some ⟨id, .single sinks⟩ }
  | .router router => { config with router := some router }
  | .contextKeys keys => { config with contextKeys := keys }
  | .extraFrames frames => { config with extraFrames := frames }
  | .caller on => { config with caller := on }

/-- Makes changes in their order, with identities from `id` on. -/
def applyAll (config : NodeConfig) (id : Nat) : List LoggerOption → NodeConfig
  | [] => config
  | option :: r => (config.apply id option).applyAll (id + 1) r

end NodeConfig

end Logline
