import Logline.Engine.Basic

/-! # Debug forms of engines

The forms of configurations, options, loggers and engines.
-/

namespace Logline.DebugForm

def formatMode : FormatMode → String
  | .json => "Json"
  | .logfmt => "Logfmt"
  | .colorful => "Colorful"
  | .plain => "Plain"

def colorMode : ColorMode → String
  | .auto => "Auto"
  | .always => "Always"
  | .never => "Never"

def timeLayout : TimeLayout → String
  | .custom pattern => wrap "Custom" (string pattern)
  | layout => layout.name

def attrs (as : List Attr) : String := list (entries as)

def texts (items : List String) : String := list (items.map string)

def nodeConfig (config : NodeConfig) : String :=
  record "NodeConfig" [("format", formatMode config.format), ("color", colorMode config.color),
    ("utc", bool config.utc), ("time_layout", timeLayout config.timeLayout),
    ("level", level config.level), ("attrs", attrs config.attrs),
    ("router", option (fun (bound : BoundRouter) => router bound.router) config.router),
    ("context_keys", texts config.contextKeys), ("extra_frames", toString config.extraFrames),
    ("caller", bool config.caller)]

def loggerOption : LoggerOption → String
  | .format mode => wrap "Format" (formatMode mode)
  | .color mode => wrap "Color" (colorMode mode)
  | .utc on => wrap "Utc" (bool on)
  | .timeLayout layout => wrap "TimeLayout" (timeLayout layout)
  | .level l => wrap "Level" (level l)
  | .attrs as => wrap "Attrs" (attrs as)
  | .sinks sinks => wrap "Sinks" (toString sinks.length)
  | .router bound => wrap "Router" (router bound.router)
  | .contextKeys keys => wrap "ContextKeys" (texts keys)
  | .extraFrames frames => wrap "ExtraFrames" (toString frames)
  | .caller on => wrap "Caller" (bool on)

def logger (e : Engine) (id : NodeId) : String :=
  record "Logger" [("name", string (e.node id).name), ("config", nodeConfig (e.config id)),
    ("children", toString (e.hierarchy.children id).length)]

def engine (e : Engine) : String :=
  record "Engine" [("root", string e.hierarchy.root.name), ("router", router e.router.router),
    ("collect_recursive", bool e.collectRecursive), ("strict_lock", bool e.strictLock)]

end Logline.DebugForm
