import Logline.Json.Decode
import Logline.Level.Registry
import Logline.Format
import Logline.Time.Layout

/-! # Engine configuration

The settings of an engine as a document. Every field has a default, so any part of a document is
enough; levels are written by their titles and layouts by their names.
-/

namespace Logline

def Level.ofRaw? (registry : LevelRegistry) (raw : Json.Raw) : Option Level :=
  raw.text?.bind registry.parse?

def FormatMode.ofRaw? (raw : Json.Raw) : Option FormatMode := raw.name?.bind FormatMode.ofName?

def ColorMode.ofRaw? (raw : Json.Raw) : Option ColorMode := raw.name?.bind ColorMode.ofName?

/-- A layout by its name; a pattern belongs to the name of its own. -/
def TimeLayout.ofRaw? (raw : Json.Raw) : Option TimeLayout :=
  match raw.choice? with
  | some ("Custom", some pattern) => pattern.text?.map .custom
  | _ => raw.name?.bind TimeLayout.ofName?

/-- A rule for the paths of callers: what is matched, and what is shown for it. -/
structure RedactRule where
  pattern : String
  replacement : String
  deriving DecidableEq, Repr, Inhabited

namespace RedactRule

def ruleFields : List (Json.Field RedactRule) := [
  ⟨"pattern", fun rule raw => raw.text?.map fun pattern => { rule with pattern }⟩,
  ⟨"alias", fun rule raw => raw.text?.map fun replacement => { rule with replacement }⟩]

def ofRaw? (raw : Json.Raw) : Option RedactRule := Json.wholeRecord ruleFields ⟨"", ""⟩ raw

end RedactRule

structure EngineConfig where
  name : String := ""
  level : Level := .info
  format : FormatMode := .colorful
  color : ColorMode := .auto
  utc : Bool := true
  timeLayout : TimeLayout := .iso8601Nanos
  caller : Bool := false
  collectRecursive : Bool := false
  noInterrupt : Bool := false
  testing : Bool := false
  strictLock : Bool := false
  poolSize : Nat := 64
  /-- Whether the working and the home directory are shown by signs. -/
  redactEnvironment : Bool := true
  redactRules : List RedactRule := []
  deriving DecidableEq, Repr, Inhabited

namespace EngineConfig

def textField (name : String) (store : EngineConfig → String → EngineConfig) :
    Json.Field EngineConfig :=
  ⟨name, fun config raw => raw.text?.map (store config)⟩

def flagField (name : String) (store : EngineConfig → Bool → EngineConfig) :
    Json.Field EngineConfig :=
  ⟨name, fun config raw => raw.bool?.map (store config)⟩

def fields (registry : LevelRegistry) : List (Json.Field EngineConfig) := [
  textField "name" fun config name => { config with name },
  ⟨"level", fun config raw => (Level.ofRaw? registry raw).map fun level => { config with level }⟩,
  ⟨"format", fun config raw => (FormatMode.ofRaw? raw).map fun format => { config with format }⟩,
  ⟨"color", fun config raw => (ColorMode.ofRaw? raw).map fun color => { config with color }⟩,
  flagField "utc" fun config utc => { config with utc },
  ⟨"time_layout", fun config raw =>
    (TimeLayout.ofRaw? raw).map fun timeLayout => { config with timeLayout }⟩,
  flagField "caller" fun config caller => { config with caller },
  flagField "collect_recursive" fun config collectRecursive => { config with collectRecursive },
  flagField "no_interrupt" fun config noInterrupt => { config with noInterrupt },
  flagField "testing" fun config testing => { config with testing },
  flagField "strict_lock" fun config strictLock => { config with strictLock },
  ⟨"pool_size", fun config raw => raw.natural?.map fun poolSize => { config with poolSize }⟩,
  flagField "redact_env_paths" fun config redactEnvironment => { config with redactEnvironment },
  ⟨"redact_rules", fun config raw =>
    (Json.list? RedactRule.ofRaw? raw).map fun redactRules => { config with redactRules }⟩]

def ofRaw? (registry : LevelRegistry) (raw : Json.Raw) : Option EngineConfig :=
  Json.partialRecord (fields registry) {} raw

def parse (registry : LevelRegistry) (s : String) : Except LogError EngineConfig :=
  match (Json.readDocument (Text.utf8 s)).bind (ofRaw? registry) with
  | some config => .ok config
  | none => .error .json

/-- The configuration of a file, given its content or the failure to read it. -/
def ofFile (registry : LevelRegistry) (path : String) (content : Except String String) :
    Except LogError EngineConfig :=
  match content with
  | .ok s => parse registry s
  | .error source => .error (.ioOperation "reading engine config" path source)

def quote (s : String) : String := (Json.string s).text

def flag (b : Bool) : String := if b then "true" else "false"

def layoutText (layout : TimeLayout) : String :=
  match layout with
  | .custom pattern => "\x7b\"Custom\":" ++ quote pattern ++ "\x7d"
  | _ => quote layout.name

def ruleText (rule : RedactRule) : String :=
  "\x7b\"pattern\":" ++ quote rule.pattern ++ ",\"alias\":" ++ quote rule.replacement ++ "\x7d"

def members (registry : LevelRegistry) (config : EngineConfig) : List (String × String) :=
  [("name", quote config.name), ("level", quote (registry.title config.level)),
    ("format", quote config.format.name), ("color", quote config.color.name),
    ("utc", flag config.utc), ("time_layout", layoutText config.timeLayout),
    ("caller", flag config.caller), ("collect_recursive", flag config.collectRecursive),
    ("no_interrupt", flag config.noInterrupt), ("testing", flag config.testing),
    ("strict_lock", flag config.strictLock), ("pool_size", toString config.poolSize),
    ("redact_env_paths", flag config.redactEnvironment),
    ("redact_rules", "[" ++ String.intercalate "," (config.redactRules.map ruleText) ++ "]")]

def text (registry : LevelRegistry) (config : EngineConfig) : String :=
  "\x7b" ++ String.intercalate ","
    ((config.members registry).map fun (name, value) => quote name ++ ":" ++ value) ++ "\x7d"

def validate (registry : LevelRegistry) (config : EngineConfig) : Except LogError Unit :=
  if config.poolSize = 0 then
    .error (.configuration "EngineConfig" "pool_size must be at least 1")
  else if (registry.info? config.level).isNone then
    .error (.configuration "EngineConfig"
      ("level " ++ registry.title config.level ++ " is not registered"))
  else .ok ()

end EngineConfig

end Logline
