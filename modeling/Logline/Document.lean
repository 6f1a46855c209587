import Logline.Escalation
import Logline.Json.Encode
import Logline.Level.Registry
import Logline.Tagged
import Logline.Time.Layout

/-! # Documents

The JSON forms of levels, values, layouts, escalations and errors. The message of an error is left
out where it depends on how a text was read.
-/

namespace Logline

instance : JsonForm Level := ⟨fun level => jsonOf level.ordinal⟩

instance : JsonForm Value := ⟨Value.tagged⟩

instance : JsonForm (Entry Value) := ⟨fun attr => jsonOf (attr.key, attr.value)⟩

/-- A pattern stands under the name of its kind. -/
instance : JsonForm TimeLayout := ⟨fun
  | .custom pattern => .object [("Custom", .string pattern)]
  | layout => .string layout.name⟩

instance : JsonForm LevelInfo := ⟨fun info => .object [
  ("level", jsonOf info.level), ("title", jsonOf info.title), ("tags", jsonOf info.tags),
  ("fg", jsonOf (info.foreground.map Color.foreground)),
  ("bg", jsonOf (info.background.map Color.background)),
  ("treat_as", jsonOf info.treatAs), ("error_stream", jsonOf info.errorStream)]⟩

instance : JsonForm Escalation := ⟨fun
  | .panic message => .object [("panic", .string message)]
  | .exit code => .object [("exit", jsonOf code)]⟩

instance : JsonForm LogError := ⟨fun error =>
  .object (("error", .string error.kind) :: match error with
    | .json | .invalidPattern => []
    | _ => [("message", .string error.message)])⟩

instance {α : Type} [JsonForm α] : JsonForm (Except LogError α) := ⟨fun
  | .ok a => jsonOf a
  | .error error => jsonOf error⟩

end Logline
