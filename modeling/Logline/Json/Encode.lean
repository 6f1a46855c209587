import Logline.Json.Basic

/-! # Documents of values

How things are written as JSON: lists as arrays, pairs as arrays of two, what is absent as null.
-/

namespace Logline

class JsonForm (α : Type) where
  jsonOf : α → Json

export JsonForm (jsonOf)

namespace JsonForm

variable {α β : Type}

instance : JsonForm Json := ⟨id⟩

instance : JsonForm String := ⟨.string⟩

instance : JsonForm Bool := ⟨.bool⟩

instance : JsonForm Nat := ⟨.natural⟩

instance : JsonForm Int := ⟨fun n => if 0 ≤ n then .natural n.toNat else .negative n⟩

instance : JsonForm UInt64 := ⟨fun n => .natural n.toNat⟩

instance [JsonForm α] : JsonForm (List α) := ⟨fun items => .array (items.map jsonOf)⟩

instance [JsonForm α] : JsonForm (Option α) := ⟨fun item => (item.map jsonOf).getD .null⟩

instance [JsonForm α] [JsonForm β] : JsonForm (α × β) :=
  ⟨fun (a, b) => .array [jsonOf a, jsonOf b]⟩

end JsonForm

end Logline
