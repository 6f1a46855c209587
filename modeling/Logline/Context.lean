import Logline.DebugForm

/-! # Call contexts

A context carries named values along with a log call. Only the keys that a logger asks for become
attributes.
-/

namespace Logline

/-- Named values, each name once. -/
structure LogContext where
  fields : List (Entry Value)
  deriving Inhabited

namespace LogContext

def empty : LogContext := ⟨[]⟩

def find? (fields : List (Entry Value)) (key : String) : Option Value :=
  (fields.find? (·.key == key)).map (·.value)

def get? (c : LogContext) (key : String) : Option Value := find? c.fields key

def contains (c : LogContext) (key : String) : Bool := (c.get? key).isSome

def size (c : LogContext) : Nat := c.fields.length

def isEmpty (c : LogContext) : Bool := c.fields.isEmpty

def erase (c : LogContext) (key : String) : LogContext := ⟨c.fields.filter (·.key != key)⟩

def insert (c : LogContext) (key : String) (value : Value) : LogContext :=
  ⟨(c.erase key).fields ++ [⟨key, value⟩]⟩

def ofList (entries : List (Entry Value)) : LogContext :=
  entries.foldl (fun c e => c.insert e.key e.value) empty

/-- Attributes for the listed keys in their order; a key without a value is skipped. -/
def extract (c : LogContext) (keys : List String) : List Attr :=
  keys.filterMap fun key => (c.get? key).map fun value => ⟨key, value⟩

def display (c : LogContext) : String :=
  let sorted := c.fields.mergeSort fun a b => a.key ≤ b.key
  String.intercalate " " (sorted.map fun e => e.key ++ "=" ++ DebugForm.value e.value)

end LogContext

end Logline
