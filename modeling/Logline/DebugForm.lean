import Logline.Attr
import Logline.Text.Category

/-! # Debug forms

A form of every value that shows its structure: constructors with their fields, strings in
quotes, lists in brackets.
-/

namespace Logline.DebugForm

def lowerHex (n : Nat) : List Char := Nat.toDigits 16 n

/-- A character of a quoted string; what does not print or would attach to the quote is shown by
its code point. -/
def escapeChar (c : Char) : List Char :=
  if c = '\x00' then ['\\', '0']
  else if c = '\t' then ['\\', 't']
  else if c = '\r' then ['\\', 'r']
  else if c = '\n' then ['\\', 'n']
  else if c = '\\' then ['\\', '\\']
  else if c = '"' then ['\\', '"']
  else if Text.isGraphemeExtend c ∨ ¬ Text.isPrintable c then
    ['\\', 'u', '{'] ++ lowerHex c.toNat ++ ['}']
  else [c]

def string (s : String) : String := String.ofList ('"' :: s.toList.flatMap escapeChar ++ ['"'])

def list (items : List String) : String := "[" ++ String.intercalate ", " items ++ "]"

def wrap (name field : String) : String := name ++ "(" ++ field ++ ")"

def record (name : String) (fields : List (String × String)) : String :=
  name ++ " \x7b " ++ String.intercalate ", " (fields.map fun (k, v) => k ++ ": " ++ v) ++ " \x7d"

def option {α : Type} (form : α → String) : Option α → String
  | none => "None"
  | some a => wrap "Some" (form a)

def float (x : Binary64) : String :=
  Decimal.Layout.debug.text FloatFormat.double x.isNegative x.magnitude

def float32 (x : Binary32) : String :=
  Decimal.Layout.debug.text FloatFormat.single x.isNegative x.magnitude

/-- Date and time in universal time, with as many digits of the fraction as are needed. -/
def time (t : Instant) : String := Time.dateTimeText (t.inZone .universal) ++ "Z"

def bool (b : Bool) : String := if b then "true" else "false"

mutual

def json : Json → String
  | .null => "Null"
  | .bool b => wrap "Bool" (bool b)
  | .natural n => wrap "Number" (toString n)
  | .negative n => wrap "Number" (toString n)
  | .float x => wrap "Number" (Json.floatText x)
  | .string s => wrap "String" (string s)
  | .array items => "Array " ++ list (jsonItems items)
  | .object members => "Object \x7b" ++ String.intercalate ", " (jsonMembers members) ++ "\x7d"

def jsonItems : List Json → List String
  | [] => []
  | x :: r => json x :: jsonItems r

def jsonMembers : List (String × Json) → List String
  | [] => []
  | (k, x) :: r => (string k ++ ": " ++ json x) :: jsonMembers r

end

mutual

def value : Value → String
  | .null => "Null"
  | .bool b => wrap "Bool" (bool b)
  | .int n => wrap "Int" (toString n)
  | .uint n => wrap "Uint" (toString n)
  | .float x => wrap "Float" (float x)
  | .float32 x => wrap "Float32" (float32 x)
  | .complex re im => record "Complex" [("re", float re), ("im", float im)]
  | .complex32 re im => record "Complex32" [("re", float32 re), ("im", float32 im)]
  | .string s => wrap "Str" (string s)
  | .bytes bytes => wrap "Bytes" (list (bytes.map fun b => toString b.toNat))
  | .duration d => wrap "Duration" d.text
  | .time t => wrap "Time" (time t)
  | .strings items => wrap "Strings" (list (items.map string))
  | .bools items => wrap "Bools" (list (items.map bool))
  | .ints items => wrap "Ints" (list (items.map toString))
  | .floats items => wrap "Floats" (list (items.map float))
  | .json j => wrap "Json" (json j)
  | .marshal m => wrap "Custom" m.debug
  | .foreign f => wrap "Opaque" f.debug
  | .group attrs => wrap "Group" (list (entries attrs))

def entries : List (Entry Value) → List String
  | [] => []
  | ⟨k, v⟩ :: r => record "Attr" [("key", string k), ("value", value v)] :: entries r

end

end Logline.DebugForm
