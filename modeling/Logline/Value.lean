import Logline.Buffer
import Logline.Format

/-! # Values and attributes

A value is of one of a closed set of kinds. A group holds attributes, so values nest. Two kinds
come from outside: a marshalled value writes itself into a buffer, and a foreign value has nothing
but a debug form; both are equal only to themselves.
-/

namespace Logline

/-- A value that writes itself. `write` may fail after a part of its text; `id` tells it from
every other value. -/
structure Marshal where
  id : Nat
  write : FormatMode → Buffer → Except Buffer.Fault (Buffer × Option LogError)
  debug : String

/-- A value known by its debug form alone. -/
structure Foreign where
  id : Nat
  debug : String
  deriving Inhabited, Repr

structure Entry (α : Type) where
  key : String
  value : α
  deriving Inhabited

inductive Value where
  | null
  | bool (b : Bool)
  | int (n : Int)
  | uint (n : Nat)
  | float (x : Binary64)
  | float32 (x : Binary32)
  | complex (re im : Binary64)
  | complex32 (re im : Binary32)
  | string (s : String)
  | bytes (bytes : List UInt8)
  | duration (d : Duration)
  | time (t : Instant)
  | strings (items : List String)
  | bools (items : List Bool)
  | ints (items : List Int)
  | floats (items : List Binary64)
  | json (j : Json)
  | marshal (m : Marshal)
  | foreign (f : Foreign)
  | group (attrs : List (Entry Value))
  deriving Inhabited

abbrev Attr := Entry Value

namespace Value

def kind : Value → String
  | null => "null"
  | bool _ => "bool"
  | int _ => "int"
  | uint _ => "uint"
  | float _ => "float"
  | float32 _ => "float32"
  | complex .. => "complex"
  | complex32 .. => "complex32"
  | string _ => "string"
  | bytes _ => "bytes"
  | duration _ => "duration"
  | time _ => "time"
  | strings _ => "strings"
  | bools _ => "bools"
  | ints _ => "ints"
  | floats _ => "floats"
  | json _ => "json"
  | marshal _ => "custom"
  | foreign _ => "opaque"
  | group _ => "group"

def asString? : Value → Option String
  | string s => some s
  | _ => none

def isGroup : Value → Bool
  | group _ => true
  | _ => false

def children? : Value → Option (List Attr)
  | group attrs => some attrs
  | _ => none

def equalFloats : List Binary64 → List Binary64 → Bool
  | [], [] => true
  | x :: xs, y :: ys => x.equal y && equalFloats xs ys
  | _, _ => false

mutual

/-- Equality within a kind: as numbers, as texts, by identity, or attribute by attribute. -/
def equal : Value → Value → Bool
  | null, null => true
  | bool a, bool b => a == b
  | int a, int b => a == b
  | uint a, uint b => a == b
  | float a, float b => a.equal b
  | float32 a, float32 b => a.equal b
  | complex a b, complex c d => a.equal c && b.equal d
  | complex32 a b, complex32 c d => a.equal c && b.equal d
  | string a, string b => a == b
  | bytes a, bytes b => a == b
  | duration a, duration b => a == b
  | time a, time b => a == b
  | strings a, strings b => a == b
  | bools a, bools b => a == b
  | ints a, ints b => a == b
  | floats a, floats b => equalFloats a b
  | json a, json b => a.equal b
  | marshal a, marshal b => a.id == b.id
  | foreign a, foreign b => a.id == b.id
  | group a, group b => equalAttrs a b
  | _, _ => false

def equalAttrs : List (Entry Value) → List (Entry Value) → Bool
  | [], [] => true
  | ⟨k, v⟩ :: as, ⟨l, w⟩ :: bs => k == l && equal v w && equalAttrs as bs
  | _, _ => false

end

end Value

end Logline
