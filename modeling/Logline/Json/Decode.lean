import Logline.Json.Basic

/-! # Reading records from documents

A record is read from an object, whose members come in any order and at most once each, or from an
array, which gives the fields in their order. Members without a field are skipped. A choice is the
name of one alternative, or an object of the name and what belongs to it.
-/

namespace Logline.Json

def Raw.text? : Raw → Option String
  | .string units => unitText units
  | _ => none

def Raw.bool? : Raw → Option Bool
  | .bool b => some b
  | _ => none

def Raw.natural? : Raw → Option Nat
  | .number n =>
    match ofNumeral n with
    | some (.natural n) => some n
    | _ => none
  | _ => none

/-- The name of an alternative and what belongs to it. -/
def Raw.choice? : Raw → Option (String × Option Raw)
  | .string units => (unitText units).map (·, none)
  | .object [(key, value)] => (unitText key).map (·, some value)
  | _ => none

def Raw.name? (raw : Raw) : Option String :=
  match raw.choice? with
  | some (name, none) => some name
  | some (name, some .null) => some name
  | _ => none

/-- A field of a record: its name, and how its value is stored. -/
structure Field (α : Type) where
  name : String
  store : α → Raw → Option α

/-- Stores members, and lists the fields that were there. -/
def storeMembers {α : Type} (fields : List (Field α)) (found : List String) (a : α) :
    List (List CodeUnit × Raw) → Option (α × List String)
  | [] => some (a, found)
  | (key, value) :: r => do
    let key ← unitText key
    match fields.find? (·.name == key) with
    | none => storeMembers fields found a r
    | some field =>
      if key ∈ found then none
      else do
        let a ← field.store a value
        storeMembers fields (key :: found) a r

def storeItems {α : Type} (found : List String) (a : α) :
    List (Field α) → List Raw → Option (α × List String)
  | _, [] => some (a, found)
  | [], _ :: _ => none
  | field :: fields, item :: items => do
    let a ← field.store a item
    storeItems (field.name :: found) a fields items

def storeRecord {α : Type} (fields : List (Field α)) (start : α) : Raw → Option (α × List String)
  | .object members => storeMembers fields [] start members
  | .array items => storeItems [] start fields items
  | _ => none

/-- Reads a record; a field that is missing keeps its value in `start`. -/
def partialRecord {α : Type} (fields : List (Field α)) (start : α) (raw : Raw) : Option α :=
  (storeRecord fields start raw).map (·.1)

/-- Reads a record that has all of its fields. -/
def wholeRecord {α : Type} (fields : List (Field α)) (start : α) (raw : Raw) : Option α :=
  match storeRecord fields start raw with
  | some (a, found) => if found.length = fields.length then some a else none
  | none => none

def list? {α : Type} (item : Raw → Option α) : Raw → Option (List α)
  | .array items => items.mapM item
  | _ => none

end Logline.Json
