import Logline.Json.Basic

/-! # Parts of values

Members, elements and numbers of a value. A part that is not there is null, and a whole number may
also stand as a text.
-/

namespace Logline.Json

def get (j : Json) (key : String) : Json :=
  match j with
  | object members => (members.lookup key).getD null
  | _ => null

def has (j : Json) (key : String) : Bool :=
  match j with
  | object members => (members.lookup key).isSome
  | _ => false

def elems : Json → List Json
  | array items => items
  | _ => []

def list (j : Json) (key : String) : List Json := (j.get key).elems

def nth (j : Json) (n : Nat) : Json := j.elems.getD n null

def isNull : Json → Bool
  | null => true
  | _ => false

/-- Whether there is nothing but null under a key. -/
def lacks (j : Json) (key : String) : Bool := (j.get key).isNull

/-- A truth value, or the default. -/
def isTrue (j : Json) (default : Bool := false) : Bool :=
  match j with
  | bool b => b
  | _ => default

def flag (j : Json) (key : String) (default : Bool := false) : Bool := (j.get key).isTrue default

def ofFigures (cs : List Char) : Nat := cs.foldl (fun n c => n * 10 + (c.toNat - 48)) 0

def toInt : Json → Int
  | natural n => n
  | negative n => n
  | string s =>
    match s.toList with
    | '-' :: r => -(ofFigures r : Int)
    | r => ofFigures r
  | _ => 0

def toNat (j : Json) : Nat := j.toInt.toNat

mutual

def mapTexts (f : String → String) : Json → Json
  | string s => string (f s)
  | array items => array (mapItems f items)
  | object members => object (mapMembers f members)
  | j => j

def mapItems (f : String → String) : List Json → List Json
  | [] => []
  | j :: r => mapTexts f j :: mapItems f r

def mapMembers (f : String → String) : List (String × Json) → List (String × Json)
  | [] => []
  | (k, j) :: r => (k, mapTexts f j) :: mapMembers f r

end

end Logline.Json
