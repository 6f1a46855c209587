import Logline.Value

/-! # Attribute lists

A key index maps every key of a list to its first position, and merging through it overwrites the
value of a key that is there and appends one that is not. An argument list alternates keys and
values, with attributes in between; reading it gives attributes with duplicate keys kept.
-/

namespace Logline

/-- First positions of keys. -/
structure KeyIndex where
  positions : List (String × Nat)
  deriving DecidableEq, Repr, Inhabited

namespace KeyIndex

def empty : KeyIndex := ⟨[]⟩

def get? (index : KeyIndex) (key : String) : Option Nat := index.positions.lookup key

def add (index : KeyIndex) (key : String) (position : Nat) : KeyIndex :=
  match index.get? key with
  | some _ => index
  | none => ⟨index.positions ++ [(key, position)]⟩

def addFrom (index : KeyIndex) (position : Nat) : List Attr → KeyIndex
  | [] => index
  | attr :: r => (index.add attr.key position).addFrom (position + 1) r

def of (attrs : List Attr) : KeyIndex := empty.addFrom 0 attrs

def size (index : KeyIndex) : Nat := index.positions.length

def isEmpty (index : KeyIndex) : Bool := index.positions.isEmpty

end KeyIndex

structure AttrTable where
  attrs : List Attr
  index : KeyIndex
  deriving Inhabited

namespace AttrTable

def empty : AttrTable := ⟨[], .empty⟩

def ofList (attrs : List Attr) : AttrTable := ⟨attrs, .of attrs⟩

/-- Overwrites the value at the position of the key, or appends the attribute. -/
def put (t : AttrTable) (attr : Attr) : AttrTable :=
  match t.index.get? attr.key with
  | some i => { t with attrs := t.attrs.modify i fun old => { old with value := attr.value } }
  | none => ⟨t.attrs ++ [attr], t.index.add attr.key t.attrs.length⟩

def merge (t : AttrTable) (attrs : List Attr) : AttrTable := attrs.foldl put t

/-- Overwrites the value at a position, whatever its key. -/
def setValue (t : AttrTable) (i : Nat) (v : Value) : AttrTable :=
  { t with attrs := t.attrs.modify i fun old => { old with value := v } }

end AttrTable

inductive Arg where
  | value (v : Value)
  | attr (a : Attr)
  | attrs (as : List Attr)
  deriving Inhabited

namespace Arg

def badKey : String := "!BADKEY"

/-- Gives each attribute of an argument list to `emit`, in order, after a key that may still be
without its value. -/
def feedFrom {S : Type} (emit : S → Attr → S) : Option String → List Arg → S → S
  | none, [], s => s
  | some key, [], s => emit s ⟨badKey, .string key⟩
  | some key, .value v :: r, s => feedFrom emit none r (emit s ⟨key, v⟩)
  | some key, .attr a :: r, s => feedFrom emit none r (emit s ⟨key, .group [a]⟩)
  | some key, .attrs as :: r, s => feedFrom emit none r (emit s ⟨key, .group as⟩)
  | none, .attr a :: r, s => feedFrom emit none r (emit s a)
  | none, .attrs as :: r, s => feedFrom emit none r (as.foldl emit s)
  | none, .value (.string key) :: r, s => feedFrom emit (some key) r s
  | none, .value v :: r, s => feedFrom emit none r (emit s ⟨badKey, v⟩)

def feed {S : Type} (emit : S → Attr → S) (args : List Arg) (s : S) : S := feedFrom emit none args s

def toAttrs (args : List Arg) : List Attr := (feed Array.push args #[]).toList

end Arg

/-- Puts the attributes of an argument list into the table as they are read. -/
def AttrTable.mergeArgs (t : AttrTable) (args : List Arg) : AttrTable := Arg.feed put args t

end Logline
