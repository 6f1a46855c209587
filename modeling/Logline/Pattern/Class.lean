import Logline.Pattern.Escape

/-! # Bracketed classes

Sets in brackets: characters, ranges, named sets, further brackets, and the operators of
intersection, difference and symmetric difference, which group to the left.
-/

namespace Logline.Pattern

def depthLimit : Nat := 250

structure ClassPart where
  set : CharSet
  depth : Nat

/-- Items that stand side by side, the last one first. -/
abbrev ClassItems := List ClassPart

namespace ClassPart

/-- Items side by side are one level deeper than the deepest of them. -/
def ofItems (items : ClassItems) : ClassPart :=
  match items with
  | [] => ⟨.empty, 0⟩
  | [item] => item
  | items => ⟨.unionAll (items.map set), (items.map depth).foldl Nat.max 0 + 1⟩

end ClassPart

inductive SetOp where
  | inter
  | diff
  | symmDiff

def SetOp.apply (op : SetOp) (a b : CharSet) : CharSet :=
  match op with
  | inter => a ∩ b
  | diff => a \ b
  | symmDiff => a.symmDiff b

structure Pending where
  op : SetOp
  left : ClassPart

def Flags.finishOps (f : Flags) (pending : Option Pending) (items : ClassItems) : ClassPart :=
  let right := ClassPart.ofItems items
  match pending with
  | none => right
  | some ⟨op, left⟩ =>
    ⟨op.apply (f.fold left.set) (f.fold right.set), Nat.max left.depth right.depth + 1⟩

/-- One end of a range or a whole item. Without Unicode a class holds ASCII only. -/
def Flags.classAtom? (f : Flags) : List Char → Option (Escape × List Char)
  | [] => none
  | c :: r =>
    match if c = '\\' then f.escape? r else some (.literal c, r) with
    | some (.look _, _) => none
    | some (.literal c, rest) =>
      if f.unicode ∨ c.toNat < 0x80 then some (.literal c, rest) else none
    | found => found

/-- Whether a hyphen is no sign of a range, by what follows it: the end of the class or another
hyphen. The sign of a comment is passed over on the way, its text is not. -/
def Flags.endsRange (f : Flags) (afterHyphen : List Char) : Bool :=
  let blank (c : Char) : Bool := f.verbose && Text.isBlank c
  let next :=
    match afterHyphen.dropWhile blank with
    | '#' :: r => if f.verbose then r.dropWhile blank else '#' :: r
    | r => r
  match next with
  | ']' :: _ => true
  | '-' :: _ => true
  | _ => false

def Flags.classItem? (f : Flags) (cs : List Char) : Option (CharSet × List Char) := do
  let (first, r) ← f.classAtom? cs
  let r := f.skip r
  let single : Option (CharSet × List Char) :=
    match first with
    | .literal c => some (.single c, r)
    | .set s => some (s, r)
    | .look _ => none
  match r with
  | '-' :: r' =>
    if f.endsRange r' then single
    else do
      let (last, rest) ← f.classAtom? (f.skip r')
      match first, last with
      | .literal a, .literal b => if a ≤ b then some (.range a b, rest) else none
      | _, _ => none
  | _ => single

def Flags.posixItem? (f : Flags) (cs : List Char) : Option (Option CharSet × List Char) :=
  match cs with
  | ':' :: r =>
    let (negated, r) := match r with
      | '^' :: r => (true, r)
      | r => (false, r)
    let name := r.takeWhile Char.isAlpha
    match r.drop name.length with
    | ':' :: ']' :: rest =>
      (CharSet.posixClasses.lookup (String.ofList name)).map fun s =>
        (f.negate? negated (f.fold s), rest)
    | _ => none
  | _ => none

def Flags.leadingHyphens (f : Flags) (cs : List Char) : ClassItems × List Char :=
  let (hyphens, rest) := f.take (· == '-') cs
  match hyphens, rest with
  | [], ']' :: r => ([⟨.single ']', 0⟩], r)
  | hyphens, rest => (hyphens.map fun c => ⟨.single c, 0⟩, rest)

mutual

/-- A class after its opening bracket. At most `room` more may be nested, and `n` bounds how much
is read. -/
def readClass (f : Flags) : Nat → Nat → List Char → Option (ClassPart × List Char)
  | 0, _, _ => none
  | _, 0, _ => none
  | n + 1, room + 1, cs => do
    let (negated, cs) := match f.skip cs with
      | '^' :: r => (true, r)
      | r => (false, r)
    let (items, cs) := f.leadingHyphens cs
    let (part, rest) ← readClassItems f n room none items cs
    let set ← f.negate? negated (f.fold part.set)
    some (⟨set, part.depth + 1⟩, rest)

def readClassItems (f : Flags) :
    Nat → Nat → Option Pending → ClassItems → List Char → Option (ClassPart × List Char)
  | 0, _, _, _, _ => none
  | n + 1, room, pending, items, cs =>
    let operator (op : SetOp) : Option Pending := some ⟨op, f.finishOps pending items⟩
    match f.skip cs with
    | [] => none
    | ']' :: rest => some (f.finishOps pending items, rest)
    | '[' :: r =>
      match f.posixItem? r with
      | some (set?, rest) => do
        let set ← set?
        readClassItems f n room pending (⟨set, 0⟩ :: items) rest
      | none => do
        let (part, rest) ← readClass f n room r
        readClassItems f n room pending (part :: items) rest
    | '&' :: '&' :: r => readClassItems f n room (operator .inter) [] r
    | '-' :: '-' :: r => readClassItems f n room (operator .diff) [] r
    | '~' :: '~' :: r => readClassItems f n room (operator .symmDiff) [] r
    | cs => do
      let (set, rest) ← f.classItem? cs
      readClassItems f n room pending (⟨set, 0⟩ :: items) rest

end

end Logline.Pattern
