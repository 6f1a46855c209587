import Logline.Pattern.Class
import Logline.Pattern.Size

/-! # Reading patterns

The usual notation of regular expressions: flags, classes with set operations, groups by number
and name, greedy and lazy repetitions. Looking around and references to groups are no part of it.
A text that is no pattern gives nothing, and neither does one that nests too deeply or whose
matcher would be too large.
-/

namespace Logline.Pattern

/-- A node and the depth of its notation. -/
structure Part where
  node : Node
  depth : Nat
  deriving Inhabited

namespace Part

def of? (node : Node) (depth : Nat) : Option Part :=
  if depth ≤ depthLimit then some ⟨node, depth⟩ else none

/-- The deepest of some items; flags alone are an item without a node. -/
def deepest (items : List (Option Part)) : Nat :=
  items.foldl (fun d item => Nat.max d (item.elim 0 depth)) 0

/-- Items in sequence, the last one first. -/
def sequence? (items : List (Option Part)) : Option Part :=
  let node := Node.sequence (items.reverse.filterMap (·.map node))
  of? node (if items.length ≤ 1 then deepest items else deepest items + 1)

def alternatives? : List Part → Option Part
  | [branch] => some branch
  | branches =>
    of? (Node.alternatives (branches.reverse.map node)) (deepest (branches.map some) + 1)

end Part

/-! ## Repetitions -/

def Flags.decimal? (f : Flags) (cs : List Char) : Option (Nat × List Char) :=
  let (digits, rest) := f.take Char.isDigit (cs.dropWhile Text.isBlank)
  let n := digits.foldl (fun n c => n * 10 + (c.toNat - 48)) 0
  if digits.isEmpty ∨ Nat.pow 2 32 ≤ n then none else some (n, rest.dropWhile Text.isBlank)

def Flags.bounds? (f : Flags) (cs : List Char) : Option ((Nat × Option Nat) × List Char) := do
  let (min, r) ← f.decimal? (f.skip cs)
  match r with
  | '}' :: rest => some ((min, some min), rest)
  | ',' :: r =>
    match f.skip r with
    | '}' :: rest => some ((min, none), rest)
    | r => do
      let (max, r) ← f.decimal? r
      match r with
      | '}' :: rest => if min ≤ max then some ((min, some max), rest) else none
      | _ => none
  | _ => none

def Flags.repetition? (f : Flags) :
    List Char → Option (Option ((Nat × Option Nat) × List Char))
  | '*' :: r => some (some ((0, none), r))
  | '+' :: r => some (some ((1, none), r))
  | '?' :: r => some (some ((0, some 1), r))
  | '{' :: r => (f.bounds? r).map fun (bounds, rest) => some (bounds, f.skip rest)
  | _ => some none

/-- Repeats the last item; `cs` follows the bounds. Flags alone take no repetition. -/
def Flags.repeat? (f : Flags) (min : Nat) (max : Option Nat) (cs : List Char) :
    List (Option Part) → Option (List (Option Part) × List Char)
  | some body :: items => do
    let (lazy, rest) := match cs with
      | '?' :: r => (true, r)
      | r => (false, r)
    let node := Node.repeated body.node min max (lazy == f.swapGreed)
    let part ← Part.of? node (body.depth + 1)
    some (some part :: items, rest)
  | _ => none

/-! ## Groups -/

def isNameStart (c : Char) : Bool := c == '_' || Text.isAlphabetic c

def isNameChar (c : Char) : Bool :=
  isNameStart c || c == '.' || c == '[' || c == ']' || Text.isNumeric c

def groupName? (cs : List Char) : Option (String × List Char) :=
  let name := cs.takeWhile isNameChar
  match name, cs.drop name.length with
  | c :: _, '>' :: rest => if isNameStart c then some (String.ofList name, rest) else none
  | _, _ => none

/-- Flags up to a colon or a closing parenthesis, which is told by the result. -/
def readFlags :
    Bool → Bool → List Char → Flags → List Char → Option (Flags × Bool × List Char)
  | _, _, _, _, [] => none
  | negated, dangling, seen, f, c :: r =>
    if c = ':' then if dangling then none else some (f, true, r)
    else if c = ')' then
      if dangling ∨ (seen.isEmpty ∧ ¬ negated) then none else some (f, false, r)
    else if c = '-' then if negated then none else readFlags true true seen f r
    else if c ∈ seen then none
    else do
      let f ← f.set? (!negated) c
      readFlags negated false (c :: seen) f r

structure Progress where
  rest : List Char
  flags : Flags
  nextGroup : Nat
  names : List (String × Nat)

/-- What the opening of a group says: flags alone, or a group to be read, with its number if it
has one. -/
inductive Opening where
  | flags
  | group (number : Option Nat)

def Progress.numbered (p : Progress) (rest : List Char) : Opening × Progress :=
  (.group (some p.nextGroup), { p with rest, nextGroup := p.nextGroup + 1 })

def Progress.named? (p : Progress) (cs : List Char) : Option (Opening × Progress) := do
  let (name, rest) ← groupName? cs
  if (p.names.lookup name).isSome then none
  else some ({ p with names := (name, p.nextGroup) :: p.names }.numbered rest)

def Progress.opening? (p : Progress) : Option (Opening × Progress) :=
  match p.flags.skip p.rest with
  | '?' :: '=' :: _ => none
  | '?' :: '!' :: _ => none
  | '?' :: '<' :: '=' :: _ => none
  | '?' :: '<' :: '!' :: _ => none
  | '?' :: 'P' :: '<' :: r => p.named? r
  | '?' :: '<' :: r => p.named? r
  | '?' :: r => do
    let (flags, opens, rest) ← readFlags false false [] p.flags r
    some (if opens then .group none else .flags, { p with rest, flags })
  | rest => some (p.numbered rest)

def Flags.atom? (f : Flags) (room : Nat) : List Char → Option (Part × List Char)
  | [] => none
  | c :: r =>
    let leaf (node : Node) (rest : List Char) : Option (Part × List Char) := some (⟨node, 0⟩, rest)
    let literal (c : Char) : Node := .ofSet (f.fold (.single c))
    match c with
    | '[' => do
      let (part, rest) ← readClass f (2 * r.length + 2) room r
      let part ← Part.of? (.ofSet part.set) part.depth
      some (part, rest)
    | '.' => f.dot?.bind fun set => leaf (.ofSet set) r
    | '^' => leaf (.look f.caret) r
    | '$' => leaf (.look f.dollar) r
    | '\\' => do
      match ← f.escape? r with
      | (.literal c, rest) => leaf (literal c) rest
      | (.set set, rest) => leaf (.ofSet set) rest
      | (.look look, rest) => leaf (.look look) rest
    | c => leaf (literal c) r

mutual

/-- Branches up to a closing parenthesis or the end. Those that are read are in `branches` and the
items of the one that is being read in `items`, the last first. At most `room` groups may be
nested, and `n` bounds how much is read. -/
def readBranches :
    Nat → Nat → List Part → List (Option Part) → Progress → Option (Part × Progress)
  | 0, _, _, _, _ => none
  | n + 1, room, branches, items, p =>
    let finish (rest : List Char) : Option (Part × Progress) := do
      let branch ← Part.sequence? items
      let part ← Part.alternatives? (branch :: branches)
      some (part, { p with rest })
    match p.flags.skip p.rest with
    | [] => finish []
    | ')' :: r => finish (')' :: r)
    | '|' :: r => do
      let branch ← Part.sequence? items
      readBranches n room (branch :: branches) [] { p with rest := r }
    | '(' :: r => do
      let (item, p) ← readGroup n room { p with rest := r }
      readBranches n room branches (item :: items) p
    | cs => do
      match ← p.flags.repetition? cs with
      | some ((min, max), r) =>
        let (items, rest) ← p.flags.repeat? min max r items
        readBranches n room branches items { p with rest }
      | none =>
        let (part, rest) ← p.flags.atom? room cs
        readBranches n room branches (some part :: items) { p with rest }

/-- A group after its opening parenthesis; flags alone are no node. -/
def readGroup : Nat → Nat → Progress → Option (Option Part × Progress)
  | 0, _, _ => none
  | n + 1, room, p => do
    let (opening, q) ← p.opening?
    match opening, room with
    | .flags, _ => some (none, q)
    | .group _, 0 => none
    | .group number, room + 1 =>
      let (body, q) ← readBranches n room [] [] q
      match q.rest with
      | ')' :: rest =>
        let node := number.elim body.node (Node.group · body.node)
        let part ← Part.of? node (body.depth + 1)
        some (some part, { q with rest, flags := p.flags })
      | _ => none

end

structure Expression where
  node : Node
  groups : Nat
  names : List (String × Nat)
  deriving Inhabited

def Expression.read? (s : String) : Option Expression := do
  let cs := s.toList
  let (part, p) ← readBranches (2 * cs.length + 2) depthLimit [] [] ⟨cs, {}, 1, []⟩
  if p.rest.isEmpty ∧ part.node.fits then some ⟨.group 0 part.node, p.nextGroup, p.names⟩
  else none

end Logline.Pattern
