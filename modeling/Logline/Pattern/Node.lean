import Logline.Pattern.CharSet

/-! # Pattern trees

What a pattern asks for: texts, characters, positions, sequences, ordered alternatives and
repetitions. Groups are numbered, and group zero is the whole match. The functions that form trees
keep them in a normal form: neighbouring texts are one text, a sequence holds no sequence, and
alternatives that are single characters or sets are one set.
-/

namespace Logline.Pattern

inductive Look where
  | textStart
  | textEnd
  | lineStart (returns : Bool)
  | lineEnd (returns : Bool)
  | wordBoundary (ascii : Bool)
  | notWordBoundary (ascii : Bool)
  | wordStart (ascii : Bool)
  | wordEnd (ascii : Bool)
  | wordStartHalf (ascii : Bool)
  | wordEndHalf (ascii : Bool)
  deriving DecidableEq, Repr

inductive Node where
  | empty
  | text (cs : List Char)
  | set (s : CharSet)
  | look (l : Look)
  | group (index : Nat) (body : Node)
  | seq (items : List Node)
  | alt (branches : List Node)
  /-- At least `min` times and at most `max` times, more rather than less if `greedy`. -/
  | repetition (body : Node) (min : Nat) (max : Option Nat) (greedy : Bool)
  deriving Inhabited

namespace Node

/-! ## Lengths -/

def charSize (n : Nat) : Nat :=
  if n < 0x80 then 1 else if n < 0x800 then 2 else if n < 0x10000 then 3 else 4

mutual

/-- The smallest size of what a node matches, if it can match at all. -/
def minSize? : Node → Option Nat
  | empty => some 0
  | text cs => some (cs.foldl (fun n c => n + charSize c.toNat) 0)
  | .set s => s.spans.head?.map fun s => charSize s.first
  | look _ => some 0
  | group _ body => body.minSize?
  | seq items => minSizes? 0 items
  | alt branches => leastSize? none branches
  | repetition body min _ _ => body.minSize?.map (· * min)

def minSizes? (n : Nat) : List Node → Option Nat
  | [] => some n
  | item :: r => item.minSize?.bind fun m => minSizes? (n + m) r

def leastSize? (n : Option Nat) : List Node → Option Nat
  | [] => n
  | b :: r => b.minSize?.bind fun m => leastSize? (some (min m (n.getD m))) r

end

mutual

def matchesNothing : Node → Bool
  | empty => true
  | text cs => cs.isEmpty
  | .set _ => false
  | look _ => true
  | group _ body => body.matchesNothing
  | seq items => allNothing items
  | alt branches => allNothing branches
  | repetition body _ max _ => body.matchesNothing || max == some 0

def allNothing : List Node → Bool
  | [] => true
  | item :: r => item.matchesNothing && allNothing r

end

mutual

def count : Node → Nat
  | group _ body => body.count + 1
  | seq items => countAll 1 items
  | alt branches => countAll 1 branches
  | repetition body _ _ _ => body.count + 1
  | _ => 1

def countAll (n : Nat) : List Node → Nat
  | [] => n
  | item :: r => countAll (n + item.count) r

end

mutual

def same : Node → Node → Bool
  | empty, empty => true
  | text a, text b => a == b
  | .set a, .set b => a == b
  | look a, look b => a == b
  | group i a, group j b => i == j && a.same b
  | seq a, seq b => sameAll a b
  | alt a, alt b => sameAll a b
  | repetition a min max greedy, repetition b min' max' greedy' =>
    min == min' && max == max' && greedy == greedy' && a.same b
  | _, _ => false

def sameAll : List Node → List Node → Bool
  | [], [] => true
  | a :: as, b :: bs => a.same b && sameAll as bs
  | _, _ => false

end

/-! ## Normal forms -/

def ofSet (s : CharSet) : Node :=
  match s.single? with
  | some c => text [c]
  | none => set s

def items : Node → List Node
  | seq items => items
  | node => [node]

/-- An item before others; texts grow together. -/
def consItem : Node → List Node → List Node
  | empty, r => r
  | text a, text b :: r => text (a ++ b) :: r
  | item, r => item :: r

def sequence (nodes : List Node) : Node :=
  match (nodes.flatMap items).foldr consItem [] with
  | [] => empty
  | [node] => node
  | items => seq items

def branches : Node → List Node
  | alt branches => branches
  | node => [node]

def char? : Node → Option Char
  | text [c] => some c
  | _ => none

def set? : Node → Option CharSet
  | set s => some s
  | _ => none

def asSet? (bs : List Node) : Option CharSet :=
  match bs.mapM char? with
  | some cs => some (.ofPoints (cs.map Char.toNat))
  | none => (bs.mapM set?).map .unionAll

def sharedPart : List Node → List Node → List Node
  | a :: as, b :: bs => if a.same b then a :: sharedPart as bs else []
  | _, _ => []

def isSequence : Node → Bool
  | seq _ => true
  | _ => false

/-- What all branches begin with, if each is a sequence. -/
def sharedItems : List Node → List Node
  | [] => []
  | b :: bs =>
    if (b :: bs).all isSequence then bs.foldl (fun shared b => sharedPart shared b.items) b.items
    else []

/-- Alternatives of which what they all begin with is read once; `n` bounds how often that is
found. -/
def alternativesFrom : Nat → List Node → Node
  | 0, nodes => alt nodes
  | n + 1, nodes =>
    match nodes.flatMap branches with
    | [] => set .empty
    | [node] => node
    | bs =>
      match asSet? bs with
      | some s => ofSet s
      | none =>
        match sharedItems bs with
        | [] => alt bs
        | shared =>
          let rests := bs.map fun b => sequence (b.items.drop shared.length)
          sequence (shared ++ [alternativesFrom n rests])

def alternatives (nodes : List Node) : Node := alternativesFrom (countAll 1 nodes) nodes

/-- A repetition. What matches nothing but the empty text is repeated once at most. -/
def repeated (body : Node) (min : Nat) (max : Option Nat) (greedy : Bool) : Node :=
  let (min, max) :=
    if body.matchesNothing then (Nat.min min 1, some (Nat.min (max.getD 1) 1)) else (min, max)
  if max = some 0 then empty
  else if min = 1 ∧ max = some 1 then body
  else repetition body min max greedy

end Node

end Logline.Pattern
