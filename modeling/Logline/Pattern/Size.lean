import Logline.Pattern.Encoding
import Logline.Pattern.Program
import Logline.Text.Utf8

/-! # Sizes of patterns

A pattern is refused if a matcher that reads byte by byte would be too large for it, in either
direction. The size of the matcher follows from the tree: every state takes the same room, and a
state with several ways to go on takes more for each of them.
-/

namespace Logline.Pattern

/-- The bytes that a matcher may take. -/
def sizeLimit : Nat := 10485760

def stateBytes : Nat := 32

/-- What a range of bytes adds to a state that has several, and what a way adds to a split. -/
def rangeBytes : Nat := 8

def wayBytes : Nat := 4

def splitBytes (ways : Nat) : Nat := stateBytes + ways * wayBytes

def choiceBytes (ranges : Nat) : Nat := stateBytes + ranges * rangeBytes

inductive Direction where
  | forward
  | backward
  deriving DecidableEq, Repr

/-- The bytes of the states of a node, and whether they end in a split, to which going on from
there adds a way. -/
structure Cost where
  bytes : Nat
  isOpen : Bool
  deriving DecidableEq, Repr

namespace Cost

def link (c : Cost) : Nat := if c.isOpen then wayBytes else 0

def closed (bytes : Nat) : Cost := ⟨bytes, false⟩

def append (a b : Cost) : Cost := ⟨a.bytes + a.link + b.bytes, b.isOpen⟩

def copies (c : Cost) : Nat → Cost
  | 0 => closed stateBytes
  | n + 1 => ⟨(n + 1) * c.bytes + n * c.link, c.isOpen⟩

/-- A group keeps where it begins and ends, but not when it is read backward. -/
def group (d : Direction) (body : Cost) : Cost :=
  match d with
  | .forward => closed (2 * stateBytes + body.bytes + body.link)
  | .backward => body

/-- A repetition, by whether a turn takes some character. -/
def repetition (body : Cost) (takesSome : Bool) : Nat → Option Nat → Cost
  | 0, none =>
    if takesSome then ⟨splitBytes 1 + body.bytes + body.link, true⟩
    else closed (body.bytes + body.link + 2 * splitBytes 2 + stateBytes)
  | 1, none => ⟨body.bytes + body.link + splitBytes 1, true⟩
  | n + 2, none => (body.copies (n + 1)).append ⟨body.bytes + body.link + splitBytes 1, true⟩
  | min, some max =>
    let turns := (max - min) * (splitBytes 2 + body.bytes + body.link)
    if min = max then body.copies min
    else if min = 0 ∧ max = 1 then closed (turns + stateBytes)
    else closed ((body.copies min).bytes + (body.copies min).link + stateBytes + turns)

end Cost

/-! ## Sets -/

/-- The states of a set. Read forward, equal continuations are shared; read backward, equal
beginnings are. -/
def CharSet.cost (d : Direction) (s : CharSet) : Nat :=
  if s.spans.all (·.last < 0x80) then stateBytes + choiceBytes s.spans.length
  else
    let es := s.encodings
    match d with
    | .forward =>
      (Encoding.continuations 4 es).eraseDups.foldl
        (fun n es => n + choiceBytes (Encoding.byHead es).length) stateBytes
    | .backward => stateBytes + splitBytes es.length + Encoding.beginnings 4 es * stateBytes

/-! ## Alternatives of texts -/

def splitAtEmpty : List (List UInt8) → List (List (List UInt8))
  | [] => [[]]
  | [] :: r => [] :: splitAtEmpty r
  | w :: r =>
    match splitAtEmpty r with
    | [] => [[w]]
    | chunk :: chunks => (w :: chunk) :: chunks

def joinEmpty : List (List UInt8) → List (List UInt8)
  | [] :: r => [] :: r.dropWhile List.isEmpty
  | ws => ws

/-- The states of a tree of texts in which beginnings are shared, but not over the end of another
text; `n` bounds the depth. -/
def treeBytes : Nat → List (List UInt8) → Nat
  | 0, _ => 0
  | n + 1, words =>
    if words.all List.isEmpty then 0
    else
      match words with
      | [w] => w.length * (stateBytes + splitBytes 1)
      | words =>
        let chunks := splitAtEmpty (joinEmpty words)
        let filled := chunks.filter (!·.isEmpty)
        filled.foldl (fun bytes chunk =>
          let heads := (chunk.filterMap List.head?).eraseDups
          heads.foldl (fun bytes h =>
            bytes + treeBytes n ((chunk.filter (·.head? == some h)).map List.tail))
            (bytes + if heads.length = 1 then stateBytes else choiceBytes heads.length))
          (splitBytes (filled.length + (chunks.length - 1)))

def textsCost (d : Direction) (texts : List (List Char)) : Cost :=
  let words := texts.map fun cs =>
    let bytes := Text.utf8 (String.ofList cs)
    if d = .forward then bytes else bytes.reverse
  .closed (stateBytes + treeBytes ((words.map List.length).foldl Nat.max 0 + 1) words)

/-! ## Nodes -/

namespace Node

def text? : Node → Option (List Char)
  | text cs => some cs
  | _ => none

mutual

def cost (d : Direction) : Node → Cost
  | empty => .closed stateBytes
  | text cs => .closed (cs.foldl (fun n c => n + charSize c.toNat) 0 * stateBytes)
  | .set s => .closed (s.cost d)
  | look _ => .closed stateBytes
  | group _ body => (body.cost d).group d
  | seq items => (seqCost d none items).getD (.closed stateBytes)
  | alt branches =>
    match branches.mapM text? with
    | some texts => textsCost d texts
    | none => .closed (altCost d (splitBytes branches.length + stateBytes) branches)
  | repetition body min max _ => (body.cost d).repetition body.takesSome min max

def seqCost (d : Direction) (before : Option Cost) : List Node → Option Cost
  | [] => before
  | item :: r =>
    let c := item.cost d
    let joined :=
      match before, d with
      | none, _ => c
      | some b, .forward => b.append c
      | some b, .backward => c.append b
    seqCost d (some joined) r

def altCost (d : Direction) (n : Nat) : List Node → Nat
  | [] => n
  | b :: r =>
    let c := b.cost d
    altCost d (n + c.bytes + c.link) r

end

mutual

/-- Whether a match can only be where the position satisfies `l`, at its first end in the direction
of reading. -/
def isBoundTo (l : Look) (d : Direction) : Node → Bool
  | look l' => l == l'
  | group _ body => body.isBoundTo l d
  | seq items => seqIsBound l d false items
  | alt branches => allBound l d branches
  | repetition body min _ _ => 0 < min && body.isBoundTo l d
  | _ => false

/-- Only the items up to the first one that takes something are at that end. -/
def seqIsBound (l : Look) (d : Direction) (bound : Bool) : List Node → Bool
  | [] => bound
  | item :: r =>
    let here := item.isBoundTo l d
    match d with
    | .forward => bound || here || (item.matchesNothing && seqIsBound l d bound r)
    | .backward => seqIsBound l d (here || (item.matchesNothing && bound)) r

def allBound (l : Look) (d : Direction) : List Node → Bool
  | [] => true
  | b :: r => b.isBoundTo l d && allBound l d r

end

/-- The states that skip to the place of a match: none are needed if it is at the end of the
text. -/
def skipBytes (bound : Bool) : Nat :=
  if bound then stateBytes else splitBytes 2 + stateBytes + choiceBytes 1

def size (d : Direction) (n : Node) : Nat :=
  let whole := (n.cost d).group d
  let l := if d = .forward then Look.textStart else Look.textEnd
  whole.bytes + whole.link + stateBytes + skipBytes (n.isBoundTo l d)

def isManyTexts : Node → Bool
  | alt branches => 3000 ≤ branches.length && branches.all fun b => (text? b).isSome
  | _ => false

/-- Whether matchers of the node are small enough. A great many texts are looked up without one. -/
def fits (n : Node) : Bool :=
  n.isManyTexts || ([Direction.forward, .backward].all fun d => n.size d ≤ sizeLimit)

end Node

end Logline.Pattern
