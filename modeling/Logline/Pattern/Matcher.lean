import Logline.Pattern.Program
import Logline.Pattern.Reader

/-! # Matching

All threads of a program advance together, in the order of preference; a thread that would stand
where an earlier one stands is dropped. The first match begins as early as possible, and among
those it is the preferred one.
-/

namespace Logline.Pattern

/-- A place in a text: its position, the character before it and the text that follows. -/
structure Spot where
  position : Nat
  before : Option Char
  rest : List Char

def Spot.skip : Nat → Spot → Spot
  | 0, s => s
  | n + 1, s =>
    match s.rest with
    | [] => s
    | c :: r => Spot.skip n ⟨s.position + 1, some c, r⟩

def wordAt (ascii : Bool) : Option Char → Bool
  | none => false
  | some c => if ascii then CharSet.asciiWord.contains c else CharSet.word.contains c

def Look.holds (l : Look) (s : Spot) : Bool :=
  let after := s.rest.head?
  match l with
  | .textStart => s.before.isNone
  | .textEnd => after.isNone
  | .lineStart returns =>
    match s.before with
    | none => true
    | some c => c == '\n' || (returns && c == '\r' && after != some '\n')
  | .lineEnd returns =>
    match after with
    | none => true
    | some c =>
      if returns then c == '\r' || (c == '\n' && s.before != some '\r') else c == '\n'
  | .wordBoundary ascii => wordAt ascii s.before != wordAt ascii after
  | .notWordBoundary ascii => wordAt ascii s.before == wordAt ascii after
  | .wordStart ascii => !wordAt ascii s.before && wordAt ascii after
  | .wordEnd ascii => wordAt ascii s.before && !wordAt ascii after
  | .wordStartHalf ascii => !wordAt ascii s.before
  | .wordEndHalf ascii => !wordAt ascii after

abbrev Slots := List (Nat × Nat)

structure Thread where
  pc : Nat
  slots : Slots
  deriving Inhabited

/-- The threads found at a place, the last one first, and the instructions that were visited. -/
structure Found where
  visited : Array Bool
  threads : List Thread

/-- Follows the instructions that take no character, from the threads in `todo` in their order; `n`
bounds their number. -/
def follow (p : Program) (s : Spot) : Nat → List Thread → Found → Found
  | 0, _, found => found
  | _, [], found => found
  | n + 1, t :: todo, found =>
    if found.visited.getD t.pc true then follow p s n todo found
    else
      let found := { found with visited := found.visited.set! t.pc true }
      match p.getD t.pc .accept with
      | .look l next => follow p s n (if l.holds s then ⟨next, t.slots⟩ :: todo else todo) found
      | .save slot next =>
        let slots := (slot, s.position) :: t.slots.filter (·.1 != slot)
        follow p s n (⟨next, slots⟩ :: todo) found
      | .split ways => follow p s n (ways.map (⟨·, t.slots⟩) ++ todo) found
      | _ => follow p s n todo { found with threads := t :: found.threads }

/-- How many threads are met at one place at most: each instruction is followed once. -/
def Program.ways (p : Program) : Nat :=
  p.foldl (fun n i =>
    match i with
    | .split ways => n + ways.length
    | _ => n + 1) 0

/-- The threads before the first one that accepts, and the slots of that one. -/
def cutAtAccept (p : Program) : List Thread → List Thread × Option Slots
  | [] => ([], none)
  | t :: r =>
    match p.getD t.pc .accept with
    | .accept => ([], some t.slots)
    | _ => let (kept, best) := cutAtAccept p r; (t :: kept, best)

def advance (p : Program) (c : Char) (threads : List Thread) : List Thread :=
  threads.filterMap fun t =>
    match p.getD t.pc .accept with
    | .char c' next => if c = c' then some ⟨next, t.slots⟩ else none
    | .set set next => if set.contains c then some ⟨next, t.slots⟩ else none
    | _ => none

structure Regex where
  expression : Expression
  start : Nat
  program : Program
  ways : Nat
  deriving Inhabited

/-- Runs the threads over the rest of a text; a new one starts at every place until a match is
found. -/
def Regex.run (r : Regex) :
    List Char → Option Char → Nat → List Thread → Option Slots → Option Slots
  | rest, before, position, threads, best =>
    let pending := if best.isNone then threads ++ [⟨r.start, []⟩] else threads
    let found := follow r.program ⟨position, before, rest⟩ (r.ways + pending.length) pending
      ⟨Array.replicate r.program.size false, []⟩
    let (active, accepted) := cutAtAccept r.program found.threads.reverse
    let best := accepted.or best
    match rest with
    | [] => best
    | c :: rest =>
      let next := advance r.program c active
      if next.isEmpty ∧ best.isSome then best else r.run rest (some c) (position + 1) next best

namespace Regex

def read? (s : String) : Option Regex :=
  (Expression.read? s).map fun e =>
    let (start, program) := e.node.program
    ⟨e, start, program, program.ways⟩

def matchFrom (r : Regex) (s : Spot) : Option Slots :=
  r.run s.rest s.before s.position [] none

/-- The matches of a text from left to right, with `n` bounding their number. A match of nothing
at the end of the match before it is passed over by one character. -/
def matchesFrom (r : Regex) : Nat → Spot → Option Nat → List Slots
  | 0, _, _ => []
  | n + 1, s, lastEnd =>
    let bounds (slots : Slots) : Nat × Nat :=
      ((slots.lookup 0).getD s.position, (slots.lookup 1).getD s.position)
    match r.matchFrom s with
    | none => []
    | some slots =>
      let (first, last) := bounds slots
      if first = last ∧ lastEnd = some last then
        match s.rest with
        | [] => []
        | c :: rest =>
          let next : Spot := ⟨s.position + 1, some c, rest⟩
          match r.matchFrom next with
          | none => []
          | some slots =>
            let (_, last) := bounds slots
            slots :: matchesFrom r n (next.skip (last - next.position)) (some last)
      else slots :: matchesFrom r n (s.skip (last - s.position)) (some last)

def matchesOf (r : Regex) (cs : List Char) : List Slots :=
  r.matchesFrom (cs.length + 2) ⟨0, none, cs⟩ none

end Regex

end Logline.Pattern
