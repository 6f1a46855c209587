import Logline.Pattern.Node

/-! # Pattern programs

A pattern as a program of numbered instructions. A split lists where to go on, the preferred way
first. A loop whose body may take nothing is entered through a split of its own, so that leaving it
is never preferred to a turn that was begun.
-/

namespace Logline.Pattern

inductive Instruction where
  | char (c : Char) (next : Nat)
  | set (s : CharSet) (next : Nat)
  | look (l : Look) (next : Nat)
  | save (slot next : Nat)
  | split (ways : List Nat)
  | accept
  deriving Inhabited

abbrev Program := Array Instruction

def ways (greedy : Bool) (more less : Nat) : List Nat :=
  if greedy then [more, less] else [less, more]

/-- `step` applied `n` times to where a program goes on. -/
def copies (step : Nat → Program → Nat × Program) : Nat → Nat → Program → Nat × Program
  | 0, next, p => (next, p)
  | n + 1, next, p =>
    let (start, p) := step next p
    copies step n start p

/-- Up to `n` optional turns; each may be left for `out`. -/
def optionals (step : Nat → Program → Nat × Program) (greedy : Bool) (out : Nat) :
    Nat → Nat → Program → Nat × Program
  | 0, next, p => (next, p)
  | n + 1, next, p =>
    let (start, p) := step next p
    optionals step greedy out n p.size (p.push (.split (ways greedy start out)))

/-- The instructions of a text, given last character first. -/
def compileText : List Char → Nat → Program → Nat × Program
  | [], next, p => (next, p)
  | c :: r, next, p => compileText r p.size (p.push (.char c next))

namespace Node

def takesSome (n : Node) : Bool := n.minSize?.any (0 < ·)

mutual

/-- Appends the instructions of a node that go on at `next`, and gives where they start. -/
def compile : Node → Nat → Program → Nat × Program
  | empty, next, p => (next, p)
  | text cs, next, p => compileText cs.reverse next p
  | .set s, next, p => (p.size, p.push (.set s next))
  | look l, next, p => (p.size, p.push (.look l next))
  | group index body, next, p =>
    let close := p.size
    let (start, p) := body.compile close (p.push (.save (2 * index + 1) next))
    (p.size, p.push (.save (2 * index) start))
  | seq items, next, p => compileAll items next p
  | alt branches, next, p =>
    let (starts, p) := compileEach branches next p
    (p.size, p.push (.split starts))
  | repetition body min (some max) greedy, next, p =>
    let (start, p) := optionals body.compile greedy next (max - min) next p
    copies body.compile min start p
  | repetition body min none greedy, next, p =>
    let loop := p.size
    let (start, p) := body.compile loop (p.push (.split []))
    let p := p.set! loop (.split (ways greedy start next))
    if min = 0 then
      if body.takesSome then (loop, p) else (p.size, p.push (.split (ways greedy start next)))
    else copies body.compile (min - 1) start p

def compileAll : List Node → Nat → Program → Nat × Program
  | [], next, p => (next, p)
  | item :: r, next, p =>
    let (middle, p) := compileAll r next p
    item.compile middle p

def compileEach : List Node → Nat → Program → List Nat × Program
  | [], _, p => ([], p)
  | b :: r, next, p =>
    let (start, p) := b.compile next p
    let (starts, p) := compileEach r next p
    (start :: starts, p)

end

def program (n : Node) : Nat × Program := n.compile 0 #[.accept]

end Node

end Logline.Pattern
