import Logline.Text.Category
import Logline.Text.CaseTable

/-! # Character sets of patterns

A set of characters as spans of code points in increasing order. Spans that touch are joined, but
not over the gap of the surrogates, which are no characters.
-/

namespace Logline.Pattern

structure Span where
  first : Nat
  last : Nat
  deriving DecidableEq, Repr, Inhabited

namespace Span

def lastPoint : Nat := 0x10ffff

def next (n : Nat) : Nat := if n = 0xd7ff then 0xe000 else n + 1

def previous (n : Nat) : Nat := if n = 0xe000 then 0xd7ff else n - 1

def between (a b : Nat) : Span := ⟨min a b, max a b⟩

def contains (s : Span) (n : Nat) : Bool := s.first ≤ n && n ≤ s.last

def meet? (s t : Span) : Option Span :=
  let common : Span := ⟨max s.first t.first, min s.last t.last⟩
  if common.first ≤ common.last then some common else none

theorem contains_iff (s : Span) (n : Nat) : s.contains n = true ↔ s.first ≤ n ∧ n ≤ s.last := by
  simp [contains]

/-- What is left of a span without those of an ordered list. -/
def without (s : Span) : List Span → List Span
  | [] => [s]
  | t :: ts =>
    if t.last < s.first then s.without ts
    else if s.last < t.first then [s]
    else
      (if s.first < t.first then [⟨s.first, previous t.first⟩] else []) ++
        if t.last < s.last then without ⟨next t.last, s.last⟩ ts else []

/-- Joins neighbours of an ordered list that touch or overlap; `s` is the one that grows. -/
def joinOnto (s : Span) : List Span → List Span
  | [] => [s]
  | t :: ts =>
    if t.first ≤ s.last + 1 then joinOnto ⟨s.first, max s.last t.last⟩ ts else s :: joinOnto t ts

def isBefore (s t : Span) : Bool := s.first < t.first || (s.first == t.first && s.last ≤ t.last)

/-- The spans between those of an ordered list, after one that ends at `last`. -/
def gapsAfter (last : Nat) : List Span → List Span
  | [] => if last < lastPoint then [⟨next last, lastPoint⟩] else []
  | s :: r => between (next last) (previous s.first) :: gapsAfter s.last r

def anyContains (n : Nat) : List Span → Bool
  | [] => false
  | s :: r => s.first ≤ n && (n ≤ s.last || anyContains n r)

end Span

structure CharSet where
  spans : List Span
  deriving DecidableEq, Repr

namespace CharSet

def empty : CharSet := ⟨[]⟩

instance : Inhabited CharSet := ⟨empty⟩

def ofSpans (spans : List Span) : CharSet :=
  match spans.mergeSort Span.isBefore with
  | [] => empty
  | s :: r => ⟨s.joinOnto r⟩

def full : CharSet := ⟨[⟨0, Span.lastPoint⟩]⟩

def single (c : Char) : CharSet := ⟨[⟨c.toNat, c.toNat⟩]⟩

def range (a b : Char) : CharSet := ⟨[⟨a.toNat, b.toNat⟩]⟩

def ofPoints (ns : List Nat) : CharSet := ofSpans (ns.map fun n => ⟨n, n⟩)

def ofPairs (pairs : List (Nat × Nat)) : CharSet := ofSpans (pairs.map fun (a, b) => ⟨a, b⟩)

def contains (a : CharSet) (c : Char) : Bool := Span.anyContains c.toNat a.spans

def isEmpty (a : CharSet) : Bool := a.spans.isEmpty

def single? (a : CharSet) : Option Char :=
  match a.spans with
  | [s] => if s.first = s.last then some (Char.ofNat s.first) else none
  | _ => none

def union (a b : CharSet) : CharSet := ofSpans (a.spans ++ b.spans)

def unionAll (sets : List CharSet) : CharSet := ofSpans (sets.flatMap spans)

def inter (a b : CharSet) : CharSet := ⟨a.spans.flatMap fun s => b.spans.filterMap s.meet?⟩

def diff (a b : CharSet) : CharSet := ⟨a.spans.flatMap (·.without b.spans)⟩

def symmDiff (a b : CharSet) : CharSet := (a.union b).diff (a.inter b)

/-- All other characters. Where only the gap of the surrogates lies between two spans, its borders
are taken for the characters between them. -/
def compl (a : CharSet) : CharSet :=
  match a.spans with
  | [] => full
  | s :: r =>
    ⟨(if 0 < s.first then [⟨0, Span.previous s.first⟩] else []) ++ Span.gapsAfter s.last r⟩

instance : Union CharSet := ⟨union⟩

instance : SDiff CharSet := ⟨diff⟩

instance : Inter CharSet := ⟨inter⟩

theorem contains_empty (c : Char) : empty.contains c = false := rfl

theorem contains_single (a c : Char) : (single a).contains c = (a.toNat == c.toNat) := by
  simp only [contains, single, Span.anyContains, Bool.or_false]
  rw [Bool.eq_iff_iff]
  simp only [Bool.and_eq_true, decide_eq_true_eq, beq_iff_eq]
  omega

/-! ## Runs -/

def spansOfRun (r : Text.Run) : List Span :=
  if r.stride ≤ 1 then [⟨r.first, r.last⟩]
  else (List.range ((r.last - r.first) / r.stride + 1)).map fun i =>
    ⟨r.first + i * r.stride, r.first + i * r.stride⟩

def ofRuns (runs : List Text.Run) : CharSet := ofSpans (runs.flatMap spansOfRun)

/-! ## Letter case -/

/-- The code points of a case run whose sources or targets, by `side`, are in a set. -/
def foldHits (side : Text.CaseRun → Nat) (a : CharSet) (r : Text.CaseRun) : List Nat :=
  let length := r.last - r.first
  a.spans.flatMap fun s =>
    let low := s.first - side r
    if s.last < side r ∨ length < low then []
    else (List.range (min length (s.last - side r) + 1 - low)).filterMap fun i =>
      if (low + i) % r.stride = 0 then some (low + i) else none

def foldTargets (a : CharSet) : List Nat :=
  Text.foldRuns.flatMap fun r => (a.foldHits (·.first) r).map (r.target + ·)

def foldSources (a : CharSet) : List Nat :=
  Text.foldRuns.flatMap fun r => (a.foldHits (·.target) r).map (r.first + ·)

/-- Adds to every character those that differ from it in case only. -/
def foldCase (a : CharSet) : CharSet :=
  let targets := a ∪ ofPoints a.foldTargets
  targets ∪ ofPoints targets.foldSources

/-- The spans of `a` inside `s`, moved so that `s` would start at `target`. -/
def shift (a : CharSet) (s : Span) (target : Nat) : CharSet :=
  ⟨(a.spans.filterMap s.meet?).map fun t =>
    ⟨t.first - s.first + target, t.last - s.first + target⟩⟩

/-- As `foldCase`, among the letters of ASCII. -/
def foldAscii (a : CharSet) : CharSet :=
  a ∪ a.shift ⟨0x41, 0x5a⟩ 0x61 ∪ a.shift ⟨0x61, 0x7a⟩ 0x41

/-! ## ASCII classes -/

def asciiDigit : CharSet := range '0' '9'

def asciiSpace : CharSet := ofPairs [(9, 13), (0x20, 0x20)]

def asciiWord : CharSet := ofPairs [(0x30, 0x39), (0x41, 0x5a), (0x5f, 0x5f), (0x61, 0x7a)]

def posixClasses : List (String × CharSet) := [
  ("alnum", ofPairs [(0x30, 0x39), (0x41, 0x5a), (0x61, 0x7a)]),
  ("alpha", ofPairs [(0x41, 0x5a), (0x61, 0x7a)]), ("ascii", ofPairs [(0, 0x7f)]),
  ("blank", ofPoints [9, 0x20]), ("cntrl", ofPairs [(0, 0x1f), (0x7f, 0x7f)]),
  ("digit", asciiDigit), ("graph", ofPairs [(0x21, 0x7e)]), ("lower", range 'a' 'z'),
  ("print", ofPairs [(0x20, 0x7e)]),
  ("punct", ofPairs [(0x21, 0x2f), (0x3a, 0x40), (0x5b, 0x60), (0x7b, 0x7e)]),
  ("space", asciiSpace), ("upper", range 'A' 'Z'), ("word", asciiWord),
  ("xdigit", ofPairs [(0x30, 0x39), (0x41, 0x46), (0x61, 0x66)])]

end CharSet

end Logline.Pattern
