import Logline.Pattern.CharSet

/-! # Encodings of sets

The characters of a set as sequences of byte ranges: a sequence stands for all encodings that take
one byte of each range. Characters of one span need several sequences where their encodings differ
in length or where the bytes after the first do not range freely.
-/

namespace Logline.Pattern

/-- Ranges of bytes, one after the other. -/
abbrev Encoding := List Span

namespace Encoding

/-- The numbers from `lo` to `hi` by the ranges of their digits, `k` of them to the base of 64
after a first one that may be greater. -/
def ofDigits : Nat → Nat → Nat → List Encoding
  | 0, lo, hi => [[⟨lo, hi⟩]]
  | k + 1, lo, hi =>
    let unit := Nat.pow 64 (k + 1)
    let a := lo / unit
    let b := hi / unit
    let fullLow := lo % unit = 0
    let fullHigh := hi % unit = unit - 1
    let led (digit lo hi : Nat) : List Encoding := (ofDigits k lo hi).map (⟨digit, digit⟩ :: ·)
    let free (a b : Nat) : Encoding := ⟨a, b⟩ :: List.replicate (k + 1) ⟨0, 63⟩
    if fullLow ∧ fullHigh then [free a b]
    else if a = b then led a (lo % unit) (hi % unit)
    else
      let from_ := if fullLow then a else a + 1
      let until_ := if fullHigh then b + 1 else b
      (if fullLow then [] else led a (lo % unit) (unit - 1)) ++
        (if from_ < until_ then [free from_ (until_ - 1)] else []) ++
        if fullHigh then [] else led b 0 (hi % unit)

/-- Spans of characters with encodings of one length, the number of bytes after the first, and the
mark of a first byte. -/
def lengths : List (Span × Nat × Nat) :=
  [(⟨0, 0x7f⟩, 0, 0), (⟨0x80, 0x7ff⟩, 1, 0xc0), (⟨0x800, 0xd7ff⟩, 2, 0xe0),
    (⟨0xe000, 0xffff⟩, 2, 0xe0), (⟨0x10000, Span.lastPoint⟩, 3, 0xf0)]

def shift (n : Nat) (s : Span) : Span := ⟨s.first + n, s.last + n⟩

def mark (lead : Nat) : Encoding → Encoding
  | [] => []
  | first :: rest => shift lead first :: rest.map (shift 0x80)

def ofSpan (s : Span) : List Encoding :=
  lengths.flatMap fun (span, more, lead) =>
    match s.meet? span with
    | some s => (ofDigits more s.first s.last).map (mark lead)
    | none => []

/-- Encodings by what they begin with, where those that begin alike are neighbours. -/
def byHead : List Encoding → List (Span × List Encoding)
  | [] => []
  | [] :: es => byHead es
  | (h :: t) :: es =>
    match byHead es with
    | [] => [(h, [t])]
    | (h', ts) :: groups =>
      if h = h' then (h, t :: ts) :: groups else (h, [t]) :: (h', ts) :: groups

def beginnings : Nat → List Encoding → Nat
  | 0, _ => 0
  | n + 1, es => (byHead es).foldl (fun k (_, tails) => k + 1 + beginnings n tails) 0

/-- What may follow after a beginning, also the empty one. -/
def continuations : Nat → List Encoding → List (List Encoding)
  | 0, _ => []
  | n + 1, es =>
    if es.all List.isEmpty then []
    else es :: (byHead es).flatMap fun (_, tails) => continuations n tails

end Encoding

def CharSet.encodings (s : CharSet) : List Encoding := s.spans.flatMap Encoding.ofSpan

end Logline.Pattern
