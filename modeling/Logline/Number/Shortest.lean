import Logline.Number.Binary

/-! # Shortest decimals

The decimal with the fewest digits that rounds to a given number and, of those, the nearest to
it. The reals that round to `m · 2 ^ q` form an interval, which has its ends when `m` is even. On
the grid of decimals with one, two, … digits the two neighbours of the number are tried until one
lies in the interval.
-/

namespace Logline.Decimal

structure Number where
  digits : Nat
  exponent : Int
  deriving DecidableEq, Repr, Inhabited

/-- A number and the interval that rounds to it, in quarters of the spacing below it. -/
structure Rounding where
  value : Nat
  low : Nat
  high : Nat
  closed : Bool
  /-- One quarter is `2 ^ exponent`. -/
  exponent : Int

/-- The spacing below a power of two is half the one above it, the lowest exponent apart. -/
def Rounding.ofMagnitude (f : FloatFormat) (m : Nat) (q : Int) : Rounding where
  value := 4 * m
  low := if m = Nat.pow 2 f.fractionBits ∧ f.lowestExponent < q then 4 * m - 1 else 4 * m - 2
  high := 4 * m + 2
  closed := m % 2 == 0
  exponent := q - 2

/-- Quarters of `r` times `num`, over `den`, are multiples of `10 ^ unit`. -/
structure Grid where
  num : Nat
  den : Nat

def Rounding.grid (r : Rounding) (unit : Int) : Grid where
  num := (if r.exponent < 0 then 1 else Nat.pow 2 r.exponent.natAbs) *
    (if unit < 0 then Nat.pow 10 unit.natAbs else 1)
  den := (if r.exponent < 0 then Nat.pow 2 r.exponent.natAbs else 1) *
    (if unit < 0 then 1 else Nat.pow 10 unit.natAbs)

def Rounding.holds (r : Rounding) (g : Grid) (k : Nat) : Bool :=
  let point := k * g.den
  if r.closed then r.low * g.num ≤ point && point ≤ r.high * g.num
  else r.low * g.num < point && point < r.high * g.num

/-- The neighbour of the number on a grid that rounds to it, the nearer of two, the even one of
two as near. -/
def Rounding.pick? (r : Rounding) (g : Grid) : Option Nat :=
  let value := r.value * g.num
  let below := value / g.den
  let above := below + 1
  match r.holds g below, r.holds g above with
  | true, true =>
    let down := value - below * g.den
    let up := above * g.den - value
    if down < up then some below
    else if up < down then some above
    else if below % 2 = 0 then some below else some above
  | true, false => some below
  | false, true => some above
  | false, false => none

/-- The largest `e` with `10 ^ e` not above the number, for the numbers of both formats. -/
def Rounding.order (r : Rounding) : Int :=
  let guess : Int := ((r.value.log2 : Int) + r.exponent) * 78913 / 262144
  let reaches (e : Int) : Bool := (r.grid e).den ≤ r.value * (r.grid e).num
  if reaches (guess + 1) then guess + 1 else if reaches guess then guess else guess - 1

/-- Tries the grids from `unit` on, each ten times finer than the one before. -/
def Rounding.search (r : Rounding) : Nat → Int → Number
  | 0, unit => ⟨FloatFormat.roundDiv (r.value * (r.grid unit).num) (r.grid unit).den, unit⟩
  | n + 1, unit =>
    match r.pick? (r.grid unit) with
    | some k => ⟨k, unit⟩
    | none => r.search n (unit - 1)

def Number.trim : Nat → Number → Number
  | 0, d => d
  | n + 1, d => if d.digits % 10 = 0 then Number.trim n ⟨d.digits / 10, d.exponent + 1⟩ else d

def shortest (f : FloatFormat) (m : Nat) (q : Int) : Number :=
  let r := Rounding.ofMagnitude f m q
  (r.search 17 r.order).trim 17

end Logline.Decimal
