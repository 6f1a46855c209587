/-! # Instants and spans of time

An instant counts seconds from the start of 1970 in universal time. Its nanoseconds go past one
second within a leap second. A span has a short text in the largest fitting unit.
-/

namespace Logline

structure Instant where
  seconds : Int
  nanos : Nat
  deriving DecidableEq, Repr, Inhabited

def Instant.epoch : Instant := ⟨0, 0⟩

def Instant.millis (t : Instant) : Int := t.seconds * 1000 + t.nanos / 1000000

def Instant.micros (t : Instant) : Int := t.seconds * 1000000 + t.nanos / 1000

structure Zone where
  offset : Int
  name : String
  deriving Inhabited

def Zone.universal : Zone := ⟨0, "UTC"⟩

structure Duration where
  seconds : Nat
  nanos : Nat
  deriving DecidableEq, Repr, Inhabited

def zeroPadded (width n : Nat) : String :=
  let digits := Nat.toDigits 10 n
  String.ofList (List.replicate (width - digits.length) '0' ++ digits)

/-- The digits of `part` out of `10 ^ width` after the point, without zeros at the end. -/
def fractionDigits (width part : Nat) : String :=
  String.ofList ((zeroPadded width part).toList.reverse.dropWhile (· == '0')).reverse

namespace Duration

/-- A whole part, a fraction of `width` digits and the unit. -/
def parts (d : Duration) : Nat × Nat × Nat × String :=
  if 0 < d.seconds then (d.seconds, d.nanos, 9, "s")
  else if 1000000 ≤ d.nanos then (d.nanos / 1000000, d.nanos % 1000000, 6, "ms")
  else if 1000 ≤ d.nanos then (d.nanos / 1000, d.nanos % 1000, 3, "µs")
  else (d.nanos, 0, 0, "ns")

def pieces (d : Duration) : List String :=
  let (whole, part, width, unit) := d.parts
  if part = 0 then [toString whole, unit]
  else [toString whole, ".", fractionDigits width part, unit]

def text (d : Duration) : String := d.pieces.foldl (· ++ ·) ""

end Duration

end Logline
