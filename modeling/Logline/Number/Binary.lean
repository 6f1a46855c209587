/-! # Binary floating point

Numbers in the interchange formats of 64 and 32 bits, kept as their bits. `FloatFormat.decode`
gives the magnitude `m · 2 ^ q` that the bits denote and `FloatFormat.round` the bits nearest to a
quotient, the even ones on a tie. Comparison follows the bits: a NaN equals nothing, and the two
zeros are equal.
-/

namespace Logline

structure FloatFormat where
  fractionBits : Nat
  exponentBits : Nat

namespace FloatFormat

def double : FloatFormat := ⟨52, 11⟩

def single : FloatFormat := ⟨23, 8⟩

/-- The exponent of the smallest spacing of the format. -/
def lowestExponent (f : FloatFormat) : Int := 2 - Nat.pow 2 (f.exponentBits - 1) - f.fractionBits

end FloatFormat

inductive Magnitude where
  | nan
  | infinite
  | finite (m : Nat) (q : Int)
  deriving DecidableEq, Repr, Inhabited

namespace FloatFormat

def isNegative (f : FloatFormat) (bits : Nat) : Bool :=
  bits / Nat.pow 2 (f.fractionBits + f.exponentBits) % 2 == 1

def decode (f : FloatFormat) (bits : Nat) : Magnitude :=
  let fraction := bits % Nat.pow 2 f.fractionBits
  let field := bits / Nat.pow 2 f.fractionBits % Nat.pow 2 f.exponentBits
  if field + 1 = Nat.pow 2 f.exponentBits then
    if fraction = 0 then .infinite else .nan
  else if field = 0 then .finite fraction f.lowestExponent
  else .finite (fraction + Nat.pow 2 f.fractionBits) (f.lowestExponent + field - 1)

def infinityBits (f : FloatFormat) : Nat :=
  (Nat.pow 2 f.exponentBits - 1) * Nat.pow 2 f.fractionBits

def signBits (f : FloatFormat) (negative : Bool) : Nat :=
  if negative then Nat.pow 2 (f.fractionBits + f.exponentBits) else 0

/-- `num / den` rounded to a whole number, the even one on a tie. -/
def roundDiv (num den : Nat) : Nat :=
  let floor := num / den
  let twice := 2 * (num % den)
  if twice < den then floor
  else if den < twice then floor + 1
  else if floor % 2 = 0 then floor else floor + 1

/-- `num / den · 2 ^ (-q)` as a quotient of whole numbers. -/
def scale (num den : Nat) (q : Int) : Nat × Nat :=
  if q < 0 then (num * Nat.pow 2 q.natAbs, den) else (num, den * Nat.pow 2 q.natAbs)

/-- The bits of the magnitude nearest to `num / den`; what is too large is infinite. -/
def roundMagnitude (f : FloatFormat) (num den : Nat) : Nat :=
  if num = 0 ∨ den = 0 then 0 else
  let guess : Int := (num.log2 : Int) - (den.log2 : Int) - f.fractionBits
  let scaled := scale num den guess
  let exact := if scaled.1 / scaled.2 < Nat.pow 2 f.fractionBits then guess - 1 else guess
  let q := max exact f.lowestExponent
  let final := scale num den q
  let bits := (q - f.lowestExponent).toNat * Nat.pow 2 f.fractionBits + roundDiv final.1 final.2
  min bits f.infinityBits

end FloatFormat

structure Binary64 where
  bits : UInt64
  deriving DecidableEq, Repr, Inhabited

structure Binary32 where
  bits : UInt32
  deriving DecidableEq, Repr, Inhabited

def FloatFormat.equal (f : FloatFormat) (a b : Nat) : Bool :=
  match f.decode a, f.decode b with
  | .nan, _ => false
  | _, .nan => false
  | .finite 0 _, .finite 0 _ => true
  | _, _ => a == b

namespace Binary64

def isNegative (x : Binary64) : Bool := FloatFormat.double.isNegative x.bits.toNat

def magnitude (x : Binary64) : Magnitude := FloatFormat.double.decode x.bits.toNat

def equal (x y : Binary64) : Bool := FloatFormat.double.equal x.bits.toNat y.bits.toNat

def isFinite (x : Binary64) : Bool :=
  match x.magnitude with
  | .finite .. => true
  | _ => false

def isNaN (x : Binary64) : Bool := x.magnitude == .nan

def isInfinite (x : Binary64) : Bool := x.magnitude == .infinite

def isZero (x : Binary64) : Bool :=
  match x.magnitude with
  | .finite 0 _ => true
  | _ => false

def ofRatio (negative : Bool) (num den : Nat) : Binary64 :=
  ⟨UInt64.ofNat (FloatFormat.double.signBits negative +
    FloatFormat.double.roundMagnitude num den)⟩

def ofNat (n : Nat) : Binary64 := ofRatio false n 1

def nan : Binary64 := ⟨0x7ff8000000000000⟩

def infinity (negative : Bool) : Binary64 :=
  ⟨UInt64.ofNat (FloatFormat.double.signBits negative + FloatFormat.double.infinityBits)⟩

def neg (x : Binary64) : Binary64 := ⟨x.bits ^^^ 0x8000000000000000⟩

def mul (x y : Binary64) : Binary64 :=
  let negative := x.isNegative != y.isNegative
  match x.magnitude, y.magnitude with
  | .nan, _ => nan
  | _, .nan => nan
  | .infinite, .finite 0 _ => nan
  | .finite 0 _, .infinite => nan
  | .infinite, _ => infinity negative
  | _, .infinite => infinity negative
  | .finite m p, .finite n q =>
    let scaled := FloatFormat.scale (m * n) 1 (-(p + q))
    ofRatio negative scaled.1 scaled.2

def div (x y : Binary64) : Binary64 :=
  let negative := x.isNegative != y.isNegative
  match x.magnitude, y.magnitude with
  | .nan, _ => nan
  | _, .nan => nan
  | .infinite, .infinite => nan
  | .infinite, _ => infinity negative
  | _, .infinite => ofRatio negative 0 1
  | .finite 0 _, .finite 0 _ => nan
  | .finite _ _, .finite 0 _ => infinity negative
  | .finite m p, .finite n q =>
    let scaled := FloatFormat.scale m n (q - p)
    ofRatio negative scaled.1 scaled.2

end Binary64

namespace Binary32

def isNegative (x : Binary32) : Bool := FloatFormat.single.isNegative x.bits.toNat

def magnitude (x : Binary32) : Magnitude := FloatFormat.single.decode x.bits.toNat

def equal (x y : Binary32) : Bool := FloatFormat.single.equal x.bits.toNat y.bits.toNat

def isFinite (x : Binary32) : Bool :=
  match x.magnitude with
  | .finite .. => true
  | _ => false

def isNaN (x : Binary32) : Bool := x.magnitude == .nan

def isInfinite (x : Binary32) : Bool := x.magnitude == .infinite

end Binary32

end Logline
