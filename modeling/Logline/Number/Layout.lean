import Logline.Number.Shortest

/-! # Decimal texts

How a shortest decimal is written: positional while its point stays within bounds, with an
exponent otherwise. Each output of the library has its own bounds, kept here as records.
-/

namespace Logline.Decimal

/-- A decimal whose point stands after `point` digits is written positionally iff
`lowest < point ≤ highest`. -/
structure Layout where
  lowest : Int
  highest : Int
  /-- What is written between `e` and an exponent that is not negative. -/
  plus : String
  nan : String
  infinity : Bool → String

namespace Layout

def double : Layout := ⟨-5, 16, "", "NaN", fun negative => if negative then "-Inf" else "+Inf"⟩

def single : Layout := ⟨-6, 13, "", "NaN", fun negative => if negative then "-Inf" else "+Inf"⟩

def json : Layout := ⟨-5, 16, "+", "null", fun _ => "null"⟩

def debug : Layout := ⟨-4, 16, "", "NaN", fun negative => if negative then "-inf" else "inf"⟩

def zeros (n : Nat) : List Char := List.replicate n '0'

def positional (digits : List Char) (exponent point : Int) : List Char :=
  if 0 ≤ exponent then digits ++ zeros exponent.toNat ++ ['.', '0']
  else if 0 < point then digits.take point.toNat ++ '.' :: digits.drop point.toNat
  else '0' :: '.' :: zeros (-point).toNat ++ digits

/-- One digit, the other digits after a point, and the exponent. -/
def scientific (plus : String) (digits : List Char) (point : Int) : List Char :=
  let power := point - 1
  digits.take 1 ++ (if digits.length = 1 then [] else '.' :: digits.drop 1) ++
    'e' :: (if 0 ≤ power then plus.toList else []) ++ (toString power).toList

def decimal (l : Layout) (d : Number) : List Char :=
  let digits := Nat.toDigits 10 d.digits
  let point := d.exponent + digits.length
  if l.lowest < point ∧ point ≤ l.highest then positional digits d.exponent point
  else scientific l.plus digits point

def finite (l : Layout) (f : FloatFormat) (m : Nat) (q : Int) : List Char :=
  if m = 0 then ['0', '.', '0'] else l.decimal (shortest f m q)

def text (l : Layout) (f : FloatFormat) (negative : Bool) : Magnitude → String
  | .nan => l.nan
  | .infinite => l.infinity negative
  | .finite m q => String.ofList ((if negative then ['-'] else []) ++ l.finite f m q)

end Layout

end Logline.Decimal

namespace Logline

def Binary64.text (x : Binary64) : String :=
  Decimal.Layout.double.text FloatFormat.double x.isNegative x.magnitude

def Binary32.text (x : Binary32) : String :=
  Decimal.Layout.single.text FloatFormat.single x.isNegative x.magnitude

end Logline
