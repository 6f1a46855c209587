/-! # Names for unnamed loggers

A logger without a name gets one that is made up from a number: a fixed word and eight characters.
Different numbers below 62⁸ give different names. Where texts are compared, the eight characters
are masked.
-/

namespace Logline.Naming

def suffixLength : Nat := 8

def digit (n : Nat) : Char :=
  if n < 10 then Char.ofNat (48 + n)
  else if n < 36 then Char.ofNat (55 + n)
  else Char.ofNat (61 + n)

/-- The last `length` digits of a number, the last one first. -/
def suffix : Nat → Nat → List Char
  | 0, _ => []
  | length + 1, n => digit (n % 62) :: suffix length (n / 62)

def stem : String := "logger-"

def madeUp (n : Nat) : String := stem ++ String.ofList (suffix suffixLength n)

/-- The first number from `n` on, among `tries`, whose name is free. -/
def firstFree (taken : String → Bool) : Nat → Nat → Nat
  | 0, n => n
  | tries + 1, n => if taken (madeUp n) then firstFree taken tries (n + 1) else n

/-- What a text goes on with after the word and eight letters or figures. -/
def afterName? (cs : List Char) : Option (List Char) :=
  let rest := cs.drop stem.length
  if stem.toList.isPrefixOf cs && (rest.take suffixLength).length == suffixLength &&
      (rest.take suffixLength).all (·.isAlphanum) then some (rest.drop suffixLength)
  else none

/-- Masks the names in the first `fuel` places of a text. -/
def maskFrom : Nat → List Char → List Char
  | 0, cs => cs
  | _, [] => []
  | fuel + 1, c :: cs =>
    match afterName? (c :: cs) with
    | some rest => stem.toList ++ List.replicate suffixLength '?' ++ maskFrom fuel rest
    | none => c :: maskFrom fuel cs

def mask (s : String) : String := String.ofList (maskFrom s.length s.toList)

end Logline.Naming
