import Logline.Json.Raw
import Logline.Number.Layout

/-! # JSON values

Values as documents denote them. Members are sorted by key and the last of two members with one
key stays. A whole number of 64 bits keeps its digits; every other number is binary, computed from
its leading digits as far as they fit into 64 bits and a power of ten.
-/

namespace Logline

inductive Json where
  | null
  | bool (b : Bool)
  | natural (n : Nat)
  /-- A whole number below zero. -/
  | negative (n : Int)
  | float (x : Binary64)
  | string (s : String)
  | array (items : List Json)
  | object (members : List (String × Json))
  deriving Repr, Inhabited

namespace Json

mutual

/-- Equality of values; a whole number never equals a binary one. -/
def equal : Json → Json → Bool
  | .null, .null => true
  | .bool a, .bool b => a == b
  | .natural a, .natural b => a == b
  | .negative a, .negative b => a == b
  | .float a, .float b => a.equal b
  | .string a, .string b => a == b
  | .array a, .array b => equalItems a b
  | .object a, .object b => equalMembers a b
  | _, _ => false

def equalItems : List Json → List Json → Bool
  | [], [] => true
  | a :: as, b :: bs => equal a b && equalItems as bs
  | _, _ => false

def equalMembers : List (String × Json) → List (String × Json) → Bool
  | [], [] => true
  | (k, a) :: as, (l, b) :: bs => k == l && equal a b && equalMembers as bs
  | _, _ => false

end

/-! ## Numbers -/

def significandBound : Nat := Nat.pow 2 64

/-- Appends digits to a significand while it fits, and gives the digits that are left. -/
def accumulate (significand : Nat) : List Nat → Nat × List Nat
  | [] => (significand, [])
  | d :: ds =>
    if significand * 10 + d < significandBound then accumulate (significand * 10 + d) ds
    else (significand, d :: ds)

def powerOfTen (n : Nat) : Binary64 := Binary64.ofNat (Nat.pow 10 n)

/-- `x · 10 ^ exponent`, in steps that stay within the table of powers; none when too large. -/
def scaleByTen : Nat → Binary64 → Int → Option Binary64
  | 0, x, _ => some x
  | n + 1, x, exponent =>
    if exponent.natAbs ≤ 308 then
      if 0 ≤ exponent then
        let y := x.mul (powerOfTen exponent.natAbs)
        if y.isInfinite then none else some y
      else some (x.div (powerOfTen exponent.natAbs))
    else if x.isZero then some x
    else if 0 ≤ exponent then none
    else scaleByTen n (x.div (powerOfTen 308)) (exponent + 308)

def largestExponent : Nat := Nat.pow 2 31 - 1

def exponentOf (digits : List Nat) : Option Nat :=
  let n := digits.foldl (fun n d => if n ≤ largestExponent then n * 10 + d else n) 0
  if n ≤ largestExponent then some n else none

/-- The binary number of a significand and an exponent. A power far below the smallest number
gives zero after a bounded number of steps. -/
def binaryOf (negative : Bool) (significand : Nat) (exponent : Int) : Option Json :=
  (scaleByTen 8 (Binary64.ofNat significand) (max exponent (-1500))).map fun x =>
    .float (if negative then x.neg else x)

def ofNumeral (x : Numeral) : Option Json :=
  let (significand, left) := accumulate 0 x.whole
  match left, x.fraction, x.exponent with
  | [], none, none =>
    if !x.negative then some (.natural significand)
    else if significand = 0 then some (.float (Binary64.ofRatio true 0 1))
    else if significand ≤ Nat.pow 2 63 then some (.negative (-significand))
    else some (.float (Binary64.ofNat significand).neg)
  | left, fraction, power =>
    let digits := fraction.getD []
    let (significand, rest) := accumulate significand digits
    let exponent : Int := (left.length : Int) - (digits.length - rest.length : Nat)
    match power with
    | none => binaryOf x.negative significand exponent
    | some (below, power) =>
      match exponentOf power with
      | some n => binaryOf x.negative significand (if below then exponent - n else exponent + n)
      | none =>
        if significand ≠ 0 ∧ ¬ below then none
        else some (.float (Binary64.ofRatio x.negative 0 1))

/-! ## Documents -/

/-- Inserts a member at the place of its key; a member with that key is replaced. -/
def insertMember (key : String) (value : Json) : List (String × Json) → List (String × Json)
  | [] => [(key, value)]
  | (k, v) :: r =>
    if key < k then (key, value) :: (k, v) :: r
    else if key = k then (key, value) :: r
    else (k, v) :: insertMember key value r

mutual

/-- The value of a document, which nests less than `depth` deep. -/
def ofRaw (depth : Nat) : Raw → Option Json
  | .null => some .null
  | .bool b => some (.bool b)
  | .number n => ofNumeral n
  | .string units => (unitText units).map .string
  | .array items =>
    match depth with
    | 0 | 1 => none
    | d + 1 => (ofItems d items).map .array
  | .object members =>
    match depth with
    | 0 | 1 => none
    | d + 1 => (ofMembers d [] members).map .object

def ofItems (depth : Nat) : List Raw → Option (List Json)
  | [] => some []
  | x :: r => do
    let item ← ofRaw depth x
    let items ← ofItems depth r
    some (item :: items)

def ofMembers (depth : Nat) (found : List (String × Json)) :
    List (List CodeUnit × Raw) → Option (List (String × Json))
  | [] => some found
  | (key, x) :: r => do
    let key ← unitText key
    let value ← ofRaw depth x
    ofMembers depth (insertMember key value found) r

end

/-- Documents nest at most 127 deep. -/
def depthBound : Nat := 128

def parse? (s : String) : Option Json := (readDocument (Text.utf8 s)).bind (ofRaw depthBound)

/-! ## Texts -/

def hexDigits : List Char := "0123456789abcdef".toList

def hexDigit (n : Nat) : Char := hexDigits.getD n '0'

def escape? (c : Char) : Option String :=
  if c = '"' then some "\\\""
  else if c = '\\' then some "\\\\"
  else if c = '\x08' then some "\\b"
  else if c = '\x0c' then some "\\f"
  else if c = '\n' then some "\\n"
  else if c = '\r' then some "\\r"
  else if c = '\t' then some "\\t"
  else if c.toNat < 0x20 then
    some (String.ofList ['\\', 'u', '0', '0', hexDigit (c.toNat / 16), hexDigit (c.toNat % 16)])
  else none

/-- The pieces of the inside of a string: escapes, and the runs between them. -/
def escapePieces (run : List Char) : List Char → List String
  | [] => [String.ofList run.reverse]
  | c :: cs =>
    match escape? c with
    | some e => String.ofList run.reverse :: e :: escapePieces [] cs
    | none => escapePieces (c :: run) cs

def stringPieces (s : String) : List String := "\"" :: escapePieces [] s.toList ++ ["\""]

def floatText (x : Binary64) : String :=
  Decimal.Layout.json.text FloatFormat.double x.isNegative x.magnitude

mutual

def pieces : Json → List String
  | .null => ["null"]
  | .bool b => [if b then "true" else "false"]
  | .natural n => [toString n]
  | .negative n => [toString n]
  | .float x => [floatText x]
  | .string s => stringPieces s
  | .array items => "[" :: itemPieces true items
  | .object members => "\x7b" :: memberPieces true members

def itemPieces (first : Bool) : List Json → List String
  | [] => ["]"]
  | x :: r => (if first then [] else [","]) ++ pieces x ++ itemPieces false r

def memberPieces (first : Bool) : List (String × Json) → List String
  | [] => ["\x7d"]
  | (k, x) :: r =>
    (if first then [] else [","]) ++ stringPieces k ++ ":" :: pieces x ++ memberPieces false r

end

def text (j : Json) : String := String.join j.pieces

end Json

end Logline
