import Logline.Text.Utf8

/-! # JSON documents

A reader for JSON documents that loses nothing: members keep their order and their duplicates,
numbers their digits and strings the code units of their escapes. What a document means is decided
by whoever reads the result.
-/

namespace Logline.Json

/-- A number as written: sign, digits before and after the point, sign and digits of the
exponent. -/
structure Numeral where
  negative : Bool
  whole : List Nat
  fraction : Option (List Nat)
  exponent : Option (Bool × List Nat)
  deriving Repr, Inhabited

/-- A byte of a string or a code unit given by an escape. -/
inductive CodeUnit where
  | byte (b : UInt8)
  | escape (code : Nat)
  deriving Repr, Inhabited, DecidableEq

inductive Raw where
  | null
  | bool (b : Bool)
  | number (n : Numeral)
  | string (units : List CodeUnit)
  | array (items : List Raw)
  | object (members : List (List CodeUnit × Raw))
  deriving Repr, Inhabited

def isSpace (b : UInt8) : Bool := b == 0x20 || b == 0x0a || b == 0x0d || b == 0x09

def skipSpaces (s : List UInt8) : List UInt8 := s.dropWhile isSpace

def digit? (b : UInt8) : Option Nat := if 0x30 ≤ b ∧ b ≤ 0x39 then some (b.toNat - 0x30) else none

def readDigits : List UInt8 → List Nat × List UInt8
  | [] => ([], [])
  | b :: r =>
    match digit? b with
    | none => ([], b :: r)
    | some d => let (ds, rest) := readDigits r; (d :: ds, rest)

def readFraction : List UInt8 → Option (Option (List Nat) × List UInt8)
  | 0x2e :: r =>
    match readDigits r with
    | ([], _) => none
    | (ds, rest) => some (some ds, rest)
  | s => some (none, s)

def readSign : List UInt8 → Bool × List UInt8
  | 0x2b :: r => (false, r)
  | 0x2d :: r => (true, r)
  | s => (false, s)

def readExponent : List UInt8 → Option (Option (Bool × List Nat) × List UInt8)
  | b :: r =>
    if b = 0x65 ∨ b = 0x45 then
      let (negative, r) := readSign r
      match readDigits r with
      | ([], _) => none
      | (ds, rest) => some (some (negative, ds), rest)
    else some (none, b :: r)
  | [] => some (none, [])

/-- A number after its sign; a zero in front stands alone. -/
def readNumeral (negative : Bool) (s : List UInt8) : Option (Numeral × List UInt8) :=
  match readDigits s with
  | ([], _) => none
  | (0 :: _ :: _, _) => none
  | (whole, r) => do
    let (fraction, r) ← readFraction r
    let (exponent, r) ← readExponent r
    some (⟨negative, whole, fraction, exponent⟩, r)

def hexDigit? (b : UInt8) : Option Nat :=
  if 0x30 ≤ b ∧ b ≤ 0x39 then some (b.toNat - 0x30)
  else if 0x61 ≤ b ∧ b ≤ 0x66 then some (b.toNat - 0x57)
  else if 0x41 ≤ b ∧ b ≤ 0x46 then some (b.toNat - 0x37)
  else none

def letterEscape? (b : UInt8) : Option UInt8 :=
  if b = 0x22 ∨ b = 0x5c ∨ b = 0x2f then some b
  else if b = 0x62 then some 0x08
  else if b = 0x66 then some 0x0c
  else if b = 0x6e then some 0x0a
  else if b = 0x72 then some 0x0d
  else if b = 0x74 then some 0x09
  else none

def readString : List UInt8 → Option (List CodeUnit × List UInt8)
  | [] => none
  | 0x22 :: r => some ([], r)
  | 0x5c :: 0x75 :: a :: b :: c :: d :: r => do
    let a ← hexDigit? a
    let b ← hexDigit? b
    let c ← hexDigit? c
    let d ← hexDigit? d
    let (units, rest) ← readString r
    some (.escape (((a * 16 + b) * 16 + c) * 16 + d) :: units, rest)
  | 0x5c :: e :: r => do
    let b ← letterEscape? e
    let (units, rest) ← readString r
    some (.byte b :: units, rest)
  | b :: r =>
    if b < 0x20 ∨ b = 0x5c then none
    else do
      let (units, rest) ← readString r
      some (.byte b :: units, rest)

def expect (word s : List UInt8) : Option (List UInt8) :=
  if s.take word.length = word then some (s.drop word.length) else none

mutual

/-- A value, with `n` bounding how deep the reader goes. -/
def readValue : Nat → List UInt8 → Option (Raw × List UInt8)
  | 0, _ => none
  | n + 1, s =>
    match skipSpaces s with
    | [] => none
    | 0x22 :: r => (readString r).map fun (units, rest) => (.string units, rest)
    | 0x2d :: r => (readNumeral true r).map fun (x, rest) => (.number x, rest)
    | 0x5b :: r =>
      match skipSpaces r with
      | 0x5d :: rest => some (.array [], rest)
      | r => (readItems n r).map fun (items, rest) => (.array items, rest)
    | 0x7b :: r =>
      match skipSpaces r with
      | 0x7d :: rest => some (.object [], rest)
      | r => (readMembers n r).map fun (members, rest) => (.object members, rest)
    | 0x6e :: r => (expect [0x75, 0x6c, 0x6c] r).map fun rest => (.null, rest)
    | 0x74 :: r => (expect [0x72, 0x75, 0x65] r).map fun rest => (.bool true, rest)
    | 0x66 :: r => (expect [0x61, 0x6c, 0x73, 0x65] r).map fun rest => (.bool false, rest)
    | s => (readNumeral false s).map fun (x, rest) => (.number x, rest)

def readItems : Nat → List UInt8 → Option (List Raw × List UInt8)
  | 0, _ => none
  | n + 1, s => do
    let (item, r) ← readValue n s
    match skipSpaces r with
    | 0x2c :: r => do
      let (items, rest) ← readItems n r
      some (item :: items, rest)
    | 0x5d :: rest => some ([item], rest)
    | _ => none

def readMembers : Nat → List UInt8 → Option (List (List CodeUnit × Raw) × List UInt8)
  | 0, _ => none
  | n + 1, s =>
    match skipSpaces s with
    | 0x22 :: r => do
      let (key, r) ← readString r
      match skipSpaces r with
      | 0x3a :: r => do
        let (value, r) ← readValue n r
        match skipSpaces r with
        | 0x2c :: r => do
          let (members, rest) ← readMembers n r
          some ((key, value) :: members, rest)
        | 0x7d :: rest => some ([(key, value)], rest)
        | _ => none
      | _ => none
    | _ => none

end

def readDocument (s : List UInt8) : Option Raw := do
  let (value, rest) ← readValue (s.length + 1) s
  if skipSpaces rest = [] then some value else none

def pointBytes (n : Nat) : List UInt8 := String.utf8EncodeChar (Char.ofNat n)

/-- The bytes of a string; half of a pair of code units alone has none. -/
def unitBytes : List CodeUnit → Option (List UInt8)
  | [] => some []
  | .byte b :: r => (unitBytes r).map (b :: ·)
  | .escape code :: r =>
    if 0xd800 ≤ code ∧ code < 0xdc00 then
      match r with
      | .escape low :: r =>
        if 0xdc00 ≤ low ∧ low < 0xe000 then
          (unitBytes r).map
            (pointBytes (0x10000 + (code - 0xd800) * 0x400 + (low - 0xdc00)) ++ ·)
        else none
      | _ => none
    else if 0xdc00 ≤ code ∧ code < 0xe000 then none
    else (unitBytes r).map (pointBytes code ++ ·)

def unitText (units : List CodeUnit) : Option String := (unitBytes units).map Text.lossy

end Logline.Json
