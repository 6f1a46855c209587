import Logline.Text.CategoryTable
import Logline.Text.PropertyTable
import Logline.Text.Hex

/-! # Character classes

The tables of the character data list code points in runs. Here they are read, and the classes are
formed that decide how a text is shown in quotes and what a name is made of. The tables are those
of the sixteenth edition; these classes take the additions of the seventeenth as well.
-/

namespace Logline.Text

/-- Every `stride`-th code point from `first` to `last`. -/
structure Run where
  first : Nat
  last : Nat
  stride : Nat
  deriving Repr, Inhabited

def Run.contains (r : Run) (n : Nat) : Bool :=
  r.first ≤ n && n ≤ r.last && (n - r.first) % r.stride == 0

/-- Reads `a`, `a-b` or `a+b`. -/
def Run.ofChars (cs : List Char) : Run :=
  let first := cs.takeWhile fun c => (hexValue? c).isSome
  match cs.drop first.length with
  | '-' :: last => ⟨hexNat first, hexNat last, 1⟩
  | '+' :: last => ⟨hexNat first, hexNat last, 2⟩
  | _ => ⟨hexNat first, hexNat first, 1⟩

def words : List Char → List (List Char)
  | [] => [[]]
  | ' ' :: cs => [] :: words cs
  | c :: cs =>
    match words cs with
    | [] => [[c]]
    | w :: ws => (c :: w) :: ws

def readRuns (rows : List String) : List Run :=
  rows.flatMap fun row => (words row.toList).map Run.ofChars

def runsNamed? (table : List (String × List String)) (name : String) : Option (List Run) :=
  (table.lookup name).map readRuns

def runsNamed (table : List (String × List String)) (name : String) : List Run :=
  (runsNamed? table name).getD []

def categoriesNamed (names : List String) : List Run :=
  categoryRuns.flatMap fun (name, rows) =>
    if names.any (·.isPrefixOf name) then readRuns rows else []

def inRuns (runs : List Run) (n : Nat) : Bool := runs.any (·.contains n)

/-! ## Classes of the latest edition -/

def printableRuns : List Run :=
  categoriesNamed ["L", "M", "N", "P", "S"] ++ runsNamed laterRuns "assigned"

/-- Letters that are blank by design. -/
def fillers : List Nat := [0x115f, 0x1160, 0x3164, 0xffa0]

def isPrintable (c : Char) : Bool :=
  if c.toNat < 0x7f then 0x20 ≤ c.toNat
  else inRuns printableRuns c.toNat && !fillers.contains c.toNat

/-- Marks that are a letter of their own in their script. -/
def detachedMarks : List Nat := [0xff9e, 0xff9f]

def graphemeExtendRuns : List Run :=
  categoriesNamed ["Mn", "Me"] ++ runsNamed propertyRuns "othergraphemeextend" ++
    runsNamed laterRuns "graphemeextend"

def isGraphemeExtend (c : Char) : Bool :=
  0x300 ≤ c.toNat && inRuns graphemeExtendRuns c.toNat && !detachedMarks.contains c.toNat

def alphabeticRuns : List Run :=
  categoriesNamed ["L", "Nl"] ++
    ["otheralphabetic", "otherlowercase", "otheruppercase"].flatMap (runsNamed propertyRuns) ++
    runsNamed laterRuns "alphabetic"

def isAlphabetic (c : Char) : Bool :=
  if c.toNat < 0x80 then c.isAlpha else inRuns alphabeticRuns c.toNat

def numericRuns : List Run := categoriesNamed ["N"] ++ runsNamed laterRuns "number"

def isNumeric (c : Char) : Bool :=
  if c.toNat < 0x80 then c.isDigit else inRuns numericRuns c.toNat

end Logline.Text
