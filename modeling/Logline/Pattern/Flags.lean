import Logline.Pattern.Node
import Logline.Text.Blank

/-! # Flags

What a pattern says about its own reading. Where the verbose flag is set, blanks and comments may
stand between all signs of the notation.
-/

namespace Logline.Pattern

structure Flags where
  ignoreCase : Bool := false
  multiLine : Bool := false
  dotAll : Bool := false
  swapGreed : Bool := false
  unicode : Bool := true
  verbose : Bool := false
  returns : Bool := false
  deriving Inhabited

namespace Flags

def set? (f : Flags) (on : Bool) : Char → Option Flags
  | 'i' => some { f with ignoreCase := on }
  | 'm' => some { f with multiLine := on }
  | 's' => some { f with dotAll := on }
  | 'U' => some { f with swapGreed := on }
  | 'u' => some { f with unicode := on }
  | 'x' => some { f with verbose := on }
  | 'R' => some { f with returns := on }
  | _ => none

def fold (f : Flags) (s : CharSet) : CharSet :=
  if f.ignoreCase then if f.unicode then s.foldCase else s.foldAscii else s

/-- Complements hold more than ASCII, which is possible with Unicode only. -/
def negate? (f : Flags) (negated : Bool) (s : CharSet) : Option CharSet :=
  if negated then if f.unicode then some s.compl else none else some s

def dot? (f : Flags) : Option CharSet :=
  if !f.unicode then none
  else if f.dotAll then some .full
  else if f.returns then some (CharSet.ofPoints [0xa, 0xd]).compl
  else some (CharSet.single '\n').compl

def caret (f : Flags) : Look := if f.multiLine then .lineStart f.returns else .textStart

def dollar (f : Flags) : Look := if f.multiLine then .lineEnd f.returns else .textEnd

/-- The characters at the front that satisfy `p`, without the blanks and comments before, between
and after them, and what follows. -/
def takeFrom (f : Flags) (p : Char → Bool) :
    Bool → List Char → List Char → List Char × List Char
  | _, taken, [] => (taken.reverse, [])
  | true, taken, c :: r => f.takeFrom p (c != '\n') taken r
  | false, taken, c :: r =>
    if f.verbose ∧ Text.isBlank c then f.takeFrom p false taken r
    else if f.verbose ∧ c = '#' then f.takeFrom p true taken r
    else if p c then f.takeFrom p false (c :: taken) r
    else (taken.reverse, c :: r)

def take (f : Flags) (p : Char → Bool) (cs : List Char) : List Char × List Char :=
  f.takeFrom p false [] cs

def skip (f : Flags) (cs : List Char) : List Char := (f.take (fun _ => false) cs).2

end Flags

end Logline.Pattern
