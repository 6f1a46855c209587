import Logline.Pattern.CharSet
import Logline.Text.PropertyTable
import Logline.Text.ScriptTable

/-! # Rules for properties

Few properties have a list of their own; the others are put together from listed ones. A rule says
how, and its set is formed when the property is asked for.
-/

namespace Logline.Pattern

inductive Rule where
  | points (pairs : List (Nat × Nat))
  /-- The general categories whose short names start with one of `names`. -/
  | categories (names : List String)
  | property (name : String)
  /-- Characters that rules name one by one. -/
  | listed (name : String)
  | script (code : String)
  | plus (a b : Rule)
  | minus (a b : Rule)
  | both (a b : Rule)
  deriving Repr

namespace Rule

instance : Add Rule := ⟨plus⟩

instance : Sub Rule := ⟨minus⟩

def set : Rule → CharSet
  | points pairs => CharSet.ofPairs pairs
  | categories names => CharSet.ofRuns (Text.categoriesNamed names)
  | property name => CharSet.ofRuns (Text.runsNamed Text.propertyRuns name)
  | listed name => CharSet.ofRuns (Text.runsNamed Text.boundaryRuns name)
  | script code => CharSet.ofRuns (Text.runsNamed Text.scriptRuns code)
  | plus a b => a.set ∪ b.set
  | minus a b => a.set \ b.set
  | both a b => a.set ∩ b.set

theorem set_plus (a b : Rule) : (a + b).set = a.set ∪ b.set := rfl

theorem set_minus (a b : Rule) : (a - b).set = a.set \ b.set := rfl

def point (n : Nat) : Rule := points [(n, n)]

end Rule

end Logline.Pattern
