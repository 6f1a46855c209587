import Logline.Pattern.Property.Boundary
import Logline.Text.AgeTable

/-! # Names of properties

A pattern names a set by a property, a general category or a script alone, or by a property and
its value. Case, blanks, hyphens and underscores in names do not count, and neither does a leading
`is`.
-/

namespace Logline.Pattern.CharSet

/-- The form in which names of properties are compared. A name of which only a `c` is left after
`is` is another one, of no set. -/
def propertyKey (name : String) : String :=
  let fold (cs : List Char) : List Char :=
    (cs.filter fun c => c.toNat < 0x80 && c != ' ' && c != '_' && c != '-').map Char.toLower
  match name.toList with
  | i :: s :: r =>
    if i.toLower = 'i' ∧ s.toLower = 's' then
      match fold r with
      | ['c'] => "isc"
      | key => String.ofList key
    else String.ofList (fold (i :: s :: r))
  | cs => String.ofList (fold cs)

/-- Names of general categories and the short names that they cover. -/
def categoryNames : List (String × List String) := [
  ("l", ["L"]), ("letter", ["L"]), ("lc", ["Lu", "Ll", "Lt"]),
  ("casedletter", ["Lu", "Ll", "Lt"]), ("lu", ["Lu"]), ("uppercaseletter", ["Lu"]),
  ("ll", ["Ll"]), ("lowercaseletter", ["Ll"]), ("lt", ["Lt"]), ("titlecaseletter", ["Lt"]),
  ("lm", ["Lm"]), ("modifierletter", ["Lm"]), ("lo", ["Lo"]), ("otherletter", ["Lo"]),
  ("m", ["M"]), ("mark", ["M"]), ("combiningmark", ["M"]), ("mn", ["Mn"]),
  ("nonspacingmark", ["Mn"]), ("mc", ["Mc"]), ("spacingmark", ["Mc"]), ("me", ["Me"]),
  ("enclosingmark", ["Me"]), ("n", ["N"]), ("number", ["N"]), ("nd", ["Nd"]),
  ("decimalnumber", ["Nd"]), ("digit", ["Nd"]), ("nl", ["Nl"]), ("letternumber", ["Nl"]),
  ("no", ["No"]), ("othernumber", ["No"]), ("p", ["P"]), ("punctuation", ["P"]),
  ("punct", ["P"]), ("pc", ["Pc"]), ("connectorpunctuation", ["Pc"]), ("pd", ["Pd"]),
  ("dashpunctuation", ["Pd"]), ("ps", ["Ps"]), ("openpunctuation", ["Ps"]), ("pe", ["Pe"]),
  ("closepunctuation", ["Pe"]), ("pi", ["Pi"]), ("initialpunctuation", ["Pi"]), ("pf", ["Pf"]),
  ("finalpunctuation", ["Pf"]), ("po", ["Po"]), ("otherpunctuation", ["Po"]), ("s", ["S"]),
  ("symbol", ["S"]), ("sm", ["Sm"]), ("mathsymbol", ["Sm"]), ("sc", ["Sc"]),
  ("currencysymbol", ["Sc"]), ("sk", ["Sk"]), ("modifiersymbol", ["Sk"]), ("so", ["So"]),
  ("othersymbol", ["So"]), ("z", ["Z"]), ("separator", ["Z"]), ("zs", ["Zs"]),
  ("spaceseparator", ["Zs"]), ("zl", ["Zl"]), ("lineseparator", ["Zl"]), ("zp", ["Zp"]),
  ("paragraphseparator", ["Zp"]), ("cc", ["Cc"]), ("control", ["Cc"]), ("cntrl", ["Cc"]),
  ("cf", ["Cf"]), ("format", ["Cf"]), ("co", ["Co"]), ("privateuse", ["Co"])]

/-- General categories that are not the union of listed ones. Of the others, the surrogates are one
that no character belongs to. -/
def wideCategories : List (String × Rule) := [
  ("any", .points [(0, Span.lastPoint)]), ("ascii", .points [(0, 0x7f)]),
  ("assigned", .categories ["L", "M", "N", "P", "S", "Z", "C"]),
  ("cn", .unassigned), ("unassigned", .unassigned),
  ("c", .categories ["C"] + .unassigned + .surrogates),
  ("other", .categories ["C"] + .unassigned + .surrogates)]

def category? (key : String) : Option CharSet :=
  match categoryNames.lookup key with
  | some names => some (Rule.categories names).set
  | none => (wideCategories.lookup key).map Rule.set

def scriptCode (key : String) : String := (Text.scriptNames.lookup key).getD key

def script? (key : String) : Option CharSet :=
  (Text.runsNamed? Text.scriptRuns (scriptCode key)).map ofRuns

/-- The characters that a script is written with: its own, but of those that have a list of scripts
only the ones whose list names it. -/
def scriptExtension? (key : String) : Option CharSet :=
  (script? key).map fun own =>
    let shared := Text.scriptExtensionRuns.map fun (codes, rows) =>
      (codes, ofRuns (Text.readRuns rows))
    unionAll ((own \ unionAll (shared.map (·.2))) ::
      (shared.filter fun (codes, _) => codes.contains (scriptCode key)).map (·.2))

/-- An edition by its number, `3.0`, or by its name, `v30`. -/
def isEdition (key edition : String) : Bool :=
  key == edition || key == String.ofList ('v' :: edition.toList.filter (· != '.'))

def age? (key : String) : Option CharSet :=
  let older := Text.ageRuns.takeWhile fun (edition, _) => !isEdition key edition
  match Text.ageRuns.drop older.length with
  | [] => none
  | (_, rows) :: _ =>
    some (ofRuns (Text.readRuns rows ++ older.flatMap fun (_, rows) => Text.readRuns rows))

def property? (key : String) : Option CharSet :=
  let name := (Text.propertyNames.lookup key).getD key
  match Rule.derived.lookup name with
  | some rule => some rule.set
  | none => (Text.runsNamed? Text.propertyRuns name).map ofRuns

def named? (name : String) : Option CharSet :=
  let key := propertyKey name
  ((property? key).orElse fun _ => category? key).orElse fun _ => script? key

def boundary? (classes : List BoundaryClass) (key : String) : Option CharSet :=
  (classes.find? fun c => c.long == key || c.short == key).map (·.rule.set)

def valued? (name value : String) : Option CharSet :=
  let value := propertyKey value
  match propertyKey name with
  | "gc" | "generalcategory" => category? value
  | "sc" | "script" => script? value
  | "scx" | "scriptextensions" => scriptExtension? value
  | "age" => age? value
  | "gcb" | "graphemeclusterbreak" => boundary? BoundaryClass.grapheme value
  | "wb" | "wordbreak" => boundary? BoundaryClass.word value
  | "sb" | "sentencebreak" => boundary? BoundaryClass.sentence value
  | _ => none

end Logline.Pattern.CharSet
