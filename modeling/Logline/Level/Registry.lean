import Logline.Level.Basic
import Logline.Text.Blank
import Logline.Text.Case
import Logline.Error

/-! # Level registry

A registry starts with the built-in levels and only grows. It finds a level by its ordinal and by
its title, which is trimmed and compared in lower case. A registration that is refused changes
nothing.
-/

namespace Logline

structure LevelOptions where
  /-- A tag for each width from one on, where one is given. -/
  tags : List (Option String) := List.replicate maxTagWidth none
  foreground : Option Color := none
  background : Option Color := none
  treatAs : Option Level := none
  errorStream : Bool := false
  deriving Inhabited

namespace LevelOptions

def withTag (o : LevelOptions) (width : Nat) (tag : String) : LevelOptions :=
  if 1 ≤ width ∧ width ≤ maxTagWidth then { o with tags := o.tags.set (width - 1) (some tag) }
  else o

def withColors (o : LevelOptions) (foreground : Color) (background : Option Color) :
    LevelOptions :=
  { o with foreground := some foreground, background }

end LevelOptions

/-- The first `width` characters of the title in upper case, filled up with spaces. -/
def deriveTag (title : String) (width : Nat) : String :=
  let tag := (Text.upperChars title.toList).take width
  String.ofList (tag ++ List.replicate (width - tag.length) ' ')

structure LevelRegistry where
  infos : List LevelInfo
  titles : List (String × Level)
  debugMode : Bool
  deriving Inhabited

namespace LevelRegistry

/-- A title that is read and never written. -/
def inputAlias : String × Level := ("warning", .warn)

def new : LevelRegistry where
  infos := builtinLevels
  titles := builtinLevels.map (fun info => (info.title, info.level)) ++ [inputAlias]
  debugMode := false

def info? (r : LevelRegistry) (level : Level) : Option LevelInfo :=
  r.infos.find? (·.level == level)

/-- The form in which titles are compared. -/
def titleKey (s : String) : String := Text.lower (Text.trim s)

def parse? (r : LevelRegistry) (s : String) : Option Level := r.titles.lookup (titleKey s)

def parse (r : LevelRegistry) (s : String) : Except LogError Level :=
  match r.parse? s with
  | some level => .ok level
  | none => .error (.invalidLevel s)

/-- A given tag that no line could show. -/
def badTag? (tags : List (Option String)) : Option String :=
  tags.findSome? fun
    | some tag => if tag.length = 0 ∨ maxTagWidth < tag.length then some tag else none
    | none => none

/-- The given tags, and derived ones where none is given. -/
def fillTags (title : String) (tags : List (Option String)) : List String :=
  (List.range maxTagWidth).map fun i =>
    match tags.getD i none with
    | some tag => tag
    | none => deriveTag title (i + 1)

def badTagMessage (tag : String) : String :=
  "short tag '" ++ tag ++ "' must be 1..=" ++ toString maxTagWidth ++ " characters"

def register (r : LevelRegistry) (level : Level) (title : String) (options : LevelOptions) :
    Except LogError LevelRegistry :=
  let title := Text.trim title
  if title = "" then .error (.configuration "LevelRegistry" "level title is empty")
  else match badTag? options.tags with
  | some tag => .error (.configuration "LevelRegistry" (badTagMessage tag))
  | none =>
    match r.info? level with
    | some existing => .error (.duplicateValue level.ordinal existing.title)
    | none =>
      let key := Text.lower title
      match r.titles.lookup key with
      | some _ => .error (.duplicateTitle title)
      | none =>
        .ok { r with
          infos := r.infos ++ [{
            level, title
            tags := fillTags title options.tags
            foreground := options.foreground
            background := options.background
            treatAs := options.treatAs
            errorStream := options.errorStream }]
          titles := r.titles ++ [(key, level)] }

/-- The level that stands for `level` in comparisons. -/
def resolve (r : LevelRegistry) (level : Level) : Level :=
  ((r.info? level).bind (·.treatAs)).getD level

def enabled (r : LevelRegistry) (threshold requested : Level) : Bool :=
  if threshold = .off ∨ requested = .off then false
  else if threshold = .always ∨ requested = .always then true
  else if requested = .debug ∧ r.debugMode then true
  else (r.resolve requested).ordinal ≤ threshold.ordinal

def setDebugMode (r : LevelRegistry) (on : Bool) : LevelRegistry := { r with debugMode := on }

/-- What is shown for a level that is not registered. -/
def placeholder (level : Level) : String := "Level(" ++ toString level.ordinal ++ ")"

def title (r : LevelRegistry) (level : Level) : String :=
  match r.info? level with
  | some info => info.title
  | none => placeholder level

def shortTag (r : LevelRegistry) (level : Level) (width : Nat) : String :=
  match r.info? level with
  | some info => info.tag width
  | none => deriveTag (toString level.ordinal) (clampTagWidth width)

def isErrorStream (r : LevelRegistry) (level : Level) : Bool :=
  match r.info? level with
  | some info => info.errorStream
  | none => false

def levels (r : LevelRegistry) : List Level :=
  (r.infos.map (·.level)).mergeSort fun a b => a.ordinal ≤ b.ordinal

end LevelRegistry

end Logline
