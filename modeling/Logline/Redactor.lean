import Logline.Pattern.Template
import Logline.Error

/-! # Path redaction

A redactor changes a path by its rules in their order, and then shows the working directory as a
point or the home directory as a tilde. A directory is found only where a component of the path
ends.
-/

namespace Logline

structure Redactor where
  rules : List (Pattern.Regex × String)
  workingDirectory : Option String
  home : Option String
  deriving Inhabited

namespace Redactor

def empty : Redactor := ⟨[], none, none⟩

def isSeparator (c : Char) : Bool := c == '/' || c == '\\'

/-- A directory without separators at its end; nothing if nothing is left. -/
def normalize (path : String) : Option String :=
  match (path.toList.reverse.dropWhile isSeparator).reverse with
  | [] => none
  | cs => some (String.ofList cs)

def withHome (r : Redactor) (path : String) : Redactor := { r with home := normalize path }

def withWorkingDirectory (r : Redactor) (path : String) : Redactor :=
  { r with workingDirectory := normalize path }

def withRule (r : Redactor) (pattern replacement : String) : Except LogError Redactor :=
  match Pattern.Regex.read? pattern with
  | some regex => .ok { r with rules := r.rules ++ [(regex, replacement)] }
  | none => .error .invalidPattern

def isEmpty (r : Redactor) : Bool :=
  r.rules.isEmpty && r.workingDirectory.isNone && r.home.isNone

def stripChars : List Char → List Char → Option (List Char)
  | [], path => some path
  | _ :: _, [] => none
  | d :: dir, c :: path => if d = c then stripChars dir path else none

/-- What follows `dir` in `path`, where a component ends with it. -/
def stripDirectory (dir path : String) : Option String :=
  match stripChars dir.toList path.toList with
  | some [] => some ""
  | some (c :: r) => if isSeparator c then some (String.ofList (c :: r)) else none
  | none => none

def applyRules (rules : List (Pattern.Regex × String)) (path : String) : String :=
  rules.foldl (fun path (regex, replacement) => regex.replaceAll path replacement) path

def replaceDirectories (r : Redactor) (path : String) : String :=
  match r.workingDirectory.bind (stripDirectory · path) with
  | some rest => "." ++ rest
  | none =>
    match r.home.bind (stripDirectory · path) with
    | some rest => "~" ++ rest
    | none => path

def redact (r : Redactor) (path : String) : String :=
  r.replaceDirectories (applyRules r.rules path)

end Redactor

end Logline
