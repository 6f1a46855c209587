import Logline.Text.Blank
import Logline.Text.Category

/-! # Backtraces

The text of a backtrace as frames. A frame starts with its number and the name of its function,
and the lines that follow give its places in files, of which the first one that can be read counts.
-/

namespace Logline

structure Frame where
  function : String
  place : Option (String × Nat)
  deriving DecidableEq, Repr, Inhabited

namespace Backtrace

def digitRuns : List Text.Run := Text.categoriesNamed ["Nd"]

def isDigit (c : Char) : Bool :=
  if c.toNat < 0x80 then c.isDigit else Text.inRuns digitRuns c.toNat

def skipDigits? (cs : List Char) : Option (List Char) :=
  match cs with
  | c :: r => if isDigit c then some (r.dropWhile isDigit) else none
  | [] => none

/-- The name of a function after a colon: what is left without the blanks around it. Where there
are blanks alone, all but the last one belong to the colon. -/
def functionName? (cs : List Char) : Option (List Char) :=
  match cs.takeWhile Text.isBlank, cs.dropWhile Text.isBlank with
  | [], _ => none
  | blanks, [] => if blanks.length = 1 then none else some (blanks.drop (blanks.length - 1))
  | _, name => some (Text.trimRightChars name)

def frameLine? (line : List Char) : Option (List Char) :=
  match skipDigits? (line.dropWhile Text.isBlank) with
  | some (':' :: r) => functionName? r
  | _ => none

def isHashDigit (c : Char) : Bool := ('0' ≤ c && c ≤ '9') || ('a' ≤ c && c ≤ 'f')

def hashLength : Nat := 19

def dropHash (name : List Char) : List Char :=
  match name.drop (name.length - hashLength) with
  | ':' :: ':' :: 'h' :: hash =>
    if hash.length = 16 ∧ hash.all isHashDigit then name.take (name.length - hashLength) else name
  | _ => name

/-- A line number after its colon, with a column or none and blanks up to the end. -/
def lineNumber? (cs : List Char) : Option (List Char) :=
  let digits := cs.takeWhile isDigit
  let ends (r : List Char) : Bool := r.all Text.isBlank
  if digits.isEmpty then none
  else
    match cs.drop digits.length with
    | ':' :: r =>
      match skipDigits? r with
      | some rest => if ends rest then some digits else none
      | none => none
    | rest => if ends rest then some digits else none

/-- The shortest file name of at least one character that a line number follows. -/
def fileAndLine? : List Char → Option (List Char × List Char)
  | [] => none
  | c :: r =>
    let here : Option (List Char × List Char) :=
      match r with
      | ':' :: rest => (lineNumber? rest).map fun line => ([c], line)
      | _ => none
    here.or ((fileAndLine? r).map fun (file, line) => (c :: file, line))

/-- Tries the file name after all blanks, then after ever fewer of them. -/
def afterBlanks? : List Char → List Char → Option (List Char × List Char)
  | [], _ => none
  | b :: blanks, cs => (fileAndLine? cs).or (afterBlanks? blanks (b :: cs))

def placeLine? (line : List Char) : Option (List Char × List Char) :=
  match line with
  | c :: _ =>
    if Text.isBlank c then
      match line.dropWhile Text.isBlank with
      | 'a' :: 't' :: r =>
        afterBlanks? (r.takeWhile Text.isBlank).reverse (r.dropWhile Text.isBlank)
      | _ => none
    else none
  | [] => none

def lineOf? (digits : List Char) : Option Nat :=
  if digits.all Char.isDigit then
    let n := digits.foldl (fun n c => n * 10 + (c.toNat - 48)) 0
    if n < Nat.pow 2 32 then some n else none
  else none

/-- The frames with one more line read; the last frame stands first. -/
def addLine (frames : List Frame) (line : List Char) : List Frame :=
  match frameLine? line with
  | some name => ⟨String.ofList (dropHash name), none⟩ :: frames
  | none =>
    match frames, placeLine? line with
    | ⟨function, none⟩ :: r, some (file, digits) =>
      ⟨function, (lineOf? digits).map fun n => (String.ofList file, n)⟩ :: r
    | frames, _ => frames

def frames (trace : String) : List Frame :=
  ((Text.splitLines trace.toList).foldl addLine []).reverse

end Backtrace

end Logline
