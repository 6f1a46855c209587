import Logline.Pattern.Matcher

/-! # Replacements

A replacement names groups by a dollar sign: a number, a name, or either in braces. Two dollar
signs are one, and one that starts nothing stands for itself. A group that does not exist or took
no part is empty.
-/

namespace Logline.Pattern

inductive TemplatePart where
  | char (c : Char)
  | group (index : Nat)
  | named (name : String)
  deriving DecidableEq, Repr

/-- A number, with a sign that says nothing, below the bound of 64 bits. -/
def groupNumber? (cs : List Char) : Option Nat :=
  let digits := match cs with
    | '+' :: r => r
    | r => r
  if digits.isEmpty ∨ digits.any (fun c => !c.isDigit) then none
  else
    let n := digits.foldl (fun n c => n * 10 + (c.toNat - 48)) 0
    if n < Nat.pow 2 64 then some n else none

def reference (cs : List Char) : TemplatePart :=
  match groupNumber? cs with
  | some n => .group n
  | none => .named (String.ofList cs)

def isReferenceChar (c : Char) : Bool := c.isAlphanum || c == '_'

def untilBrace? : List Char → Option (List Char × List Char)
  | [] => none
  | '}' :: r => some ([], r)
  | c :: r => (untilBrace? r).map fun (text, rest) => (c :: text, rest)

theorem untilBrace?_length {cs text rest : List Char} (h : untilBrace? cs = some (text, rest)) :
    rest.length < cs.length := by
  induction cs generalizing text with
  | nil => simp [untilBrace?] at h
  | cons c r ih =>
    unfold untilBrace? at h
    split at h
    · simp at h
    · simp_all
    · rename_i heq
      simp only [List.cons.injEq] at heq
      obtain ⟨_, rfl⟩ := heq
      obtain ⟨⟨t, u⟩, hr, he⟩ := Option.map_eq_some_iff.1 h
      simp only [Prod.mk.injEq] at he
      obtain ⟨_, rfl⟩ := he
      exact Nat.lt_succ_of_lt (ih hr)

def readTemplate (cs : List Char) : List TemplatePart :=
  match cs with
  | [] => []
  | '$' :: '$' :: r => .char '$' :: readTemplate r
  | '$' :: '{' :: r =>
    match h : untilBrace? r with
    | none => .char '$' :: readTemplate ('{' :: r)
    | some (name, rest) =>
      have : rest.length < r.length := untilBrace?_length h
      reference name :: readTemplate rest
  | '$' :: r =>
    let name := r.takeWhile isReferenceChar
    if name.isEmpty then .char '$' :: readTemplate r
    else reference name :: readTemplate (r.drop name.length)
  | c :: r => .char c :: readTemplate r
termination_by cs.length
decreasing_by all_goals (simp only [List.length_cons, List.length_drop]; omega)

def groupText (text : Array Char) (slots : Slots) (index : Nat) : List Char :=
  match slots.lookup (2 * index), slots.lookup (2 * index + 1) with
  | some first, some last => (text.extract first last).toList
  | _, _ => []

def expand (names : List (String × Nat)) (text : Array Char) (slots : Slots) :
    List TemplatePart → List Char
  | [] => []
  | .char c :: r => c :: expand names text slots r
  | .group index :: r => groupText text slots index ++ expand names text slots r
  | .named name :: r =>
    (match names.lookup name with
      | some index => groupText text slots index
      | none => []) ++ expand names text slots r

/-- Replaces the matches of a text of which everything before `position` is done. -/
def replaceMatches (names : List (String × Nat)) (text : Array Char) (parts : List TemplatePart) :
    Nat → List Slots → List Char
  | position, [] => (text.extract position text.size).toList
  | position, slots :: r =>
    let first := (slots.lookup 0).getD position
    let last := (slots.lookup 1).getD position
    (text.extract position first).toList ++ expand names text slots parts ++
      replaceMatches names text parts last r

def Regex.replaceAll (r : Regex) (s replacement : String) : String :=
  let cs := s.toList
  String.ofList
    (replaceMatches r.expression.names cs.toArray (readTemplate replacement.toList) 0
      (r.matchesOf cs))

end Logline.Pattern
