import Logline.Pattern.Flags
import Logline.Pattern.Property.Name

/-! # Escapes

What a backslash begins: characters by their number or by a letter, sets, and positions.
-/

namespace Logline.Pattern

def charOf? (n : Nat) : Option Char :=
  if n < 0xd800 ∨ (0xdfff < n ∧ n < 0x110000) then some (Char.ofNat n) else none

def Flags.untilBrace? (f : Flags) (cs : List Char) : Option (List Char × List Char) :=
  match f.take (· != '}') cs with
  | (text, '}' :: rest) => some (text, rest)
  | _ => none

def Flags.hexDigits? (f : Flags) : Nat → Nat → List Char → Option (Nat × List Char)
  | 0, code, r => some (code, r)
  | n + 1, code, r =>
    match f.skip r with
    | [] => none
    | c :: r => (Text.hexValue? c).bind fun d => f.hexDigits? n (code * 16 + d) r

/-- A character by `n` hexadecimal digits, or by any number of them in braces. -/
def Flags.hexChar? (f : Flags) (n : Nat) (cs : List Char) : Option (Char × List Char) :=
  match f.skip cs with
  | '{' :: r => do
    let (digits, rest) ← f.untilBrace? r
    if digits.isEmpty ∨ digits.any (fun c => (Text.hexValue? c).isNone) then none
    else (charOf? (Text.hexNat digits)).map (·, rest)
  | r => do
    let (code, rest) ← f.hexDigits? n 0 r
    (charOf? code).map (·, rest)

/-- A character by its byte, which without Unicode has to be one of ASCII. -/
def Flags.byteChar? (f : Flags) (cs : List Char) : Option (Char × List Char) := do
  let (c, rest) ← f.hexChar? 2 cs
  if f.unicode ∨ (f.skip cs).head? = some '{' ∨ c.toNat < 0x80 then some (c, rest) else none

def splitAt? (mark : List Char) : List Char → Option (List Char × List Char)
  | [] => none
  | c :: r =>
    if mark.isPrefixOf (c :: r) then some ([], (c :: r).drop mark.length)
    else (splitAt? mark r).map fun (before, after) => (c :: before, after)

/-- A property between braces: a name, or a name, a sign and a value. The sign may negate. -/
def property? (text : List Char) : Option (CharSet × Bool) :=
  match splitAt? ['!', '='] text with
  | some (name, value) =>
    (CharSet.valued? (String.ofList name) (String.ofList value)).map (·, true)
  | none =>
    match (splitAt? [':'] text).or (splitAt? ['='] text) with
    | some (name, value) =>
      (CharSet.valued? (String.ofList name) (String.ofList value)).map (·, false)
    | none => (CharSet.named? (String.ofList text)).map (·, false)

def Flags.propertySet? (f : Flags) (negated : Bool) (cs : List Char) :
    Option (CharSet × List Char) := do
  if !f.unicode then none
  let ((set, inverse), rest) ← match f.skip cs with
    | '{' :: r => do
      let (text, rest) ← f.untilBrace? r
      let found ← property? text
      some (found, rest)
    | '\\' :: _ => none
    | c :: r => (CharSet.named? (String.ofList [c])).map fun set => ((set, false), r)
    | [] => none
  let set ← f.negate? (negated != inverse) (f.fold set)
  some (set, rest)

inductive Escape where
  | literal (c : Char)
  | set (s : CharSet)
  | look (l : Look)

def Flags.letterSet? (f : Flags) (wide narrow : CharSet) (negated : Bool) (rest : List Char) :
    Option (Escape × List Char) :=
  (f.negate? negated (if f.unicode then wide else narrow)).map fun s => (.set s, rest)

def boundaryNames (ascii : Bool) : List (String × Look) :=
  [("start", .wordStart ascii), ("end", .wordEnd ascii),
    ("start-half", .wordStartHalf ascii), ("end-half", .wordEndHalf ascii)]

/-- A boundary of words. Where braces follow that hold no name, they are a repetition. -/
def Flags.boundary? (f : Flags) (cs : List Char) : Option (Look × List Char) :=
  let plain := some (.wordBoundary (!f.unicode), cs)
  match cs with
  | '{' :: r =>
    match f.take (fun c => c.isAlpha || c == '-') r with
    | ([], _) => plain
    | (name, '}' :: rest) =>
      ((boundaryNames (!f.unicode)).lookup (String.ofList name)).map (·, rest)
    | _ => none
  | _ => plain

def Flags.escape? (f : Flags) : List Char → Option (Escape × List Char)
  | [] => none
  | 'x' :: r => (f.byteChar? r).map fun (c, rest) => (.literal c, rest)
  | 'u' :: r => (f.hexChar? 4 r).map fun (c, rest) => (.literal c, rest)
  | 'U' :: r => (f.hexChar? 8 r).map fun (c, rest) => (.literal c, rest)
  | 'p' :: r => (f.propertySet? false r).map fun (s, rest) => (.set s, rest)
  | 'P' :: r => (f.propertySet? true r).map fun (s, rest) => (.set s, rest)
  | 'd' :: r => f.letterSet? .digit .asciiDigit false r
  | 'D' :: r => f.letterSet? .digit .asciiDigit true r
  | 's' :: r => f.letterSet? .space .asciiSpace false r
  | 'S' :: r => f.letterSet? .space .asciiSpace true r
  | 'w' :: r => f.letterSet? .word .asciiWord false r
  | 'W' :: r => f.letterSet? .word .asciiWord true r
  | 'a' :: r => some (.literal '\x07', r)
  | 'f' :: r => some (.literal '\x0c', r)
  | 't' :: r => some (.literal '\t', r)
  | 'n' :: r => some (.literal '\n', r)
  | 'r' :: r => some (.literal '\r', r)
  | 'v' :: r => some (.literal '\x0b', r)
  | 'A' :: r => some (.look .textStart, r)
  | 'z' :: r => some (.look .textEnd, r)
  | 'b' :: r => (f.boundary? r).map fun (l, rest) => (.look l, rest)
  | 'B' :: r => some (.look (.notWordBoundary (!f.unicode)), r)
  | '<' :: r => some (.look (.wordStart (!f.unicode)), r)
  | '>' :: r => some (.look (.wordEnd (!f.unicode)), r)
  | c :: r => if c.toNat < 0x80 ∧ ¬ c.isAlphanum then some (.literal c, r) else none

end Logline.Pattern
