import Logline.Text.Blank
import Logline.Text.Case
import Logline.Error

/-! # Line formats

The formats in which a line is written and the choice of colours, with their names and readers.
-/

namespace Logline

inductive FormatMode where
  | json
  | logfmt
  | colorful
  | plain
  deriving DecidableEq, Repr

namespace FormatMode

instance : Inhabited FormatMode := ⟨colorful⟩

def all : List FormatMode := [json, logfmt, colorful, plain]

def name : FormatMode → String
  | json => "json"
  | logfmt => "logfmt"
  | colorful => "colorful"
  | plain => "plain"

def flattensGroups (mode : FormatMode) : Bool := mode != json

def usesShortTag (mode : FormatMode) : Bool := mode == colorful || mode == plain

def ofName? (name : String) : Option FormatMode := all.find? (·.name == name)

/-- Reads a name in any case, with blanks around it. -/
def parse (s : String) : Except LogError FormatMode :=
  let key := Text.lower (Text.trim s)
  match ofName? key with
  | some mode => .ok mode
  | none =>
    if key == "color" || key == "text" then .ok colorful
    else .error (.configuration "FormatMode" ("unknown format mode '" ++ key ++ "'"))

end FormatMode

inductive ColorMode where
  | auto
  | always
  | never
  deriving DecidableEq, Repr, Inhabited

namespace ColorMode

def all : List ColorMode := [auto, always, never]

def name : ColorMode → String
  | auto => "auto"
  | always => "always"
  | never => "never"

/-- `terminal` says whether the terminal shows colours. -/
def enabled (mode : ColorMode) (terminal : Bool) : Bool :=
  match mode with
  | auto => terminal
  | always => true
  | never => false

def ofName? (name : String) : Option ColorMode := all.find? (·.name == name)

def parse (s : String) : Except LogError ColorMode :=
  let key := Text.lower (Text.trim s)
  match ofName? key with
  | some mode => .ok mode
  | none =>
    if key == "on" || key == "true" then .ok always
    else if key == "off" || key == "false" then .ok never
    else .error (.configuration "ColorMode" ("unknown color mode '" ++ key ++ "'"))

end ColorMode

end Logline
