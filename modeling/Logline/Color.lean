import Logline.Text.Case

/-! # Terminal colours

Colours by name or by their parts, and the codes that switch them on.
-/

namespace Logline

inductive Hue where
  | black
  | red
  | green
  | yellow
  | blue
  | magenta
  | cyan
  | white
  deriving DecidableEq, Repr, Inhabited

def Hue.ofName? (name : String) : Option Hue :=
  [("black", black), ("red", red), ("green", green), ("yellow", yellow), ("blue", blue),
    ("magenta", magenta), ("purple", magenta), ("cyan", cyan), ("white", white)].lookup name

inductive Color where
  | named (hue : Hue) (bright : Bool)
  | mixed (red green blue : Nat)
  deriving DecidableEq, Repr, Inhabited

namespace Color

def hueCode : Hue → Nat
  | .black => 0
  | .red => 1
  | .green => 2
  | .yellow => 3
  | .blue => 4
  | .magenta => 5
  | .cyan => 6
  | .white => 7

private def mixedCode (kind : String) (red green blue : Nat) : String :=
  kind ++ ";2;" ++ toString red ++ ";" ++ toString green ++ ";" ++ toString blue

/-- A colour by the name of its hue in any case, with a word before it if it is bright. -/
def ofName? (name : String) : Option Color :=
  match (Text.lower name).splitOn " " with
  | [hue] => (Hue.ofName? hue).map (named · false)
  | ["bright", hue] => (Hue.ofName? hue).map (named · true)
  | _ => none

def foreground : Color → String
  | named hue bright => toString ((if bright then 90 else 30) + hueCode hue)
  | mixed red green blue => mixedCode "38" red green blue

/-- The code of the colour behind letters. -/
def background : Color → String
  | named hue bright => toString ((if bright then 100 else 40) + hueCode hue)
  | mixed red green blue => mixedCode "48" red green blue

end Color

end Logline
