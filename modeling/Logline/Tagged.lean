import Logline.Attr
import Logline.Json.Basic
import Logline.Text.Hex

/-! # Tagged forms

The form of a value as a document that keeps its kind: the kind is under `t` and the content under
`v`. Whole numbers are texts, binary numbers are given by their bits, and bytes are hexadecimal, so
nothing is rounded. What only writes itself has no content.
-/

namespace Logline

def Binary64.tagged (x : Binary64) : Json := .string (Text.hexPadded 16 x.bits.toNat)

def Binary32.tagged (x : Binary32) : Json := .string (Text.hexPadded 8 x.bits.toNat)

namespace Value

def taggedNumber (n : Int) : Json := .string (toString n)

mutual

def content? : Value → Option Json
  | null => none
  | bool b => some (.bool b)
  | int n => some (taggedNumber n)
  | uint n => some (taggedNumber n)
  | float x => some x.tagged
  | float32 x => some x.tagged
  | complex re im => some (.array [re.tagged, im.tagged])
  | complex32 re im => some (.array [re.tagged, im.tagged])
  | string s => some (.string s)
  | bytes bs => some (.string (Text.hexOfBytes bs))
  | duration d => some (.array [taggedNumber d.seconds, .natural d.nanos])
  | time t => some (.array [taggedNumber t.seconds, .natural t.nanos])
  | strings items => some (.array (items.map .string))
  | bools items => some (.array (items.map .bool))
  | ints items => some (.array (items.map taggedNumber))
  | floats items => some (.array (items.map Binary64.tagged))
  | json j => some (.string j.text)
  | marshal _ => none
  | foreign f => some (.string f.debug)
  | group attrs => some (.array (taggedAttrs attrs))

def taggedAttrs : List (Entry Value) → List Json
  | [] => []
  | ⟨k, v⟩ :: r =>
    .array [.string k, .object (("t", .string v.kind) :: (content? v).toList.map (("v", ·)))] ::
      taggedAttrs r

end

def tagged (v : Value) : Json :=
  .object (("t", .string v.kind) :: v.content?.toList.map (("v", ·)))

end Value

end Logline
