import Logline.Render.Painter

/-! # JSON lines

One object per line. The fields of the record come first, then the attributes with groups as
nested objects, then the caller. What is no JSON value of its own is a string.
-/

namespace Logline.JsonPainter

/-- Writes again, with escapes, what was written from `mark` on. -/
def escapeTail (b : Buffer) (mark : Nat) : Buffer.Result :=
  (b.tail mark).bind fun bytes => (b.truncate mark).writeEscaped (Text.lossy bytes)

def quoted (f : Buffer → Buffer.Result) (b : Buffer) : Buffer.Result := do
  let b ← b.pushByte 0x22
  let b ← f b
  b.pushByte 0x22

/-- A number, or a string for what is none. -/
def writeFloat (x : Binary64) (b : Buffer) : Buffer.Result :=
  if x.isFinite then b.writeFloat x else quoted (·.writeFloat x) b

def writeFloat32 (x : Binary32) (b : Buffer) : Buffer.Result :=
  if x.isFinite then b.writeFloat32 x else quoted (·.writeFloat32 x) b

def writeItems {α : Type} (write : α → Buffer → Buffer.Result) : List α → Buffer → Buffer.Result
  | [], b => b.pushByte 0x5d
  | x :: r, b => do
    let b ← b.pushByte 0x2c
    let b ← write x b
    writeItems write r b

def writeList {α : Type} (write : α → Buffer → Buffer.Result) (items : List α) (b : Buffer) :
    Buffer.Result := do
  let b ← b.pushByte 0x5b
  match items with
  | [] => b.pushByte 0x5d
  | x :: r => (write x b).bind (writeItems write r)

def writeError (e : LogError) (b : Buffer) : Buffer.Result :=
  b.writeQuoted (errorMarker ++ e.message)

/-- A value that writes itself; one that writes nothing is null. -/
def writeMarshal (m : Marshal) (b : Buffer) : Buffer.Result := do
  let mark := b.size
  let (b, failure) ← m.write .json b
  match failure with
  | some e => writeError e (b.truncate mark)
  | none => if b.size = mark then b.pushText "null" else return b

mutual

def writeValue : Value → Buffer → Buffer.Result
  | .null, b => b.pushText "null"
  | .bool v, b => b.writeBool v
  | .int n, b => b.writeInt n
  | .uint n, b => b.writeNat n
  | .float x, b => writeFloat x b
  | .float32 x, b => writeFloat32 x b
  | .complex re im, b => quoted (·.writeComplex re im) b
  | .complex32 re im, b => quoted (·.writeComplex32 re im) b
  | .string s, b => b.writeQuoted s
  | .bytes bytes, b => b.writeQuoted (Text.lossy bytes)
  | .duration d, b => quoted (·.writeDuration d) b
  | .time t, b => quoted (·.writeTime t) b
  | .strings items, b => writeList (fun s b => b.writeQuoted s) items b
  | .bools items, b => writeList (fun v b => b.writeBool v) items b
  | .ints items, b => writeList (fun n b => b.writeInt n) items b
  | .floats items, b => writeList writeFloat items b
  | .json j, b => b.pushPieces j.pieces
  | .marshal m, b => writeMarshal m b
  | .foreign f, b => b.writeQuoted f.debug
  | .group attrs, b => do
    let b ← b.pushByte 0x7b
    let b ← writeAttrs true attrs b
    b.pushByte 0x7d

def writeAttrs (first : Bool) : List (Entry Value) → Buffer → Buffer.Result
  | [], b => .ok b
  | ⟨key, value⟩ :: r, b => do
    let b ← if first then .ok b else b.pushByte 0x2c
    let b ← b.writeQuoted key
    let b ← b.pushByte 0x3a
    let b ← writeValue value b
    writeAttrs false r b

end

/-- The time: a number where the layout gives one, a string otherwise. -/
def writeTime (home : Zone) (layout : TimeLayout) (t : Instant) (utc : Bool) (b : Buffer) :
    Buffer.Result :=
  if layout.isNumeric then b.writeLayout home layout t utc
  else do
    let b ← b.pushByte 0x22
    let mark := b.size
    let b ← b.writeLayout home layout t utc
    let b ← match layout with
      | .custom _ => escapeTail b mark
      | _ => .ok b
    b.pushByte 0x22

/-- A member that starts with `label`, its key and colon. -/
def field (label : String) (f : Buffer → Buffer.Result) (c : Canvas) : Canvas.Result := do
  let c ← c.nextField 0x2c
  let c ← c.pushText label
  c.write f

def writeCaller (caller : Caller) (b : Buffer) : Buffer.Result := do
  let b ← b.writeQuoted caller.file
  let b ← b.pushText ",\"line\":"
  let b ← b.writeNat caller.line
  let b ← b.pushText ",\"function\":"
  let b ← b.writeQuoted caller.function
  b.pushByte 0x7d

def attr (a : Attr) (c : Canvas) : Canvas.Result := do
  let c ← c.nextField 0x2c
  c.write fun b => do
    let b ← b.writeQuoted a.key
    let b ← b.pushByte 0x3a
    writeValue a.value b

end JsonPainter

def Painter.json : Painter where
  mode := .json
  start c := c.pushByte 0x7b
  time home layout utc c :=
    JsonPainter.field "\"time\":" (JsonPainter.writeTime home layout c.time utc) c
  loggerName name _ c :=
    if name.isEmpty then .ok c else JsonPainter.field "\"logger\":" (·.writeQuoted name) c
  level c := JsonPainter.field "\"level\":" (·.writeQuoted c.title) c
  message message c := JsonPainter.field "\"msg\":" (·.writeQuoted message) c
  attr := JsonPainter.attr
  caller caller c :=
    JsonPainter.field "\"caller\":\x7b\"file\":" (JsonPainter.writeCaller caller) c
  deferred := .ok
  finish c := c.pushByte 0x7d

end Logline
