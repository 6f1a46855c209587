import Logline.Render.Painter

/-! # Text lines

What the formats without nesting have in common: values that are quoted where a reader could take
them for something else, and groups that become dotted keys.
-/

namespace Logline.TextPainter

def isDelimiter (b : UInt8) : Bool := b ≤ 0x20 || b == 0x3d || b == 0x22 || b == 0x5c || b == 0x7f

def needsQuote (bytes : List UInt8) : Bool := bytes.isEmpty || bytes.any isDelimiter

def writeText (s : String) (b : Buffer) : Buffer.Result :=
  if needsQuote (Text.utf8 s) then b.writeQuoted s else b.pushText s

/-- Quotes what was written from `mark` on, if it has to be. -/
def quoteTail (b : Buffer) (mark : Nat) : Buffer.Result :=
  (b.tail mark).bind fun bytes =>
    let text := Text.lossy bytes
    if needsQuote (Text.utf8 text) then (b.truncate mark).writeQuoted text else .ok b

def writeItems {α : Type} (write : α → Buffer → Buffer.Result) : List α → Buffer → Buffer.Result
  | [], b => b.pushByte 0x5d
  | x :: r, b => do
    let b ← b.pushByte 0x2c
    let b ← write x b
    writeItems write r b

/-- A list in brackets, quoted as a whole where it has to be. -/
def writeList {α : Type} (write : α → Buffer → Buffer.Result) (items : List α) (b : Buffer) :
    Buffer.Result := do
  let mark := b.size
  let b ← b.pushByte 0x5b
  let b ← match items with
    | [] => b.pushByte 0x5d
    | x :: r => (write x b).bind (writeItems write r)
  quoteTail b mark

def quoted (f : Buffer → Buffer.Result) (b : Buffer) : Buffer.Result := do
  let b ← b.pushByte 0x22
  let b ← f b
  b.pushByte 0x22

def writeMarshal (m : Marshal) (mode : FormatMode) (b : Buffer) : Buffer.Result := do
  let mark := b.size
  let (b, failure) ← m.write mode b
  match failure with
  | some e => writeText (errorMarker ++ e.message) (b.truncate mark)
  | none => quoteTail b mark

def writeValue (mode : FormatMode) : Value → Buffer → Buffer.Result
  | .null, b => b.pushText "null"
  | .bool v, b => b.writeBool v
  | .int n, b => b.writeInt n
  | .uint n, b => b.writeNat n
  | .float x, b => b.writeFloat x
  | .float32 x, b => b.writeFloat32 x
  | .complex re im, b => b.writeComplex re im
  | .complex32 re im, b => b.writeComplex32 re im
  | .string s, b => writeText s b
  | .bytes bytes, b => writeText (Text.lossy bytes) b
  | .duration d, b => quoted (·.writeDuration d) b
  | .time t, b => quoted (·.writeTime t) b
  | .strings items, b => writeList writeText items b
  | .bools items, b => writeList (fun v b => b.writeBool v) items b
  | .ints items, b => writeList (fun n b => b.writeInt n) items b
  | .floats items, b => writeList (fun x b => b.writeFloat x) items b
  | .json j, b => writeText j.text b
  | .marshal m, b => writeMarshal m mode b
  | .foreign f, b => writeText f.debug b
  | .group _, b => .ok b

/-- A byte that a sanitized key keeps. -/
def isKeyByte (b : UInt8) : Bool :=
  (0x30 ≤ b && b ≤ 0x39) || (0x41 ≤ b && b ≤ 0x5a) || (0x61 ≤ b && b ≤ 0x7a) || b == 0x5f ||
    b == 0x2e || b == 0x2d

def sanitize (key : String) : List UInt8 := (Text.utf8 key).filter isKeyByte

def pushEach : List UInt8 → Buffer → Buffer.Result
  | [], b => .ok b
  | byte :: r, b => (b.pushByte byte).bind (pushEach r)

/-- A key behind the path of its groups. A sanitized key of which nothing is left is `_`. -/
def writeKey (sanitized : Bool) (path key : String) (b : Buffer) : Buffer.Result :=
  if sanitized then do
    let b ← pushEach (sanitize path) b
    match sanitize key with
    | [] => b.pushByte 0x5f
    | bytes => pushEach bytes b
  else do
    let b ← b.pushText path
    b.pushText key

mutual

/-- The fields of an attribute: one for each value in it that is no group. -/
def writeAttr (sanitized : Bool) (key : String) : Value → Canvas → Canvas.Result
  | .group attrs, c => do
    let outside := c.path.utf8ByteSize
    let c ← writeAttrs sanitized attrs (c.enter key)
    return c.leave outside
  | value, c => do
    let c ← c.nextField 0x20
    c.write fun b => do
      let b ← writeKey sanitized c.path key b
      let b ← b.pushByte 0x3d
      writeValue c.mode value b

def writeAttrs (sanitized : Bool) : List (Entry Value) → Canvas → Canvas.Result
  | [], c => .ok c
  | ⟨key, value⟩ :: r, c => do
    let c ← writeAttr sanitized key value c
    writeAttrs sanitized r c

end

def field (label : String) (f : Buffer → Buffer.Result) (c : Canvas) : Canvas.Result := do
  let c ← c.nextField 0x20
  let c ← c.pushText label
  c.write f

/-! ## Lines for people -/

def colorEnd : String := "\x1b[0m"

def colorStart (foreground background : Option Color) : List String :=
  match foreground, background with
  | none, none => []
  | some f, none => ["\x1b[", f.foreground, "m"]
  | none, some b => ["\x1b[", b.background, "m"]
  | some f, some b => ["\x1b[", f.foreground, ";", b.background, "m"]

def colored (f : Canvas → Canvas.Result) (c : Canvas) : Canvas.Result :=
  match colorStart c.foreground c.background with
  | [] => f c
  | pieces => do
    let c ← c.write (·.pushPieces pieces)
    let c ← f c
    c.pushText colorEnd

/-- The first line of a message without carriage returns at its end, and the rest behind the line
feed. -/
def splitMessage (message : String) : String × Option String :=
  let cs := message.toList
  match cs.dropWhile (· != '\n') with
  | [] => (message, none)
  | _ :: rest =>
    let first := cs.takeWhile (· != '\n')
    (String.ofList (first.reverse.dropWhile (· == '\r')).reverse, some (String.ofList rest))

def keepBack (rest : Option String) (c : Canvas) : Canvas :=
  { c with deferred := c.deferred ++ rest.getD "" }

def bracketedTag (c : Canvas) : Canvas.Result := do
  let c ← c.pushByte 0x5b
  let c ← c.pushText c.tag
  c.pushByte 0x5d

def time (home : Zone) (layout : TimeLayout) (utc : Bool) (c : Canvas) : Canvas.Result := do
  let c ← c.nextField 0x20
  c.write (·.writeLayout home layout c.time utc)

def shortCaller (caller : Caller) (c : Canvas) : Canvas.Result := do
  let c ← c.nextField 0x20
  c.write fun b => do
    let b ← b.pushText caller.file
    let b ← b.pushByte 0x3a
    let b ← b.writeNat caller.line
    if caller.function.isEmpty then return b
    else
      let b ← b.pushByte 0x20
      b.pushText caller.function

def writeLines : List String → Buffer → Buffer.Result
  | [], b => .ok b
  | line :: r, b => do
    let b ← b.pushText "\n    "
    let b ← b.pushText line
    writeLines r b

def deferred (c : Canvas) : Canvas.Result := c.write (writeLines (Text.lines c.deferred))

end Logline.TextPainter
