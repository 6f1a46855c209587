import Logline.Render.JsonPainter
import Logline.Render.TextPainter

/-! # The painters of the formats

One painter for each format. A colourful line is a plain line with colours around its tag and its
message, and with padding that aligns the columns of successive lines.
-/

namespace Logline

namespace LogfmtPainter

open TextPainter

def writeTime (home : Zone) (layout : TimeLayout) (t : Instant) (utc : Bool) (b : Buffer) :
    Buffer.Result := do
  let mark := b.size
  let b ← b.writeLayout home layout t utc
  quoteTail b mark

def writeCaller (caller : Caller) (b : Buffer) : Buffer.Result := do
  let b ← writeText caller.file b
  let b ← b.pushText " caller.line="
  let b ← b.writeNat caller.line
  if caller.function.isEmpty then return b
  else
    let b ← b.pushText " caller.function="
    writeText caller.function b

end LogfmtPainter

def Painter.logfmt : Painter where
  mode := .logfmt
  start := .ok
  time home layout utc c :=
    TextPainter.field "time=" (LogfmtPainter.writeTime home layout c.time utc) c
  loggerName name _ c :=
    if name.isEmpty then .ok c else TextPainter.field "logger=" (TextPainter.writeText name) c
  level c := TextPainter.field "level=" (TextPainter.writeText c.title) c
  message message c := TextPainter.field "msg=" (TextPainter.writeText message) c
  attr a := TextPainter.writeAttr true a.key a.value
  caller caller c := TextPainter.field "caller.file=" (LogfmtPainter.writeCaller caller) c
  deferred := .ok
  finish := .ok

def Painter.plain : Painter where
  mode := .plain
  start := .ok
  time := TextPainter.time
  loggerName name _ c :=
    if name.isEmpty then .ok c else do
      let c ← c.nextField 0x20
      c.pushText name
  level c := do
    let c ← c.nextField 0x20
    TextPainter.bracketedTag c
  message message c := do
    let c ← c.nextField 0x20
    let (first, rest) := TextPainter.splitMessage message
    let c ← c.pushText first
    return TextPainter.keepBack rest c
  attr a := TextPainter.writeAttr false a.key a.value
  caller := TextPainter.shortCaller
  deferred := TextPainter.deferred
  finish := .ok

/-- The column width of the first line of a message. -/
def messageWidth : Nat := 32

def Painter.colorful : Painter where
  mode := .colorful
  start := .ok
  time := TextPainter.time
  loggerName name width c :=
    if name.isEmpty ∧ width = 0 then .ok c else do
      let c ← c.nextField 0x20
      let c ← c.pushText name
      c.write (·.pad (width - name.length))
  level c := do
    let c ← c.nextField 0x20
    TextPainter.colored TextPainter.bracketedTag c
  message message c := do
    let c ← c.nextField 0x20
    let (first, rest) := TextPainter.splitMessage message
    let c ← TextPainter.colored (·.pushText first) c
    let c ← c.write (·.pad (messageWidth - first.length))
    return TextPainter.keepBack rest c
  attr a := TextPainter.writeAttr false a.key a.value
  caller := TextPainter.shortCaller
  deferred := TextPainter.deferred
  finish := .ok

def Painter.ofMode : FormatMode → Painter
  | .json => .json
  | .logfmt => .logfmt
  | .colorful => .colorful
  | .plain => .plain

end Logline
