import Logline.Render.Canvas

/-! # Painters

A painter fixes the punctuation, the quoting and the structure of a line. A render takes a loaded
canvas through the steps of a painter and ends the line.
-/

namespace Logline

/-- What stands in the place of a value that could not write itself, before the error. -/
def errorMarker : String := "!ERROR:"

structure Painter where
  mode : FormatMode
  start : Canvas → Canvas.Result
  time : Zone → TimeLayout → Bool → Canvas → Canvas.Result
  loggerName : String → Nat → Canvas → Canvas.Result
  level : Canvas → Canvas.Result
  message : String → Canvas → Canvas.Result
  attr : Attr → Canvas → Canvas.Result
  caller : Caller → Canvas → Canvas.Result
  /-- The lines of the message that `message` kept back. -/
  deferred : Canvas → Canvas.Result
  finish : Canvas → Canvas.Result

def Painter.attrs (p : Painter) : List Attr → Canvas → Canvas.Result
  | [], c => .ok c
  | a :: r, c => (p.attr a c).bind (p.attrs r)

def Caller.redacted (caller : Caller) (redactor : Option Redactor) : Caller :=
  match redactor with
  | some redactor => { caller with file := redactor.redact caller.file }
  | none => caller

/-- Paints the record and the attributes of a canvas into its buffer, as one line. -/
def Canvas.render (c : Canvas) (options : RenderOptions) (p : Painter) : Canvas.Result := do
  let c ← p.start c
  let c ← p.time options.home options.timeLayout options.utc c
  let c ← p.loggerName c.logger options.nameWidth c
  let c ← p.level c
  let c ← p.message c.message c
  let c ← p.attrs c.table.attrs c
  let c ← match c.caller with
    | some caller => p.caller (caller.redacted options.redactor) c
    | none => .ok c
  let c ← p.deferred c
  let c ← p.finish c
  c.pushByte 0x0a

end Logline
