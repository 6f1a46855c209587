import Logline.Attr
import Logline.Level.Registry
import Logline.Redactor

/-! # Canvases

A canvas is the state of one render: the record, the attributes that were merged for it, and what
a painter has put down so far. Loading a record resets everything that an earlier render left,
the capacity of the buffer apart.
-/

namespace Logline

structure Caller where
  file : String
  line : Nat
  /-- Empty when it is not known. -/
  function : String
  deriving DecidableEq, Repr, Inhabited

structure Record where
  level : Level
  time : Instant
  logger : String
  message : String
  caller : Option Caller
  deriving Inhabited

structure RenderOptions where
  timeLayout : TimeLayout
  utc : Bool
  /-- The zone of times that are not universal. -/
  home : Zone
  nameWidth : Nat
  redactor : Option Redactor
  deriving Inhabited

structure Canvas where
  buffer : Buffer
  level : Level
  mode : FormatMode
  title : String
  tag : String
  foreground : Option Color
  background : Option Color
  time : Instant
  logger : String
  message : String
  caller : Option Caller
  table : AttrTable
  /-- The keys of the groups around an attribute, each with a point after it. -/
  path : String
  /-- The lines of the message after the first. -/
  deferred : String
  fields : Nat
  deriving Inhabited

namespace Canvas

def ofBuffer (buffer : Buffer) : Canvas where
  buffer
  level := .info
  mode := .colorful
  title := ""
  tag := ""
  foreground := none
  background := none
  time := .epoch
  logger := ""
  message := ""
  caller := none
  table := .empty
  path := ""
  deferred := ""
  fields := 0

def new : Canvas := ofBuffer .new

/-- Clears everything and keeps the capacity. -/
def reset (c : Canvas) : Canvas := ofBuffer c.buffer.reset

/-- Loads a record. Colours are those of a registered level. -/
def set (c : Canvas) (registry : LevelRegistry) (record : Record) (mode : FormatMode)
    (colors : Bool) : Canvas :=
  let info := registry.info? record.level
  { c.reset with
    level := record.level
    mode
    time := record.time
    logger := record.logger
    message := record.message
    caller := record.caller
    title := registry.title record.level
    tag := registry.shortTag record.level lineTagWidth
    foreground := if colors then info.bind (·.foreground) else none
    background := if colors then info.bind (·.background) else none }

def mergeAttrs (c : Canvas) (attrs : List Attr) : Canvas := { c with table := c.table.merge attrs }

def mergeArgs (c : Canvas) (args : List Arg) : Canvas := { c with table := c.table.mergeArgs args }

abbrev Result := Except Buffer.Fault Canvas

def write (c : Canvas) (f : Buffer → Buffer.Result) : Result :=
  (f c.buffer).map fun buffer => { c with buffer }

def pushByte (c : Canvas) (byte : UInt8) : Result := c.write (·.pushByte byte)

def pushText (c : Canvas) (s : String) : Result := c.write (·.pushText s)

/-- Goes into the group `key`. -/
def enter (c : Canvas) (key : String) : Canvas := { c with path := c.path ++ key ++ "." }

/-- Cuts the path back to the first `size` bytes, which it had outside of a group. -/
def leave (c : Canvas) (size : Nat) : Canvas := { c with path := Text.firstBytes size c.path }

/-- Starts a field, after a separator if it is not the first one. -/
def nextField (c : Canvas) (separator : UInt8) : Result := do
  let c ← if 0 < c.fields then c.pushByte separator else .ok c
  return { c with fields := c.fields + 1 }

end Canvas

end Logline
