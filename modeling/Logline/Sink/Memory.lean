import Logline.Sink.Basic
import Logline.Text.Blank
import Logline.Text.Utf8

/-! # Memory sinks

A memory sink keeps every line that it takes. It can be told to refuse lines, and once closed it
refuses them for good; what it holds stays readable.
-/

namespace Logline

structure MemorySink where
  name : String
  bytes : ByteArray
  /-- The level of the last line that was taken. -/
  lastLevel : Option Level
  /-- The level that was announced last. -/
  pendingLevel : Option Level
  failing : Bool
  closed : Bool
  deriving Inhabited

namespace MemorySink

def named (name : String) : MemorySink := ⟨name, ByteArray.empty, none, none, false, false⟩

def new : MemorySink := named "memory"

def size (m : MemorySink) : Nat := m.bytes.size

def isEmpty (m : MemorySink) : Bool := m.size == 0

def contents (m : MemorySink) : String := Text.lossy m.bytes.data.toList

def lines (m : MemorySink) : List String := Text.lines m.contents

def clear (m : MemorySink) : MemorySink := { m with bytes := ByteArray.empty, lastLevel := none }

def setFailing (m : MemorySink) (failing : Bool) : MemorySink := { m with failing }

def setLevel (m : MemorySink) (level : Level) : MemorySink := { m with pendingLevel := some level }

/-- Takes a line as a whole or not at all. -/
def write (m : MemorySink) (bytes : ByteArray) : Except LogError Nat × MemorySink :=
  if m.closed then (.error (.sinkClosed m.name), m)
  else if m.failing then (.error (.writer (m.name ++ ": write rejected")), m)
  else (.ok bytes.size, { m with bytes := m.bytes ++ bytes, lastLevel := m.pendingLevel })

def close (m : MemorySink) : MemorySink := { m with closed := true }

end MemorySink

end Logline
