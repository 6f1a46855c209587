import Logline.Sink.Writer

/-! # Probes

A probe is a sink or a stream that answers as it is told and notes what it was asked for.
-/

namespace Logline

inductive SinkEvent where
  | level (level : Level)
  | write (bytes : ByteArray)
  | io (bytes : ByteArray)
  | flush
  deriving Inhabited

/-- The calls of all probes, oldest first, each with the name of its probe. -/
abbrev SinkLog := List (String × SinkEvent)

structure Probe where
  name : String
  failure : Option String := none
  flushFailure : Option String := none
  /-- The bytes missing from what a sink takes of a line, or the most that a stream takes in one
  call, where zero stands for all. -/
  short : Nat := 0
  deriving Inhabited

namespace Probe

def note (p : Probe) (event : SinkEvent) (log : SinkLog) : SinkLog := log ++ [(p.name, event)]

/-- A write is noted even if it fails. -/
def write (p : Probe) (bytes : ByteArray) (log : SinkLog) : Except LogError Nat × SinkLog :=
  match p.failure with
  | some message => (.error (.other message), p.note (.write bytes) log)
  | none => (.ok (bytes.size - p.short), p.note (.write bytes) log)

def flush (p : Probe) (log : SinkLog) : Except LogError Unit × SinkLog :=
  match p.flushFailure with
  | some message => (.error (.other message), p.note .flush log)
  | none => (.ok (), p.note .flush log)

/-- The probe as a stream; what it refuses is not noted. -/
def stream (p : Probe) : ByteStream SinkLog where
  write bytes log :=
    match p.failure with
    | some message => (.error message, log)
    | none =>
      let taken := if p.short = 0 then bytes.size else min bytes.size p.short
      (.ok taken, p.note (.io (bytes.extract 0 taken)) log)
  flush log :=
    match p.flushFailure with
    | some message => (.error message, p.note .flush log)
    | none => (.ok (), p.note .flush log)

def writer (p : Probe) (log : SinkLog) : WriterSink SinkLog := ⟨p.name, p.stream, log⟩

end Probe

end Logline
