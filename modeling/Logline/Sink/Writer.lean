import Logline.Sink.Basic

/-! # Sinks over byte streams

A byte stream takes a first part of what it is offered. A writer sink offers the rest of a line
again until all of it is taken or the stream fails.
-/

namespace Logline

structure ByteStream (σ : Type) where
  /-- Offers bytes; the answer is the number of those that were taken. -/
  write : ByteArray → σ → Except String Nat × σ
  flush : σ → Except String Unit × σ

namespace ByteStream

variable {σ : Type}

/-- What a stream that takes nothing leads to. -/
def stalled : String := "failed to write whole buffer"

/-- Offers bytes until all of them are taken. -/
def writeAll (stream : ByteStream σ) (bytes : ByteArray) (s : σ) : Except String Unit × σ :=
  if _ : bytes.size = 0 then (.ok (), s)
  else
    match stream.write bytes s with
    | (.error e, s) => (.error e, s)
    | (.ok 0, s) => (.error stalled, s)
    | (.ok (n + 1), s) => stream.writeAll (bytes.extract (n + 1) bytes.size) s
termination_by bytes.size
decreasing_by
  simp only [ByteArray.size_extract]
  omega

def collector : ByteStream ByteArray where
  write bytes all := (.ok bytes.size, all ++ bytes)
  flush all := (.ok (), all)

end ByteStream

structure WriterSink (σ : Type) where
  name : String
  stream : ByteStream σ
  state : σ

namespace WriterSink

variable {σ : Type}

def write (w : WriterSink σ) (bytes : ByteArray) : Except LogError Nat × WriterSink σ :=
  match w.stream.writeAll bytes w.state with
  | (.ok _, state) => (.ok bytes.size, { w with state })
  | (.error e, state) => (.error (.ioOperation "writing log line" w.name e), { w with state })

def flush (w : WriterSink σ) : Except LogError Unit × WriterSink σ :=
  match w.stream.flush w.state with
  | (.ok _, state) => (.ok (), { w with state })
  | (.error e, state) => (.error (.io e), { w with state })

def close (w : WriterSink σ) : Except LogError Unit × WriterSink σ := w.flush

end WriterSink

end Logline
