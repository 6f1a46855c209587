import Logline.Sink.Memory
import Logline.Sink.File
import Logline.Sink.Probe

/-! # Sink stores

A store holds sinks of the known kinds, with the directory of the file sinks and the log of the
probes. It starts with the two consoles. What a console shows is not kept.
-/

namespace Logline

inductive ConsoleTarget where
  | stdout
  | stderr
  deriving DecidableEq, Repr, Inhabited

def ConsoleTarget.name : ConsoleTarget → String
  | stdout => "stdout"
  | stderr => "stderr"

inductive Sink where
  | memory (m : MemorySink)
  | console (target : ConsoleTarget)
  | file (f : FileSink)
  | probe (p : Probe)
  /-- A sink that notes its writes and takes all of them. -/
  | minimal (name : String)
  | writer (p : Probe)
  deriving Inhabited

def Sink.name : Sink → String
  | memory m => m.name
  | console target => target.name
  | file f => f.name
  | minimal name => name
  | probe p | writer p => p.name

def Sink.mapProbe (f : Probe → Probe) : Sink → Sink
  | probe p => probe (f p)
  | writer p => writer (f p)
  | sink => sink

structure SinkStore where
  sinks : List Sink
  directory : Directory
  log : SinkLog
  deriving Inhabited

namespace SinkStore

def new : SinkStore := ⟨[.console .stdout, .console .stderr], ⟨"", []⟩, []⟩

def get? (s : SinkStore) (id : SinkId) : Option Sink := s.sinks[id.index]?

def add (s : SinkStore) (sink : Sink) : SinkId × SinkStore :=
  (⟨s.sinks.length⟩, { s with sinks := s.sinks ++ [sink] })

def put (s : SinkStore) (id : SinkId) (sink : Sink) : SinkStore :=
  { s with sinks := s.sinks.set id.index sink }

def modify (s : SinkStore) (id : SinkId) (f : Sink → Sink) : SinkStore :=
  { s with sinks := s.sinks.modify id.index f }

def memory? (s : SinkStore) (id : SinkId) : Option MemorySink :=
  match s.get? id with
  | some (.memory m) => some m
  | _ => none

def name (s : SinkStore) (id : SinkId) : String := ((s.get? id).map Sink.name).getD ""

def setLevel (id : SinkId) (level : Level) (s : SinkStore) : SinkStore :=
  match s.get? id with
  | some (.memory m) => s.put id (.memory (m.setLevel level))
  | some (.probe p) => { s with log := p.note (.level level) s.log }
  | _ => s

def write (id : SinkId) (bytes : ByteArray) (s : SinkStore) : Except LogError Nat × SinkStore :=
  match s.get? id with
  | some (.memory m) =>
    let (answer, m) := m.write bytes
    (answer, s.put id (.memory m))
  | some (.console _) => (.ok bytes.size, s)
  | some (.file f) =>
    let (answer, f, directory) := f.write bytes s.directory
    (answer, { s.put id (.file f) with directory })
  | some (.probe p) =>
    let (answer, log) := p.write bytes s.log
    (answer, { s with log })
  | some (.minimal name) => (.ok bytes.size, { s with log := s.log ++ [(name, .write bytes)] })
  | some (.writer p) =>
    let (answer, w) := (p.writer s.log).write bytes
    (answer, { s with log := w.state })
  | none => (.error (.sinkClosed ""), s)

def flush (id : SinkId) (s : SinkStore) : Except LogError Unit × SinkStore :=
  match s.get? id with
  | some (.file f) =>
    let (f, directory) := f.flush s.directory
    (.ok (), { s.put id (.file f) with directory })
  | some (.probe p) =>
    let (answer, log) := p.flush s.log
    (answer, { s with log })
  | some (.writer p) =>
    let (answer, w) := (p.writer s.log).flush
    (answer, { s with log := w.state })
  | _ => (.ok (), s)

/-- Memory sinks and file sinks take nothing after this; the other kinds are flushed. -/
def close (id : SinkId) (s : SinkStore) : Except LogError Unit × SinkStore :=
  match s.get? id with
  | some (.memory m) => (.ok (), s.put id (.memory m.close))
  | some (.file f) =>
    let (f, directory) := f.close s.directory
    (.ok (), { s.put id (.file f) with directory })
  | _ => s.flush id

instance : SinkHost SinkStore where
  name := name
  setLevel := setLevel
  write := write
  flush := flush
  close := close

end SinkStore

end Logline
