import Logline.Sink.File

/-! # Open files

File sinks by name, with the directory that they write to. Several of them may be open on one
file. A sink that is replaced or dropped passes on what it still holds.
-/

namespace Logline

structure OpenFiles where
  directory : Directory
  sinks : List (String × FileSink)
  deriving Inhabited

namespace OpenFiles

def start (path : String) : OpenFiles := ⟨⟨path, []⟩, []⟩

def get? (o : OpenFiles) (name : String) : Option FileSink := o.sinks.lookup name

def put (o : OpenFiles) (name : String) (sink : FileSink) (directory : Directory) : OpenFiles :=
  ⟨directory, (name, sink) :: o.sinks.filter (·.1 != name)⟩

def drop (o : OpenFiles) (name : String) : OpenFiles :=
  match o.get? name with
  | some sink => ⟨sink.drop o.directory, o.sinks.filter (·.1 != name)⟩
  | none => o

/-- Opens a sink under a name; the one that had the name before is dropped after that. -/
def openAs (o : OpenFiles) (name path : String) : Except LogError (FileSink × OpenFiles) :=
  match FileSink.openAt o.directory path with
  | .ok (sink, directory) =>
    let o := { o with directory }.drop name
    .ok (sink, o.put name sink o.directory)
  | .error error => .error error

def write (o : OpenFiles) (name : String) (bytes : ByteArray) :
    Option (Except LogError Nat × OpenFiles) :=
  (o.get? name).map fun sink =>
    let (answer, sink, directory) := sink.write bytes o.directory
    (answer, o.put name sink directory)

def flush (o : OpenFiles) (name : String) : OpenFiles :=
  match o.get? name with
  | some sink =>
    let (sink, directory) := sink.flush o.directory
    o.put name sink directory
  | none => o

def close (o : OpenFiles) (name : String) : OpenFiles :=
  match o.get? name with
  | some sink =>
    let (sink, directory) := sink.close o.directory
    o.put name sink directory
  | none => o

end OpenFiles

end Logline
