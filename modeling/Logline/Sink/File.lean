import Logline.Sink.Basic

/-! # File sinks

A file sink appends to a file through a buffer of its own. The buffer goes to the file when it is
flushed, closed or dropped, and before a line that it has no room for; a line as large as the
buffer goes to the file at once. Several sinks may be open on one file.
-/

namespace Logline

/-- A directory with its files in the order of their creation. -/
structure Directory where
  path : String
  files : List (String × ByteArray)
  deriving Inhabited

namespace Directory

/-- A path inside the directory, unless it starts at the root. -/
def join (d : Directory) (path : String) : String :=
  if path.toList.head? = some '/' then path else d.path ++ "/" ++ path

def maxNameSize : Nat := 255

def maxPathSize : Nat := 4095

/-- The file that a path inside the directory means, if it can mean one. -/
def locate? (d : Directory) (path : String) : Option String :=
  if path.toList.head? = some '/' ∨ '\x00' ∈ path.toList ∨
      maxPathSize < (d.join path).utf8ByteSize then none
  else
    match (path.splitOn "/").getLast? with
    | some "" | some "." | some ".." => none
    | _ =>
      match (path.splitOn "/").filter fun part => part != "" && part != "." with
      | [name] => if name.utf8ByteSize ≤ maxNameSize then some name else none
      | _ => none

def get? (d : Directory) (file : String) : Option ByteArray := d.files.lookup file

def read? (d : Directory) (path : String) : Option ByteArray := (d.locate? path).bind d.get?

def create (d : Directory) (file : String) : Directory :=
  match d.get? file with
  | some _ => d
  | none => { d with files := d.files ++ [(file, ByteArray.empty)] }

def append (d : Directory) (file : String) (bytes : ByteArray) : Directory :=
  { d with files := d.files.map fun (name, content) =>
      (name, if name = file then content ++ bytes else content) }

end Directory

structure FileSink where
  path : String
  file : String
  /-- The bytes that are not in the file yet; nothing once the sink is closed. -/
  pending : Option ByteArray
  deriving Inhabited

namespace FileSink

def bufferSize : Nat := 8192

def notFound : String := "No such file or directory (os error 2)"

/-- Opens a file for appending; it is created if need be. -/
def openAt (d : Directory) (path : String) : Except LogError (FileSink × Directory) :=
  match d.locate? path with
  | some file => .ok (⟨d.join path, file, some ByteArray.empty⟩, d.create file)
  | none => .error (.ioOperation "opening log file" (d.join path) notFound)

def name (f : FileSink) : String := "file:" ++ f.path

/-- Puts a line behind the pending bytes, some of which may have to go to the file. -/
def write (f : FileSink) (bytes : ByteArray) (d : Directory) :
    Except LogError Nat × FileSink × Directory :=
  match f.pending with
  | none => (.error (.sinkClosed f.name), f, d)
  | some pending =>
    if pending.size + bytes.size ≤ bufferSize ∧ bytes.size < bufferSize then
      (.ok bytes.size, { f with pending := some (pending ++ bytes) }, d)
    else if bytes.size < bufferSize then
      (.ok bytes.size, { f with pending := some bytes }, d.append f.file pending)
    else
      (.ok bytes.size, { f with pending := some ByteArray.empty },
        (d.append f.file pending).append f.file bytes)

def flush (f : FileSink) (d : Directory) : FileSink × Directory :=
  match f.pending with
  | none => (f, d)
  | some pending => ({ f with pending := some ByteArray.empty }, d.append f.file pending)

def close (f : FileSink) (d : Directory) : FileSink × Directory :=
  let (f, d) := f.flush d
  ({ f with pending := none }, d)

def drop (f : FileSink) (d : Directory) : Directory := (f.flush d).2

end FileSink

end Logline
