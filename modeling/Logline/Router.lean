import Logline.Sink.Basic
import Logline.Level.Registry
import Logline.DebugForm

/-! # Routers

A router says which sinks take the lines of a level: those listed for the level itself, or else
the error sinks or the normal ones. A failure of one sink keeps no other sink from its line.
-/

namespace Logline

structure Router where
  normal : List SinkId := []
  errors : List SinkId := []
  /-- Sinks for single levels, each level once. -/
  overrides : List (Level × List SinkId) := []
  /-- Whether a line reaches all of its sinks before another line may start. -/
  strict : Bool := false
  deriving DecidableEq, Repr, Inhabited

namespace Router

def empty : Router := {}

def single (sinks : List SinkId) : Router := { normal := sinks, errors := sinks }

def addNormal (r : Router) (sink : SinkId) : Router := { r with normal := r.normal ++ [sink] }

def addError (r : Router) (sink : SinkId) : Router := { r with errors := r.errors ++ [sink] }

def addTo (level : Level) (sink : SinkId) :
    List (Level × List SinkId) → List (Level × List SinkId)
  | [] => [(level, [sink])]
  | (l, sinks) :: r =>
    if l = level then (l, sinks ++ [sink]) :: r else (l, sinks) :: addTo level sink r

/-- Adds a sink for one level, whose lines no longer take the way of the others. -/
def addOverride (r : Router) (level : Level) (sink : SinkId) : Router :=
  { r with overrides := addTo level sink r.overrides }

def withStrict (r : Router) (strict : Bool) : Router := { r with strict }

def isEmpty (r : Router) : Bool := r.normal.isEmpty && r.errors.isEmpty && r.overrides.isEmpty

def sinksFor (r : Router) (registry : LevelRegistry) (level : Level) : List SinkId :=
  match r.overrides.lookup level with
  | some sinks => sinks
  | none => if registry.isErrorStream level then r.errors else r.normal

def allSinks (r : Router) : List SinkId :=
  (r.normal ++ r.errors ++ r.overrides.flatMap (·.2)).eraseDups

section

variable {W : Type} [SinkHost W]

def shortWrite (taken size : Nat) : LogError :=
  .writer ("short write: " ++ toString taken ++ " of " ++ toString size ++ " bytes")

/-- Writes a line to one sink; a line that is taken in part has failed. -/
def deliver (level : Level) (bytes : ByteArray) (sink : SinkId) (w : W) :
    Option SinkFailure × W :=
  match SinkHost.write sink bytes (SinkHost.setLevel sink level w) with
  | (.ok n, w) =>
    if n < bytes.size then (some ⟨SinkHost.name w sink, shortWrite n bytes.size⟩, w)
    else (none, w)
  | (.error error, w) => (some ⟨SinkHost.name w sink, error⟩, w)

def deliverAll (level : Level) (bytes : ByteArray) : List SinkId → W → List SinkFailure × W
  | [], w => ([], w)
  | sink :: r, w =>
    let (failure, w) := deliver level bytes sink w
    let (failures, w) := deliverAll level bytes r w
    (failure.toList ++ failures, w)

def route (r : Router) (registry : LevelRegistry) (level : Level) (bytes : ByteArray) (w : W) :
    List SinkFailure × W :=
  deliverAll level bytes (r.sinksFor registry level) w

end

/-- Does one thing after the other, none left out, and answers with the first error. -/
def firstError {W α : Type} (act : α → W → Except LogError Unit × W) :
    List α → W → Except LogError Unit × W
  | [], w => (.ok (), w)
  | a :: r, w =>
    match act a w with
    | (.ok _, w) => firstError act r w
    | (.error error, w) => (.error error, (firstError act r w).2)

def flush {W : Type} [SinkHost W] (r : Router) (w : W) : Except LogError Unit × W :=
  firstError SinkHost.flush r.allSinks w

def close {W : Type} [SinkHost W] (r : Router) (w : W) : Except LogError Unit × W :=
  firstError SinkHost.close r.allSinks w

end Router

namespace DebugForm

def level (l : Level) : String := wrap "LogLevel" (toString l.ordinal)

def router (r : Router) : String :=
  record "Router" [("normal", toString r.normal.length), ("error", toString r.errors.length),
    ("overrides", list (r.overrides.map fun (l, _) => level l)), ("strict", bool r.strict)]

end DebugForm

end Logline
