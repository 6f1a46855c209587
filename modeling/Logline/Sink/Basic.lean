import Logline.Level.Basic
import Logline.Error

/-! # Sinks

A sink takes lines. Sinks are shared: they are named by identities, and one of them may stand in
several lists. What a sink does with a line is up to the state behind it, of which nothing is
assumed: a write may be refused, or take a part of the line only.
-/

namespace Logline

structure SinkId where
  index : Nat
  deriving DecidableEq, Repr, Inhabited

namespace SinkId

def stdout : SinkId := ⟨0⟩

def stderr : SinkId := ⟨1⟩

end SinkId

class SinkHost (W : Type) where
  name : W → SinkId → String
  /-- Announces the level of the line that is written next. -/
  setLevel : SinkId → Level → W → W
  /-- Offers a line; the answer is the number of bytes that were taken. -/
  write : SinkId → ByteArray → W → Except LogError Nat × W
  flush : SinkId → W → Except LogError Unit × W
  close : SinkId → W → Except LogError Unit × W

structure SinkFailure where
  sink : String
  error : LogError
  deriving DecidableEq, Repr, Inhabited

end Logline
