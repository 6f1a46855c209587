import Logline.Sink.Store

/-! # Marks

A mark remembers how far a store has come, so that what is new since then can be told: the calls
of the probes, and what the memory sinks gained. A memory sink that is shorter than it was gained
nothing.
-/

namespace Logline

structure Mark where
  lengths : List (SinkId × Nat)
  calls : Nat
  deriving Inhabited

namespace SinkStore

def memoryTexts (s : SinkStore) : List (SinkId × List UInt8) :=
  (List.range s.sinks.length).filterMap fun index =>
    (s.memory? ⟨index⟩).map fun m => (⟨index⟩, Text.utf8 m.contents)

def mark (s : SinkStore) : Mark :=
  ⟨s.memoryTexts.map fun (id, text) => (id, text.length), s.log.length⟩

def callsSince (s : SinkStore) (m : Mark) : SinkLog := s.log.drop m.calls

/-- What each memory sink gained since a mark, if its length is another one. -/
def gainsSince (s : SinkStore) (m : Mark) : List (SinkId × List UInt8) :=
  s.memoryTexts.filterMap fun (id, text) =>
    let before := (m.lengths.lookup id).getD 0
    if text.length = before then none else some (id, text.drop before)

end SinkStore

end Logline
