import Logline.Render.Canvas

/-! # Canvas pools

A pool keeps a bounded number of idle canvases in a queue. A canvas is new only when none is idle;
one that comes back is reset, unless its buffer grew too large or the pool is full.
-/

namespace Logline

structure CanvasPool where
  bound : Nat
  idle : List Canvas
  created : Nat
  deriving Inhabited

namespace CanvasPool

inductive Fault where
  | tooManyPlaces
  | tooManyBytes
  deriving DecidableEq, Repr

def Fault.message : Fault → String
  | tooManyPlaces => "bounded channel capacity is too large"
  | tooManyBytes => "capacity overflow"

/-- A queue numbers its places and its laps in one word of 64 bits. -/
def placeBound : Nat := Nat.pow 2 62

/-- What one place takes, and what a queue may take in all. -/
def placeBytes : Nat := 344

def byteBound : Nat := Nat.pow 2 63

def defaultSize : Nat := 64

/-- The largest capacity that is kept. -/
def keptCapacity : Nat := 65536

def new (size : Nat) : CanvasPool := ⟨max size 1, [], 0⟩

def new? (size : Nat) : Except Fault CanvasPool :=
  if placeBound ≤ size then .error .tooManyPlaces
  else if byteBound ≤ size * placeBytes then .error .tooManyBytes
  else .ok (new size)

/-- Takes the canvas that has been idle longest, or a new one. -/
def checkout (p : CanvasPool) : Canvas × CanvasPool :=
  match p.idle with
  | c :: r => (c, { p with idle := r })
  | [] => (.new, { p with created := p.created + 1 })

def release (p : CanvasPool) (c : Canvas) : CanvasPool :=
  if keptCapacity < c.buffer.capacity then p
  else if p.idle.length < p.bound then { p with idle := p.idle ++ [c.reset] }
  else p

end CanvasPool

end Logline
