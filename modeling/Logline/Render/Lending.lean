import Logline.Render.Pool

/-! # Lending

A pool together with the canvases that are out, each under the name of its holder. A canvas is idle
in the pool or out, and never both.
-/

namespace Logline

structure Lending where
  pool : CanvasPool
  held : List (String × Canvas)
  deriving Inhabited

namespace Lending

def start? (size : Nat) : Except CanvasPool.Fault Lending :=
  (CanvasPool.new? size).map fun pool => ⟨pool, []⟩

def get? (l : Lending) (holder : String) : Option Canvas := l.held.lookup holder

/-- Puts a canvas into the hands of a holder who has none. -/
def hand (l : Lending) (holder : String) (canvas : Canvas) : Lending :=
  { l with held := (holder, canvas) :: l.held }

def without (held : List (String × Canvas)) (holder : String) : List (String × Canvas) :=
  held.filter (·.1 != holder)

def giveBack (l : Lending) (holder : String) : Lending :=
  match l.get? holder with
  | some canvas => ⟨l.pool.release canvas, without l.held holder⟩
  | none => l

/-- Lends a canvas; one that the holder had before comes back after that. -/
def lend (l : Lending) (holder : String) : Lending :=
  let (canvas, pool) := l.pool.checkout
  ({ l with pool }.giveBack holder).hand holder canvas

def use (l : Lending) (holder : String) (f : Canvas → Canvas) : Lending :=
  { l with held := l.held.map fun (name, canvas) =>
      (name, if name = holder then f canvas else canvas) }

def borrow (l : Lending) (f : Canvas → Canvas) : Lending :=
  let (canvas, pool) := l.pool.checkout
  { l with pool := pool.release (f canvas) }

end Lending

end Logline
