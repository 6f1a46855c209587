import Logline.Proofs.Escalating
import Logline.Proofs.Isolation

/-! # Custody of canvases

A pool does not say which of its canvases is which. Here each one has a number, which it gets when
it is made, and a book says where each number is: idle, in the hands of a holder, or discarded, and
then in what condition it came back. A book with the numbers left out is a pool with the canvases
that are out. Calls take and give back canvases like any other holder, so that one book is kept for
all of them.
-/

namespace Logline

/-- Nothing of an earlier line is on the canvas, and its buffer is not too large to be kept. -/
structure Canvas.Blank (c : Canvas) : Prop where
  bytes : c.buffer.bytes = ByteArray.empty
  capacity : c.buffer.capacity ≤ CanvasPool.keptCapacity
  attrs : c.table.attrs = []
  index : c.table.index = .empty
  level : c.level = .info
  mode : c.mode = .colorful
  rest : c = .ofBuffer c.buffer

theorem Canvas.blank_reset {c : Canvas} (h : c.buffer.capacity ≤ CanvasPool.keptCapacity) :
    c.reset.Blank := ⟨rfl, h, rfl, rfl, rfl, rfl, rfl⟩

structure Numbered where
  number : Nat
  canvas : Canvas

/-- A canvas that did not go back, in its condition then, and how many were idle at that time. -/
structure Discard where
  number : Nat
  canvas : Canvas
  idle : Nat

/-- What is done with the canvases of a pool. -/
inductive Lending.Step where
  | lend (holder : String)
  | use (holder : String) (f : Canvas → Canvas)
  | giveBack (holder : String)
  /-- Holders lose their canvases one after the other. -/
  | unwind (holders : List String)
  /-- A canvas is taken, used and given back at once. -/
  | borrow (f : Canvas → Canvas)

def Lending.Step.perform (l : Lending) : Step → Lending
  | lend holder => l.lend holder
  | use holder f => l.use holder f
  | giveBack holder => l.giveBack holder
  | unwind holders => holders.foldl Lending.giveBack l
  | borrow f => l.borrow f

/-- Whether a canvas is taken out of the pool. -/
def Lending.Step.takes : Step → Bool
  | lend _ | borrow _ => true
  | use .. | giveBack _ | unwind _ => false

/-- Where the canvases are. -/
structure Custody where
  bound : Nat
  created : Nat
  idle : List Numbered
  held : List (String × Numbered)
  discarded : List Discard

namespace Custody

def new (size : Nat) : Custody := ⟨max size 1, 0, [], [], []⟩

/-- The book without the numbers. -/
def lending (c : Custody) : Lending :=
  ⟨⟨c.bound, c.idle.map (·.canvas), c.created⟩, c.held.map fun (name, n) => (name, n.canvas)⟩

def checkout (c : Custody) : Numbered × Custody :=
  match c.idle with
  | n :: r => (n, { c with idle := r })
  | [] => (⟨c.created, .new⟩, { c with created := c.created + 1 })

def release (c : Custody) (n : Numbered) : Custody :=
  if CanvasPool.keptCapacity < n.canvas.buffer.capacity ∨ c.bound ≤ c.idle.length then
    { c with discarded := c.discarded ++ [⟨n.number, n.canvas, c.idle.length⟩] }
  else { c with idle := c.idle ++ [⟨n.number, n.canvas.reset⟩] }

def giveBack (c : Custody) (holder : String) : Custody :=
  match c.held.lookup holder with
  | some n => { c with held := c.held.filter (·.1 != holder) }.release n
  | none => c

def hand (c : Custody) (holder : String) (n : Numbered) : Custody :=
  { c with held := (holder, n) :: c.held }

def lend (c : Custody) (holder : String) : Custody :=
  (c.checkout.2.giveBack holder).hand holder c.checkout.1

def use (c : Custody) (holder : String) (f : Canvas → Canvas) : Custody :=
  { c with held := c.held.map fun (name, n) =>
      (name, if name = holder then ⟨n.number, f n.canvas⟩ else n) }

def borrow (c : Custody) (f : Canvas → Canvas) : Custody :=
  c.checkout.2.release ⟨c.checkout.1.number, f c.checkout.1.canvas⟩

def perform (c : Custody) : Lending.Step → Custody
  | .lend holder => c.lend holder
  | .use holder f => c.use holder f
  | .giveBack holder => c.giveBack holder
  | .unwind holders => holders.foldl giveBack c
  | .borrow f => c.borrow f

/-! ## The book follows the pool -/

theorem checkout_lending (c : Custody) :
    c.lending.pool.checkout = (c.checkout.1.canvas, c.checkout.2.lending.pool) := by
  obtain ⟨bound, created, _ | ⟨n, r⟩, held, discarded⟩ := c <;> rfl

theorem checkout_held (c : Custody) : c.checkout.2.lending.held = c.lending.held := by
  rw [checkout]
  split <;> rfl

theorem release_lending (c : Custody) (n : Numbered) :
    (c.release n).lending = { c.lending with pool := c.lending.pool.release n.canvas } := by
  have hLength : c.lending.pool.idle.length = c.idle.length := List.length_map _
  have hBound : c.lending.pool.bound = c.bound := rfl
  rw [release, CanvasPool.release, hLength, hBound]
  by_cases hLarge : CanvasPool.keptCapacity < n.canvas.buffer.capacity
  · rw [if_pos (.inl hLarge), if_pos hLarge]
    rfl
  · rw [if_neg hLarge]
    by_cases hFull : c.bound ≤ c.idle.length
    · rw [if_pos (.inr hFull), if_neg (Nat.not_lt.mpr hFull)]
      rfl
    · rw [if_neg (not_or.mpr ⟨hLarge, hFull⟩), if_pos (Nat.not_le.mp hFull)]
      simp [lending]

theorem lookup_lending (c : Custody) (holder : String) :
    c.lending.get? holder = (c.held.lookup holder).map (·.canvas) := by
  have hLookup : ∀ held : List (String × Numbered),
      (held.map fun (name, n) => (name, n.canvas)).lookup holder =
        (held.lookup holder).map (·.canvas) := by
    intro held
    induction held with
    | nil => rfl
    | cons entry r ih =>
      rw [List.map_cons, List.lookup_cons, List.lookup_cons, ih]
      split <;> rfl
  exact hLookup c.held

theorem giveBack_lending (c : Custody) (holder : String) :
    (c.giveBack holder).lending = c.lending.giveBack holder := by
  rw [giveBack, Lending.giveBack, lookup_lending]
  cases hFound : c.held.lookup holder with
  | none => rfl
  | some n =>
    refine (release_lending _ n).trans ?_
    simp [lending, Lending.without, List.filter_map, Function.comp_def]

theorem lend_lending (c : Custody) (holder : String) :
    (c.lend holder).lending = c.lending.lend holder := by
  rw [Lending.lend, checkout_lending, ← checkout_held]
  dsimp only
  rw [← giveBack_lending]
  rfl

theorem use_lending (c : Custody) (holder : String) (f : Canvas → Canvas) :
    (c.use holder f).lending = c.lending.use holder f := by
  simp only [use, lending, Lending.use, List.map_map, Lending.mk.injEq, true_and]
  apply List.map_congr_left
  rintro ⟨name, n⟩ -
  dsimp only [Function.comp_apply]
  split <;> rfl

theorem borrow_lending (c : Custody) (f : Canvas → Canvas) :
    (c.borrow f).lending = c.lending.borrow f := by
  rw [borrow, release_lending, Lending.borrow, checkout_lending, ← checkout_held]

theorem perform_lending (c : Custody) (step : Lending.Step) :
    (c.perform step).lending = step.perform c.lending := by
  cases step with
  | lend holder => exact c.lend_lending holder
  | use holder f => exact c.use_lending holder f
  | giveBack holder => exact c.giveBack_lending holder
  | unwind holders =>
    exact (List.foldl_hom lending fun c holder => (c.giveBack_lending holder).symm).symm
  | borrow f => exact c.borrow_lending f

theorem performAll_lending (c : Custody) (steps : List Lending.Step) :
    (steps.foldl perform c).lending = steps.foldl Lending.Step.perform c.lending :=
  (List.foldl_hom lending fun c step => (c.perform_lending step).symm).symm

/-! ## What the steps do to the canvases that are out -/

theorem release_held (c : Custody) (n : Numbered) : (c.release n).held = c.held := by
  rw [release]
  split <;> rfl

theorem giveBack_held (c : Custody) (holder : String) :
    (c.giveBack holder).held = c.held.filter (·.1 != holder) := by
  rw [giveBack]
  cases hFound : c.held.lookup holder with
  | none =>
    symm
    apply List.filter_eq_self.mpr
    intro entry hEntry
    have hOther := List.lookup_eq_none_iff.mp hFound entry hEntry
    exact bne_iff_ne.mpr (Ne.symm (bne_iff_ne.mp hOther))
  | some n => exact release_held _ n

theorem use_numbers (c : Custody) (holder : String) (f : Canvas → Canvas) :
    (c.use holder f).held.map (·.2.number) = c.held.map (·.2.number) := by
  rw [use, List.map_map]
  apply List.map_congr_left
  rintro ⟨name, n⟩ -
  dsimp only [Function.comp_apply]
  split <;> rfl

theorem borrow_held (c : Custody) (f : Canvas → Canvas) : (c.borrow f).held = c.held := by
  rw [borrow, release_held, checkout]
  split <;> rfl

/-! ## What is made -/

theorem checkout_created (c : Custody) :
    c.checkout.2.created = c.created + if c.idle = [] then 1 else 0 := by
  obtain ⟨bound, created, _ | ⟨n, r⟩, held, discarded⟩ := c <;> rfl

theorem release_created (c : Custody) (n : Numbered) : (c.release n).created = c.created := by
  rw [release]
  split <;> rfl

theorem giveBack_created (c : Custody) (holder : String) :
    (c.giveBack holder).created = c.created := by
  rw [giveBack]
  split
  · exact release_created _ _
  · rfl

theorem perform_created (c : Custody) (step : Lending.Step) :
    (c.perform step).created = c.created + if step.takes ∧ c.idle = [] then 1 else 0 := by
  cases step with
  | lend holder =>
    simp only [Lending.Step.takes, true_and]
    exact (giveBack_created _ holder).trans c.checkout_created
  | borrow f =>
    simp only [Lending.Step.takes, true_and]
    exact (release_created _ _).trans c.checkout_created
  | use holder f => simp [Lending.Step.takes, perform, use]
  | giveBack holder => simp [Lending.Step.takes, perform, giveBack_created]
  | unwind holders =>
    simp only [Lending.Step.takes, Bool.false_eq_true, false_and, if_false, Nat.add_zero, perform]
    induction holders generalizing c with
    | nil => rfl
    | cons holder r ih => exact (ih (c.giveBack holder)).trans (c.giveBack_created holder)

/-! ## The book is right -/

/-- The numbers of all canvases that are anywhere, with those that are in one's own hands. -/
def numbers (c : Custody) (own : List Nat) : List Nat :=
  c.idle.map (·.number) ++ c.held.map (·.2.number) ++ c.discarded.map (·.number) ++ own

structure Sound (size : Nat) (c : Custody) (own : List Nat) : Prop where
  bound : c.bound = max size 1
  bounded : c.idle.length ≤ max size 1
  numbers : (c.numbers own).Perm (List.range c.created)
  holders : (c.held.map Prod.fst).Nodup
  blank : ∀ n ∈ c.idle, n.canvas.Blank
  discarded : ∀ d ∈ c.discarded,
    CanvasPool.keptCapacity < d.canvas.buffer.capacity ∨ d.idle = max size 1

theorem sound_new (size : Nat) : Sound size (new size) [] where
  bound := rfl
  bounded := Nat.zero_le _
  numbers := .refl _
  holders := .nil
  blank _ h := absurd h List.not_mem_nil
  discarded _ h := absurd h List.not_mem_nil

theorem perm_filter_of_lookup {held : List (String × Numbered)} {holder : String} {n : Numbered}
    (hHolders : (held.map Prod.fst).Nodup) (h : held.lookup holder = some n) :
    held.Perm ((holder, n) :: held.filter (·.1 != holder)) := by
  induction held with
  | nil => cases h
  | cons entry r ih =>
    obtain ⟨name, other⟩ := entry
    obtain ⟨hName, hRest⟩ := List.nodup_cons.mp hHolders
    by_cases hSame : holder = name
    · subst hSame
      have hKept : r.filter (·.1 != holder) = r := by
        apply List.filter_eq_self.mpr
        intro entry hEntry
        apply bne_iff_ne.mpr
        intro hOther
        have hMem : entry.1 ∈ r.map Prod.fst := List.mem_map_of_mem hEntry
        exact hName (hOther ▸ hMem)
      rw [List.lookup_cons_self, Option.some.injEq] at h
      simp [h, hKept]
    · have hLookup : r.lookup holder = some n := by
        rw [List.lookup_cons, beq_false_of_ne hSame] at h
        exact h
      have hKept : (name != holder) = true := bne_iff_ne.mpr (Ne.symm hSame)
      simp only [List.filter_cons, hKept, if_true]
      exact ((ih hRest hLookup).cons _).trans (.swap ..)

namespace Sound

variable {size : Nat} {c : Custody} {own : List Nat}

theorem checkout (h : Sound size c own) : Sound size c.checkout.2 (c.checkout.1.number :: own) := by
  obtain ⟨bound, created, _ | ⟨n, r⟩, held, discarded⟩ := c
  · have hOwn : (Custody.numbers ⟨bound, created, [], held, discarded⟩ own).Perm
        (List.range created) := h.numbers
    refine ⟨h.bound, h.bounded, ?_, h.holders, h.blank, h.discarded⟩
    have hNext : (created :: List.range created).Perm (List.range (created + 1)) := by
      rw [List.range_succ]
      exact (List.perm_append_singleton _ _).symm
    exact List.perm_middle.trans ((hOwn.cons _).trans hNext)
  · refine ⟨h.bound, Nat.le_of_succ_le h.bounded, ?_, h.holders, ?_, h.discarded⟩
    · refine .trans ?_ h.numbers
      exact List.perm_middle
    · exact fun m hm => h.blank m (List.mem_cons_of_mem _ hm)

theorem release {n : Numbered} (h : Sound size c (n.number :: own)) :
    Sound size (c.release n) own := by
  obtain ⟨hBound, hBounded, hNumbers, hHolders, hBlank, hDiscarded⟩ := h
  rw [Custody.release]
  split
  · next hLost =>
    rw [hBound] at hLost
    refine ⟨hBound, hBounded, ?_, hHolders, hBlank, ?_⟩
    -- The number goes from one's own hands to the discarded ones, so every count stays as it is.
    · refine .trans ?_ hNumbers
      rw [List.perm_iff_count]
      intro k
      simp [Custody.numbers, List.count_cons]
    · intro d hd
      obtain hOld | hNew := List.mem_append.mp hd
      · exact hDiscarded d hOld
      · obtain rfl := List.mem_singleton.mp hNew
        exact hLost.imp_right (Nat.le_antisymm hBounded)
  · next hKept =>
    rw [hBound] at hKept
    obtain ⟨hSmall, hRoom⟩ := not_or.mp hKept
    refine ⟨hBound, ?_, ?_, hHolders, ?_, hDiscarded⟩
    · rw [List.length_append]
      exact Nat.not_le.mp hRoom
    · refine .trans ?_ hNumbers
      rw [List.perm_iff_count]
      intro k
      simp [Custody.numbers, List.count_cons]
      omega
    · intro m hm
      obtain hOld | hNew := List.mem_append.mp hm
      · exact hBlank m hOld
      · obtain rfl := List.mem_singleton.mp hNew
        exact Canvas.blank_reset (Nat.not_lt.mp hSmall)

theorem giveBack (h : Sound size c own) (holder : String) : Sound size (c.giveBack holder) own := by
  rw [Custody.giveBack]
  cases hFound : c.held.lookup holder with
  | none => exact h
  | some n =>
    have hPerm := perm_filter_of_lookup h.holders hFound
    apply release
    refine ⟨h.bound, h.bounded, ?_, ?_, h.blank, h.discarded⟩
    · refine .trans ?_ h.numbers
      have hNumbers := hPerm.map (·.2.number)
      rw [List.perm_iff_count] at hNumbers ⊢
      intro k
      have hCount := hNumbers k
      simp [Custody.numbers, List.count_cons] at hCount ⊢
      omega
    · exact h.holders.sublist (List.filter_sublist.map _)

theorem lend (h : Sound size c own) (holder : String) : Sound size (c.lend holder) own := by
  have hBack := h.checkout.giveBack holder
  refine ⟨hBack.bound, hBack.bounded, ?_, ?_, hBack.blank, hBack.discarded⟩
  · refine .trans ?_ hBack.numbers
    rw [List.perm_iff_count]
    intro k
    simp [Custody.numbers, Custody.lend, hand, List.count_cons]
    omega
  · apply List.nodup_cons.mpr
    refine ⟨?_, hBack.holders⟩
    rw [giveBack_held]
    intro hMem
    obtain ⟨entry, hEntry, rfl⟩ := List.mem_map.mp hMem
    exact bne_iff_ne.mp (List.mem_filter.mp hEntry).2 rfl

theorem use (h : Sound size c own) (holder : String) (f : Canvas → Canvas) :
    Sound size (c.use holder f) own := by
  refine ⟨h.bound, h.bounded, ?_, ?_, h.blank, h.discarded⟩
  · refine .trans (.of_eq ?_) h.numbers
    rw [Custody.numbers, Custody.numbers, use_numbers]
    rfl
  · rw [Custody.use, List.map_map]
    exact h.holders

theorem borrow (h : Sound size c own) (f : Canvas → Canvas) : Sound size (c.borrow f) own :=
  release (n := ⟨c.checkout.1.number, f c.checkout.1.canvas⟩) h.checkout

theorem unwind (h : Sound size c own) (holders : List String) :
    Sound size (holders.foldl Custody.giveBack c) own := by
  induction holders generalizing c with
  | nil => exact h
  | cons holder r ih => exact ih (h.giveBack holder)

theorem perform (h : Sound size c own) (step : Lending.Step) : Sound size (c.perform step) own := by
  cases step with
  | lend holder => exact h.lend holder
  | use holder f => exact h.use holder f
  | giveBack holder => exact h.giveBack holder
  | unwind holders => exact h.unwind holders
  | borrow f => exact h.borrow f

theorem performAll (h : Sound size c own) (steps : List Lending.Step) :
    Sound size (steps.foldl Custody.perform c) own := by
  induction steps generalizing c with
  | nil => exact h
  | cons step r ih => exact ih (h.perform step)

theorem nodup (h : Sound size c own) : (c.numbers own).Nodup :=
  h.numbers.nodup_iff.mpr List.nodup_range

/-- What is taken out of the pool was in nobody's hands. -/
theorem fresh (h : Sound size c own) :
    c.checkout.1.number ∉ c.held.map (·.2.number) ++ c.discarded.map (·.number) := by
  have hSame : c.checkout.2.held = c.held ∧ c.checkout.2.discarded = c.discarded := by
    rw [Custody.checkout]
    split <;> exact ⟨rfl, rfl⟩
  have hNodup := h.checkout.nodup
  simp only [Custody.numbers, hSame, List.append_assoc] at hNodup
  have hOut := (List.nodup_append.mp hNodup).2.1
  rw [← List.append_assoc] at hOut
  intro hMem
  exact (List.nodup_append.mp hOut).2.2 _ hMem _ List.mem_cons_self rfl

theorem created_eq (h : Sound size c []) :
    c.created = c.idle.length + c.held.length + c.discarded.length := by
  have hLength := h.numbers.length_eq
  simp only [Custody.numbers, List.append_nil, List.length_append, List.length_map,
    List.length_range] at hLength
  exact hLength.symm

end Sound

end Custody

/-! ## Engines -/

/-- A record that passes borrows one canvas. -/
def Attempt.borrowing {W : Type} (a : Attempt W) : List Lending.Step :=
  if a.passes then [.borrow a.use] else []

theorem Attempt.borrowing_eq {W : Type} (a : Attempt W) (l : Lending) :
    a.borrowing.foldl Lending.Step.perform l = a.lend l := by
  rw [borrowing, lend]
  split <;> rfl

theorem Attempt.borrowings_held {W : Type} (as : List (Attempt W)) (c : Custody) :
    ((as.flatMap borrowing).foldl Custody.perform c).held = c.held := by
  induction as generalizing c with
  | nil => rfl
  | cons a r ih =>
    rw [List.flatMap_cons, List.foldl_append, ih, borrowing]
    split
    · exact c.borrow_held a.use
    · rfl

/-- A system, and the canvases of its pool that are in the hands of others. -/
structure Desk (W : Type) where
  system : System W
  held : List (String × Canvas)

namespace Desk

variable {W : Type}

inductive Step (W : Type) where
  | pool (step : Lending.Step)
  | log (environment : Environment) (id : NodeId) (call : Call)
  | emit (environment : Environment) (id : NodeId) (call : Call)
  /-- Anything else that is done has no part in the pool. -/
  | other (f : System W → System W)

def lending (d : Desk W) : Lending := ⟨d.system.engine.pool, d.held⟩

def withPool (s : System W) (pool : CanvasPool) : System W :=
  { s with engine := { s.engine with pool } }

variable [SinkHost W]

def perform (d : Desk W) : Step W → Desk W
  | .pool step =>
    ⟨withPool d.system (step.perform d.lending).pool, (step.perform d.lending).held⟩
  | .log env id call => ⟨(d.system.log env id call).2, d.held⟩
  | .emit env id call => ⟨(d.system.emit env id call).2, d.held⟩
  | .other f => ⟨withPool (f d.system) d.system.engine.pool, d.held⟩

/-- What a step does with the canvases. A call borrows one for each of its records that passes. -/
def steps (d : Desk W) : Step W → List Lending.Step
  | .pool step => [step]
  | .log env id call | .emit env id call =>
    (d.system.attempts env id call).flatMap Attempt.borrowing
  | .other _ => []

def performAll (d : Desk W) : List (Step W) → Desk W
  | [] => d
  | step :: r => performAll (d.perform step) r

def allSteps (d : Desk W) : List (Step W) → List Lending.Step
  | [] => []
  | step :: r => d.steps step ++ allSteps (d.perform step) r

theorem pool_log (env : Environment) (id : NodeId) (call : Call) (s : System W) :
    (s.log env id call).2.engine.pool = (s.emit env id call).2.engine.pool := by
  rw [System.log]
  rcases s.emit env id call with ⟨_ | _ | escalation, t⟩
  · rfl
  · rfl
  · exact System.escalate_keeps (P := fun u => u.engine.pool = t.engine.pool) rfl rfl rfl
      (fun _ _ h => h) escalation

theorem write_lending (d : Desk W) (env : Environment) (id : NodeId) (call : Call) :
    ((d.system.attempts env id call).flatMap Attempt.borrowing).foldl Lending.Step.perform
        d.lending = ⟨(d.system.write env id call).2.engine.pool, d.held⟩ := by
  rw [List.foldl_flatMap]
  simp only [Attempt.borrowing_eq]
  exact (Runs.of_write env id call d.system).lending d.held

theorem perform_lending (d : Desk W) (step : Step W) :
    (d.perform step).lending = (d.steps step).foldl Lending.Step.perform d.lending := by
  cases step with
  | pool step => rfl
  | log env id call =>
    rw [steps, write_lending, lending, perform, pool_log, System.emit_eq]
  | emit env id call =>
    rw [steps, write_lending, lending, perform, System.emit_eq]
  | other f => rfl

theorem performAll_lending (d : Desk W) (steps : List (Step W)) :
    (d.performAll steps).lending = (d.allSteps steps).foldl Lending.Step.perform d.lending := by
  induction steps generalizing d with
  | nil => rfl
  | cons step r ih =>
    rw [performAll, ih, perform_lending, allSteps, List.foldl_append]

theorem performAll_append (d : Desk W) (steps more : List (Step W)) :
    d.performAll (steps ++ more) = (d.performAll steps).performAll more := by
  induction steps generalizing d with
  | nil => rfl
  | cons step r ih => exact ih (d.perform step)

theorem allSteps_append (d : Desk W) (steps more : List (Step W)) :
    d.allSteps (steps ++ more) = d.allSteps steps ++ (d.performAll steps).allSteps more := by
  induction steps generalizing d with
  | nil => rfl
  | cons step r ih =>
    rw [List.cons_append, allSteps, allSteps, ih, List.append_assoc]
    rfl

/-- Canvases are in one place each, from first to last. Whatever is done with the pool of an engine,
by holders of canvases and by calls in between, one book says where every canvas is. -/
theorem performAll_custody (env : Environment) (o : EngineOptions) (sinks : W)
    (steps : List (Step W)) :
    let start : Desk W := ⟨.ofBuild env o sinks, []⟩
    let found := start.performAll steps
    let book (done : List Lending.Step) : Custody :=
      done.foldl Custody.perform (.new o.poolSize)
    -- The book of all that was done is the pool of the engine with the canvases that are out.
    (book (start.allSteps steps)).lending = ⟨found.system.engine.pool, found.held⟩ ∧
    -- It is in order at any time, also in the middle of a call.
    (∀ done, done <+: start.allSteps steps →
      let c := book done
      c.idle.length ≤ max o.poolSize 1 ∧
      c.created = c.idle.length + c.held.length + c.discarded.length ∧
      (∀ d ∈ c.discarded, CanvasPool.keptCapacity < d.canvas.buffer.capacity ∨
        d.idle = max o.poolSize 1) ∧
      (∀ n ∈ c.idle, n.canvas.Blank) ∧
      (c.idle.map (·.number) ++ c.held.map (·.2.number) ++ c.discarded.map (·.number)).Perm
        (List.range c.created) ∧
      (c.held.map Prod.fst).Nodup ∧
      -- What is handed out next is in nobody's hands, and it is new if none is idle.
      c.checkout.1.number ∉ c.held.map (·.2.number) ++ c.discarded.map (·.number) ∧
      ∀ step, (c.perform step).created =
        c.created + if step.takes ∧ c.idle = [] then 1 else 0) ∧
    -- After a call those canvases are out that were out before it, whatever became of its records.
    ∀ env id call step, step = Step.log env id call ∨ step = Step.emit env id call →
      let later := book (start.allSteps (steps ++ [step]))
      later.lending = ⟨(found.perform step).system.engine.pool, found.held⟩ ∧
      later.held = (book (start.allSteps steps)).held := by
  intro start found book
  have hSound (done : List Lending.Step) : Custody.Sound o.poolSize (book done) [] :=
    (Custody.sound_new o.poolSize).performAll done
  have hBook (steps : List (Step W)) :
      (book (start.allSteps steps)).lending = (start.performAll steps).lending := by
    rw [performAll_lending]
    exact (Custody.new o.poolSize).performAll_lending _
  refine ⟨hBook steps, ?_, ?_⟩
  · intro done _ c
    have hOrder := hSound done
    refine ⟨hOrder.bounded, hOrder.created_eq, hOrder.discarded, hOrder.blank, ?_, hOrder.holders,
      hOrder.fresh, c.perform_created⟩
    have hNumbers := hOrder.numbers
    rwa [Custody.numbers, List.append_nil] at hNumbers
  · intro env id call step hStep
    have hMore : start.allSteps (steps ++ [step]) =
        start.allSteps steps ++ (found.system.attempts env id call).flatMap Attempt.borrowing := by
      rw [allSteps_append]
      obtain rfl | rfl := hStep <;> exact congrArg _ (List.append_nil _)
    constructor
    · have hCalled : (found.perform step).lending =
          ⟨(found.perform step).system.engine.pool, found.held⟩ := by
        obtain rfl | rfl := hStep <;> rfl
      rw [← hCalled]
      exact (hBook (steps ++ [step])).trans
        (congrArg lending (performAll_append start steps [step]))
    · dsimp only [book]
      rw [hMore, List.foldl_append, Attempt.borrowings_held]

end Desk

end Logline
