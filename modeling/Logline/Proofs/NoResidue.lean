import Logline.Proofs.SteadyPainters
import Logline.Render.Pool

/-! # No residue

Loading a record makes any two canvases alike, whatever was left on them: another record, fields of
a line, an index that does not match its attributes, a buffer cut off in the middle of a render.
Merging keeps them alike and painting is steady, so a line depends on nothing that was there before.
-/

namespace Logline

/-- Attributes on their way to a canvas, as a list or as arguments. -/
inductive Merge where
  | ofAttrs (attrs : List Attr)
  | ofArgs (args : List Arg)
  deriving Inhabited

def Canvas.merge (c : Canvas) : Merge → Canvas
  | .ofAttrs attrs => c.mergeAttrs attrs
  | .ofArgs args => c.mergeArgs args

def Merge.Leaves (P : Value → Prop) : Merge → Prop
  | .ofAttrs attrs => Value.LeavesOf P attrs
  | .ofArgs args => ∀ a ∈ args, a.Leaves P

/-- All that a user of a canvas says about one line. -/
structure Job where
  registry : LevelRegistry
  record : Record
  mode : FormatMode
  colors : Bool
  merges : List Merge
  options : RenderOptions
  painter : FormatMode
  deriving Inhabited

def Job.load (j : Job) (c : Canvas) : Canvas :=
  j.merges.foldl Canvas.merge (c.set j.registry j.record j.mode j.colors)

/-- The bytes of a canvas, or why there are none. -/
def Canvas.outcome : Canvas.Result → Except Buffer.FaultCause ByteArray
  | .ok c => .ok c.buffer.bytes
  | .error fault => .error fault.cause

def Job.run (j : Job) (c : Canvas) : Except Buffer.FaultCause ByteArray :=
  Canvas.outcome ((j.load c).render j.options (.ofMode j.painter))

theorem Agree.outcome_eq {R : Canvas → Canvas → Prop} {x y : Canvas.Result} (h : Agree R x y)
    (hBytes : ∀ c d, R c d → c.buffer.bytes = d.buffer.bytes) :
    Canvas.outcome x = Canvas.outcome y := by
  cases h with
  | ok hR => exact congrArg Except.ok (hBytes _ _ hR)
  | error hCause => exact congrArg Except.error hCause

theorem Canvas.alike_set (c d : Canvas) (registry : LevelRegistry) (record : Record)
    (mode : FormatMode) (colors : Bool) :
    (c.set registry record mode colors).Alike (d.set registry record mode colors) :=
  ⟨d.buffer.reset, rfl, rfl⟩

theorem Canvas.Alike.merge {c d : Canvas} (h : c.Alike d) (m : Merge) :
    (c.merge m).Alike (d.merge m) := by
  obtain ⟨b, hb, rfl⟩ := h
  cases m with
  | ofAttrs attrs => exact ⟨b, hb, rfl⟩
  | ofArgs args => exact ⟨b, hb, rfl⟩

theorem Canvas.leavesOf_merge {P : Value → Prop} {c : Canvas} {m : Merge}
    (hTable : Value.LeavesOf P c.table.attrs) (hMerge : m.Leaves P) :
    Value.LeavesOf P (c.merge m).table.attrs := by
  cases m with
  | ofAttrs attrs => exact AttrTable.leavesOf_merge hTable hMerge
  | ofArgs args =>
    rw [Canvas.merge, Canvas.mergeArgs, AttrTable.mergeArgs_eq]
    exact AttrTable.leavesOf_merge hTable (Arg.leavesOf_toAttrs hMerge)

theorem Job.alike_load (j : Job) (c d : Canvas) : (j.load c).Alike (j.load d) := by
  have hMerges : ∀ (merges : List Merge) (c d : Canvas), c.Alike d →
      (merges.foldl Canvas.merge c).Alike (merges.foldl Canvas.merge d) := by
    intro merges
    induction merges with
    | nil => exact fun _ _ h => h
    | cons m r ih => exact fun c d h => ih _ _ (h.merge m)
  exact hMerges _ _ _ (Canvas.alike_set c d ..)

theorem Job.leavesOf_load {P : Value → Prop} (j : Job) (hMerges : ∀ m ∈ j.merges, m.Leaves P)
    (c : Canvas) :
    Value.LeavesOf P (j.load c).table.attrs := by
  have hFold : ∀ (merges : List Merge) (c : Canvas), (∀ m ∈ merges, m.Leaves P) →
      Value.LeavesOf P c.table.attrs →
      Value.LeavesOf P (merges.foldl Canvas.merge c).table.attrs := by
    intro merges
    induction merges with
    | nil => exact fun _ _ h => h
    | cons m r ih =>
      intro c hMerges h
      exact ih _ (fun m hm => hMerges m (List.mem_cons_of_mem _ hm))
        (Canvas.leavesOf_merge h (hMerges m (by simp)))
  exact hFold _ _ hMerges trivial

/-- Each step of a render keeps alike canvases alike, and they hold the same attributes. -/
theorem Canvas.Alike.render {c d : Canvas} (h : c.Alike d)
    (hLeaves : Value.LeavesOf Value.SteadyLeaf c.table.attrs) (options : RenderOptions)
    {p : Painter} (hp : p.Steady) :
    Agree (fun x y => x.Alike y ∧ x.table = c.table) (c.render options p) (d.render options p) := by
  have hName : Canvas.Steady fun c => p.loggerName c.logger options.nameWidth c := by
    rintro c _ ⟨b, hb, rfl⟩
    exact hp.loggerName _ _ c _ ⟨b, hb, rfl⟩
  have hMessage : Canvas.Steady fun c => p.message c.message c := by
    rintro c _ ⟨b, hb, rfl⟩
    exact hp.message _ c _ ⟨b, hb, rfl⟩
  have hEnd := hp.deferred.bind (hp.finish.bind (.pushByte 0x0a))
  refine (hp.start c d h).bind ?_
  rintro c₁ d₁ ⟨h₁, hTable₁⟩
  refine (hp.time _ _ _ c₁ d₁ h₁).bind ?_
  rintro c₂ d₂ ⟨h₂, hTable₂⟩
  refine (hName c₂ d₂ h₂).bind ?_
  rintro c₃ d₃ ⟨h₃, hTable₃⟩
  refine (hp.level c₃ d₃ h₃).bind ?_
  rintro c₄ d₄ ⟨h₄, hTable₄⟩
  refine (hMessage c₄ d₄ h₄).bind ?_
  rintro c₅ d₅ ⟨⟨b, hb, rfl⟩, hTable₅⟩
  have hTable : c₅.table = c.table := by
    rw [hTable₅, hTable₄, hTable₃, hTable₂, hTable₁]
  rw [← hTable] at hLeaves ⊢
  refine (hp.attrs hLeaves c₅ _ ⟨b, hb, rfl⟩).bind ?_
  rintro c₆ d₆ ⟨h₆, hTable₆⟩
  have hCaller : d₆.caller = c₆.caller := by
    obtain ⟨b, _, rfl⟩ := h₆
    rfl
  rw [← hTable₆, hCaller]
  cases c₆.caller with
  | some caller => exact (hp.caller (caller.redacted options.redactor)).bind hEnd c₆ d₆ h₆
  | none => exact Canvas.Steady.ok.bind hEnd c₆ d₆ h₆

/-- The line of a job does not depend on the canvas it is run on. In particular a canvas of a pool
gives the line that a new one gives. -/
theorem Job.run_eq (j : Job) (hSteady : ∀ m ∈ j.merges, m.Leaves Value.SteadyLeaf) :
    (∀ c d : Canvas, j.run c = j.run d) ∧
      ∀ pool : CanvasPool, j.run pool.checkout.1 = j.run .new := by
  have hRun : ∀ c d : Canvas, j.run c = j.run d := by
    intro c d
    have hLeaves := j.leavesOf_load hSteady c
    have hRender := (j.alike_load c d).render hLeaves j.options (Painter.steady_ofMode j.painter)
    exact hRender.outcome_eq fun _ _ h => h.1.bytes_eq
  exact ⟨hRun, fun pool => hRun _ _⟩

def Marshal.ofFormat : Marshal := ⟨0, fun mode b => (b.pushText mode.name).map (·, none), ""⟩

theorem Marshal.ofFormat_steady : Marshal.ofFormat.Steady := fun mode b d h =>
  (Buffer.Steady.pushText mode.name b d h).bind fun _ _ h => .ok ⟨h, rfl⟩

/-- A canvas in the middle of a line, with an index into attributes that are gone. -/
def Canvas.abandoned : Canvas :=
  { Canvas.new with
    buffer := ⟨⟨#[0x7b, 0x22]⟩, 2, Nat.le_refl 2⟩
    table := ⟨[], .of [⟨"user", .int 7⟩]⟩
    path := "request."
    fields := 3 }

def Job.ofFormat : Job :=
  { (default : Job) with merges := [.ofAttrs [⟨"user", .marshal .ofFormat⟩]] }

theorem Job.run_eq_of_abandoned :
    (∀ m ∈ Job.ofFormat.merges, m.Leaves Value.SteadyLeaf) ∧
      Job.ofFormat.run .abandoned = Job.ofFormat.run .new ∧
      ∀ pool : CanvasPool, Job.ofFormat.run pool.checkout.1 = Job.ofFormat.run .new := by
  have hSteady : ∀ m ∈ Job.ofFormat.merges, m.Leaves Value.SteadyLeaf := by
    intro m hm
    obtain rfl := List.mem_singleton.mp hm
    exact ⟨Marshal.ofFormat_steady, trivial⟩
  obtain ⟨hCanvas, hPool⟩ := Job.run_eq Job.ofFormat hSteady
  exact ⟨hSteady, hCanvas _ _, hPool⟩

end Logline
