import Logline.Proofs.FileLines
import Mathlib.Logic.Function.Basic

/-! # Steps of file sinks

A program opens file sinks, on one path or on several, and writes to them, flushes them, closes
them and drops them in any order. A step does nothing, or opens one more sink, or has one sink take
bytes and pass on the first of those that it has.
-/

namespace Logline

/-- The bytes of a file, none if there is no such file. -/
def Directory.content (d : Directory) (file : String) : List UInt8 :=
  ((d.get? file).map (·.data.toList)).getD []

/-- A file sink of the program. Nothing more can be done with it once it is dropped. -/
structure FileHandle where
  sink : FileSink
  dropped : Bool

/-- The file sinks of a program in the order of their opening, on the files of a directory. -/
structure FileTable where
  directory : Directory
  handles : List FileHandle

/-- What is done with one of the sinks, which go by their numbers. -/
inductive FileStep where
  | openAt (path : String)
  | write (k : Nat) (line : ByteArray)
  | flush (k : Nat)
  | close (k : Nat)
  | drop (k : Nat)

/-- The steps that leave nothing in the buffer of a sink. -/
def FileStep.Empties (k : Nat) (step : FileStep) : Prop :=
  step = .flush k ∨ step = .close k ∨ step = .drop k

/-- Bytes that are put together from the bytes of several sources, those of each source in their
own order. -/
inductive Interleaved : (Nat → List UInt8) → List UInt8 → Prop where
  | nil : Interleaved (fun _ => []) []
  | append {parts : Nat → List UInt8} {whole : List UInt8} (k : Nat) (bytes : List UInt8) :
      Interleaved parts whole →
        Interleaved (Function.update parts k (parts k ++ bytes)) (whole ++ bytes)

namespace FileSink

/-- The bytes of a line that an answer says to be taken. -/
def taken (line : ByteArray) : Except LogError Nat → List UInt8
  | .ok n => line.data.toList.take n
  | .error _ => []

/-- The bytes that a sink has yet to pass on to its file. -/
def waiting (f : FileSink) : List UInt8 := (f.pending.map (·.data.toList)).getD []

end FileSink

namespace FileTable

def start (d : Directory) : FileTable := ⟨d, []⟩

def sink? (t : FileTable) (k : Nat) : Option FileSink :=
  match t.handles[k]? with
  | some ⟨sink, false⟩ => some sink
  | _ => none

def file? (t : FileTable) (k : Nat) : Option String := t.handles[k]?.map (·.sink.file)

def answer? (t : FileTable) (k : Nat) (line : ByteArray) : Option (Except LogError Nat) :=
  (t.sink? k).map fun f => (f.write line t.directory).1

/-- The table after something is done with a sink, if it is not dropped. -/
def act (t : FileTable) (k : Nat) (does : FileSink → Directory → FileHandle × Directory) :
    FileTable :=
  match t.sink? k with
  | some f => ⟨(does f t.directory).2, t.handles.set k (does f t.directory).1⟩
  | none => t

def after (t : FileTable) : FileStep → FileTable
  | .openAt path =>
    match FileSink.openAt t.directory path with
    | .ok (sink, d) => ⟨d, t.handles ++ [⟨sink, false⟩]⟩
    | .error _ => t
  | .write k line => t.act k fun f d => (⟨(f.write line d).2.1, false⟩, (f.write line d).2.2)
  | .flush k => t.act k fun f d => (⟨(f.flush d).1, false⟩, (f.flush d).2)
  | .close k => t.act k fun f d => (⟨(f.close d).1, false⟩, (f.close d).2)
  | .drop k => t.act k fun f d => (⟨{ f with pending := none }, true⟩, f.drop d)

def afterAll (t : FileTable) (steps : List FileStep) : FileTable := steps.foldl after t

/-- The bytes that a sink takes in one step. -/
def taken (t : FileTable) (k : Nat) : FileStep → List UInt8
  | .write i line => if i = k then ((t.answer? k line).map (FileSink.taken line)).getD [] else []
  | _ => []

/-- All bytes that a sink takes, in the order of the writes. -/
def accepted (k : Nat) : List FileStep → FileTable → List UInt8
  | [], _ => []
  | step :: r, t => t.taken k step ++ accepted k r (t.after step)

end FileTable

/-! ## One sink -/

namespace FileSink

/-- What is done with a sink as far as its bytes go: some of those that wait and of those that it
takes are moved to its file, and the rest waits in the same order. -/
structure Passes (f : FileSink) (d : Directory) (taken : List UInt8) (f' : FileSink)
    (d' : Directory) (moved : ByteArray) : Prop where
  path : f'.path = f.path
  file : f'.file = f.file
  directory : ∀ name, d'.get? name =
    (d.get? name).map fun content => if name = f.file then content ++ moved else content
  order : moved.data.toList ++ f'.waiting = f.waiting ++ taken

theorem Passes.none {f f' : FileSink} {d : Directory} (hPath : f'.path = f.path)
    (hFile : f'.file = f.file) (hWaiting : f'.waiting = f.waiting) :
    f.Passes d [] f' d .empty where
  path := hPath
  file := hFile
  directory name := by simp
  order := by simp [hWaiting]

theorem Moves.passes {f f' : FileSink} {d d' : Directory} {pending moved kept : ByteArray}
    {given : List ByteArray} (h : f.Moves d (pending :: given) f' d' moved kept)
    (hPending : f.pending = some pending) :
    f.Passes d (given.flatMap (·.data.toList)) f' d' moved := by
  obtain ⟨rfl, hDirectory, -, hOrder⟩ := h
  refine ⟨rfl, rfl, hDirectory, ?_⟩
  rw [waiting, waiting, hPending]
  exact hOrder

theorem answer_write {f : FileSink} {pending : ByteArray} (h : f.pending = some pending)
    (line : ByteArray) (d : Directory) : (f.write line d).1 = .ok line.size := by
  rw [write, h]
  dsimp only
  split
  · rfl
  · split <;> rfl

theorem write_of_closed {f : FileSink} (h : f.pending = none) (line : ByteArray) (d : Directory) :
    f.write line d = (.error (.sinkClosed f.name), f, d) := by
  rw [write, h]

theorem taken_all (line : ByteArray) : taken line (.ok line.size) = line.data.toList :=
  List.take_of_length_le (by simp)

theorem passes_write (f : FileSink) (line : ByteArray) (d : Directory) :
    ∃ moved, f.Passes d (taken line (f.write line d).1) (f.write line d).2.1
      (f.write line d).2.2 moved := by
  cases hPending : f.pending with
  | none =>
    rw [write_of_closed hPending]
    exact ⟨.empty, .none rfl rfl rfl⟩
  | some pending =>
    obtain ⟨moved, kept, hMoves⟩ := moves_write hPending line d
    refine ⟨moved, ?_⟩
    rw [answer_write hPending, taken_all]
    simpa using hMoves.passes hPending

theorem passes_flush (f : FileSink) (d : Directory) :
    ∃ moved, f.Passes d [] (f.flush d).1 (f.flush d).2 moved := by
  cases hPending : f.pending with
  | none =>
    rw [flush, hPending]
    exact ⟨.empty, .none rfl rfl rfl⟩
  | some pending => exact ⟨pending, (moves_flush hPending d).passes hPending⟩

theorem waiting_flush (f : FileSink) (d : Directory) : (f.flush d).1.waiting = [] := by
  cases hPending : f.pending with
  | none => simp [flush, waiting, hPending]
  | some pending => simp [flush, waiting, hPending]

/-- A sink that passes its bytes on and is closed then has passed all of them on. -/
theorem passes_close (f : FileSink) (d : Directory) :
    ∃ moved, f.Passes d [] { f with pending := none } (f.flush d).2 moved := by
  obtain ⟨moved, hPasses⟩ := f.passes_flush d
  refine ⟨moved, rfl, rfl, hPasses.directory, ?_⟩
  rw [← hPasses.order, waiting_flush]
  rfl

theorem close_eq (f : FileSink) (d : Directory) :
    f.close d = ({ f with pending := none }, (f.flush d).2) := by
  rw [close, flush]
  cases f.pending <;> rfl

end FileSink

/-! ## One step -/

theorem Directory.content_create (d : Directory) (file name : String) :
    (d.create file).content name = d.content name := by
  rw [content, content, create]
  split
  · rfl
  · next hAbsent =>
    rw [get?, get?, List.lookup_append]
    cases hName : d.files.lookup name with
    | some bytes => rfl
    | none =>
      rw [Option.none_or, List.lookup_cons]
      split <;> rfl

theorem Directory.isSome_get?_create (d : Directory) (file name : String)
    (h : name = file ∨ (d.get? name).isSome) : ((d.create file).get? name).isSome := by
  rw [create]
  split
  · next bytes hBytes =>
    obtain rfl | h := h
    · exact Option.isSome_of_eq_some hBytes
    · exact h
  · rw [get?, List.lookup_append, Option.isSome_or]
    obtain rfl | h := h
    · simp
    · rw [get?] at h
      simp [h]

/-- The sink that a step is about. -/
def FileStep.subject? : FileStep → Option Nat
  | .openAt _ => none
  | .write k _ | .flush k | .close k | .drop k => some k

theorem FileStep.Empties.subject? {step : FileStep} {k : Nat} (h : step.Empties k) :
    step.subject? = some k := by
  obtain rfl | rfl | rfl := h <;> rfl

namespace FileTable

variable {t : FileTable} {step : FileStep} {k : Nat}

theorem sink?_eq_some_iff {f : FileSink} :
    t.sink? k = some f ↔ t.handles[k]? = some ⟨f, false⟩ := by
  rw [sink?]
  split
  · next g hHandle => simp [hHandle]
  · next hOther =>
    constructor
    · rintro ⟨⟩
    · exact fun h => absurd h (hOther f)

theorem taken_eq_nil (h : step.subject? = some k → t.sink? k = none) : t.taken k step = [] := by
  cases step with
  | write i line =>
    rw [taken]
    split
    · next hSame => rw [answer?, h (congrArg some hSame)]; rfl
    · rfl
  | _ => rfl

theorem taken_of_empties {i : Nat} (h : step.Empties k) : t.taken i step = [] := by
  obtain rfl | rfl | rfl := h <;> rfl

/-- What a step can do: nothing, or it opens a sink, or one sink takes bytes and passes some on. -/
inductive Effect (t : FileTable) (step : FileStep) : FileTable → Prop where
  | nothing (h : ∀ k, step.subject? = some k → t.sink? k = none) : Effect t step t
  | opened {path : String} {sink : FileSink} {d : Directory} (hStep : step = .openAt path)
      (hOpen : FileSink.openAt t.directory path = .ok (sink, d)) :
      Effect t step ⟨d, t.handles ++ [⟨sink, false⟩]⟩
  | passed {k : Nat} {f : FileSink} {h : FileHandle} {d : Directory} {moved : ByteArray}
      (hStep : step.subject? = some k) (hHandle : t.handles[k]? = some ⟨f, false⟩)
      (hPasses : f.Passes t.directory (t.taken k step) h.sink d moved)
      (hDropped : h.dropped = true ↔ .drop k = step)
      (hClosed : h.sink.pending = none ↔ f.pending = none ∨ .close k = step ∨ .drop k = step)
      (hEmpties : step.Empties k → h.sink.waiting = []) :
      Effect t step ⟨d, t.handles.set k h⟩

/-- The effect of a step on a sink comes from what is done with the sink, if it is not dropped. -/
theorem effect_act {does : FileSink → Directory → FileHandle × Directory}
    (hStep : step.subject? = some k)
    (h : ∀ f, t.sink? k = some f → t.Effect step
      ⟨(does f t.directory).2, t.handles.set k (does f t.directory).1⟩) :
    t.Effect step (t.act k does) := by
  rw [act]
  split
  · next f hSink => exact h f hSink
  · next hNone =>
    refine .nothing fun i hStep' => ?_
    cases hStep.symm.trans hStep'
    exact hNone

theorem pending_write (f : FileSink) (line : ByteArray) (d : Directory) :
    (f.write line d).2.1.pending = none ↔ f.pending = none := by
  cases hPending : f.pending with
  | none => simp [FileSink.write_of_closed hPending, hPending]
  | some pending =>
    obtain ⟨moved, kept, hMoves⟩ := FileSink.moves_write hPending line d
    rw [hMoves.sink]
    simp

theorem pending_flush (f : FileSink) (d : Directory) :
    (f.flush d).1.pending = none ↔ f.pending = none := by
  rw [FileSink.flush]
  split
  · next h => simp [h]
  · next h => simp [h]

theorem effect_after (t : FileTable) (step : FileStep) : t.Effect step (t.after step) := by
  cases step with
  | openAt path =>
    rw [after]
    split
    · next sink d hOpen => exact .opened rfl hOpen
    · exact .nothing nofun
  | write k line =>
    rw [after]
    refine effect_act rfl fun f hSink => ?_
    have hTaken : t.taken k (.write k line) =
        FileSink.taken line (f.write line t.directory).1 := by
      rw [taken, if_pos rfl, answer?, hSink]
      rfl
    obtain ⟨moved, hPasses⟩ := f.passes_write line t.directory
    refine .passed rfl (sink?_eq_some_iff.mp hSink) (hTaken ▸ hPasses) (by simp) ?_ ?_
    · simpa using pending_write f line t.directory
    · rintro (h | h | h) <;> cases h
  | flush k =>
    rw [after]
    refine effect_act rfl fun f hSink => ?_
    obtain ⟨moved, hPasses⟩ := f.passes_flush t.directory
    refine .passed rfl (sink?_eq_some_iff.mp hSink) hPasses (by simp) ?_
      fun _ => f.waiting_flush t.directory
    simpa using pending_flush f t.directory
  | close k =>
    rw [after]
    refine effect_act rfl fun f hSink => ?_
    rw [FileSink.close_eq]
    obtain ⟨moved, hPasses⟩ := f.passes_close t.directory
    exact .passed rfl (sink?_eq_some_iff.mp hSink) hPasses (by simp) (by simp) fun _ => rfl
  | drop k =>
    rw [after]
    refine effect_act rfl fun f hSink => ?_
    obtain ⟨moved, hPasses⟩ := f.passes_close t.directory
    exact .passed rfl (sink?_eq_some_iff.mp hSink) hPasses (by simp) (by simp) fun _ => rfl

end FileTable

end Logline
