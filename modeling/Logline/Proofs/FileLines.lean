import Logline.Proofs.Delivery

/-! # Lines in files

A file sink that is open takes every line. The line waits in its buffer or is in its file, as a
whole, whatever is done to the sinks after that, and with the next flush of the sink it is in the
file for good.
-/

namespace Logline

/-- Whether a line stands somewhere among some bytes, in one piece. -/
def Within (line bytes : ByteArray) : Prop := line.data.toList <:+: bytes.data.toList

namespace Within

variable {line a b : ByteArray}

theorem refl (line : ByteArray) : Within line line := List.infix_rfl

theorem trans (h : Within line a) (h' : Within a b) : Within line b := List.IsInfix.trans h h'

theorem append_left (h : Within line a) : Within line (a ++ b) := by
  apply h.trans
  rw [Within, ByteArray.data_append, Array.toList_append]
  exact (List.prefix_append _ _).isInfix

theorem append_right (h : Within line b) : Within line (a ++ b) := by
  apply h.trans
  rw [Within, ByteArray.data_append, Array.toList_append]
  exact (List.suffix_append _ _).isInfix

end Within

theorem Directory.get?_append (d : Directory) (file name : String) (bytes : ByteArray) :
    (d.append file bytes).get? name =
      (d.get? name).map fun content => if name = file then content ++ bytes else content := by
  rw [get?, get?, append]
  induction d.files with
  | nil => rfl
  | cons entry r ih =>
    rw [List.map_cons, List.lookup_cons, List.lookup_cons]
    cases hName : name == entry.1 with
    | true =>
      rw [eq_of_beq hName]
      rfl
    | false => exact ih

namespace FileSink

/-- What a sink may do with its pending bytes, and with a line if there is one: each goes to the
file or waits, as a whole. -/
structure Moves (f : FileSink) (d : Directory) (given : List ByteArray) (f' : FileSink)
    (d' : Directory) (moved kept : ByteArray) : Prop where
  sink : f' = { f with pending := some kept }
  directory : ∀ name, d'.get? name =
    (d.get? name).map fun content => if name = f.file then content ++ moved else content
  whole : ∀ bytes ∈ given, Within bytes moved ∨ Within bytes kept
  order : moved.data.toList ++ kept.data.toList = given.flatMap (·.data.toList)

theorem moves_write {f : FileSink} {pending : ByteArray} (h : f.pending = some pending)
    (line : ByteArray) (d : Directory) :
    ∃ moved kept,
      f.Moves d [pending, line] (f.write line d).2.1 (f.write line d).2.2 moved kept := by
  rw [write, h]
  dsimp only
  split
  · refine ⟨.empty, pending ++ line, rfl, fun name => by simp, ?_, by simp⟩
    simpa using ⟨.inr (Within.refl pending).append_left, .inr (Within.refl line).append_right⟩
  · split
    · refine ⟨pending, line, rfl, fun name => d.get?_append f.file name pending, ?_, by simp⟩
      simpa using ⟨.inl (Within.refl pending), .inr (Within.refl line)⟩
    · refine ⟨pending ++ line, .empty, rfl, fun name => ?_, ?_, by simp⟩
      · rw [Directory.get?_append, Directory.get?_append, Option.map_map]
        congr 1
        funext content
        dsimp only [Function.comp]
        split
        · exact ByteArray.append_assoc
        · rfl
      · simpa using ⟨.inl (Within.refl pending).append_left, .inl (Within.refl line).append_right⟩

theorem moves_flush {f : FileSink} {pending : ByteArray} (h : f.pending = some pending)
    (d : Directory) : f.Moves d [pending] (f.flush d).1 (f.flush d).2 pending .empty := by
  rw [flush, h]
  refine ⟨rfl, fun name => d.get?_append f.file name pending, ?_, by simp⟩
  simpa using Or.inl (Within.refl pending)

end FileSink

namespace SinkStore

variable {s : SinkStore} {i k : SinkId} {line content pending : ByteArray}

/-- What the file of an open file sink holds, and what waits for it in the sink. -/
def held? (s : SinkStore) (k : SinkId) : Option (ByteArray × ByteArray) :=
  match s.get? k with
  | some (.file f) => (s.directory.get? f.file).bind fun content => f.pending.map (content, ·)
  | _ => none

theorem held?_eq_some_iff : s.held? k = some (content, pending) ↔
    ∃ f, s.get? k = some (.file f) ∧ s.directory.get? f.file = some content ∧
      f.pending = some pending := by
  rw [held?]
  constructor
  · intro h
    split at h
    · next f hFile =>
      obtain ⟨c, hContent, h⟩ := Option.bind_eq_some_iff.mp h
      obtain ⟨p, hPending, h⟩ := Option.map_eq_some_iff.mp h
      cases h
      exact ⟨f, hFile, hContent, hPending⟩
    · cases h
  · rintro ⟨f, hFile, hContent, hPending⟩
    rw [hFile]
    dsimp only
    rw [hContent, hPending]
    rfl

theorem held?_congr {t : SinkStore} (hGet : t.get? k = s.get? k)
    (hDirectory : t.directory = s.directory) : t.held? k = s.held? k := by
  rw [held?, held?, hGet, hDirectory]

theorem held?_setLevel (level : Level) : (s.setLevel i level).held? k = s.held? k := by
  by_cases h : i = k
  · subst h
    rw [setLevel]
    split
    · next m hMemory =>
      have hPut := memory?_eq_some_iff.mp (memory?_put (m.setLevel level) hMemory)
      rw [held?, held?, hPut, hMemory]
    · rfl
    · rfl
  · apply held?_congr (get?_setLevel_of_ne level h)
    rw [setLevel]
    split <;> rfl

/-- What a file sink moves to its file stands there behind all that was there. -/
theorem held?_moves {f f' : FileSink} {d : Directory} {given : List ByteArray}
    {moved kept : ByteArray} (h : s.held? k = some (content, pending))
    (hFile : s.get? k = some (.file f)) (hMoves : f.Moves s.directory given f' d moved kept) :
    { s.put k (.file f') with directory := d }.held? k = some (content ++ moved, kept) := by
  obtain ⟨g, hFile', hContent, -⟩ := held?_eq_some_iff.mp h
  obtain ⟨hIndex, -⟩ := List.getElem?_eq_some_iff.mp hFile
  cases hFile.symm.trans hFile'
  obtain ⟨rfl, hDirectory, -⟩ := hMoves
  refine held?_eq_some_iff.mpr ⟨_, List.getElem?_set_self hIndex, ?_, rfl⟩
  rw [hDirectory, hContent, Option.map_some, if_pos rfl]

/-- The file of another sink may be the same one. -/
theorem held?_moves_of_ne {f f' : FileSink} {d : Directory} {given : List ByteArray}
    {moved kept : ByteArray} (h : s.held? k = some (content, pending)) (hNe : i ≠ k)
    (hMoves : f.Moves s.directory given f' d moved kept) :
    ∃ more, { s.put i (.file f') with directory := d }.held? k =
      some (content ++ more, pending) := by
  obtain ⟨g, hFile, hContent, hPending⟩ := held?_eq_some_iff.mp h
  have hGet : { s.put i (.file f') with directory := d }.get? k = some (.file g) :=
    (get?_put_of_ne _ hNe).trans hFile
  have hContent' := hMoves.directory g.file
  rw [hContent, Option.map_some] at hContent'
  refine ⟨if g.file = f.file then moved else .empty, held?_eq_some_iff.mpr ⟨g, hGet, ?_, hPending⟩⟩
  refine hContent'.trans ?_
  split <;> simp

/-- The file of a sink may have grown, and nothing else that the sink holds is another. -/
def Grew (k : SinkId) (s t : SinkStore) : Prop :=
  ∀ content pending, s.held? k = some (content, pending) →
    ∃ more, t.held? k = some (content ++ more, pending)

theorem Grew.of_eq {t : SinkStore} (h : t.held? k = s.held? k) : Grew k s t := by
  intro content pending hHeld
  refine ⟨.empty, ?_⟩
  rw [h, hHeld, ByteArray.append_empty]

theorem Grew.trans {t u : SinkStore} (h : Grew k s t) (h' : Grew k t u) : Grew k s u := by
  intro content pending hHeld
  obtain ⟨more, hMore⟩ := h content pending hHeld
  obtain ⟨rest, hAll⟩ := h' _ _ hMore
  exact ⟨more ++ rest, by rw [hAll, ByteArray.append_assoc]⟩

theorem grew_write (line : ByteArray) (h : i ≠ k) : Grew k s (s.write i line).2 := by
  rw [write]
  split
  · exact .of_eq (held?_congr (get?_put_of_ne _ h) rfl)
  · exact .of_eq rfl
  · next f hFile =>
    cases hPending : f.pending with
    | none =>
      have hClosed : f.write line s.directory = (.error (.sinkClosed f.name), f, s.directory) := by
        rw [FileSink.write, hPending]
      rw [hClosed]
      exact .of_eq (held?_congr (get?_put_of_ne _ h) rfl)
    | some pending =>
      obtain ⟨moved, kept, hMoves⟩ := FileSink.moves_write hPending line s.directory
      exact fun _ _ hHeld => held?_moves_of_ne hHeld h hMoves
  all_goals exact .of_eq rfl

theorem grew_flush (h : i ≠ k) : Grew k s (s.flush i).2 := by
  rw [flush]
  split
  · next f hFile =>
    cases hPending : f.pending with
    | none =>
      have hClosed : f.flush s.directory = (f, s.directory) := by
        rw [FileSink.flush, hPending]
      rw [hClosed]
      exact .of_eq (held?_congr (get?_put_of_ne _ h) rfl)
    | some pending =>
      exact fun _ _ hHeld => held?_moves_of_ne hHeld h (FileSink.moves_flush hPending _)
  all_goals exact .of_eq rfl

/-- A line that is offered to an open sink is taken, and what waited there is not lost. -/
theorem held?_write (h : s.held? k = some (content, pending)) (line : ByteArray) :
    ∃ moved kept, (s.write k line).2.held? k = some (content ++ moved, kept) ∧
      (Within pending moved ∨ Within pending kept) ∧ (Within line moved ∨ Within line kept) := by
  obtain ⟨f, hFile, -, hPending⟩ := held?_eq_some_iff.mp h
  obtain ⟨moved, kept, hMoves⟩ := FileSink.moves_write hPending line s.directory
  refine ⟨moved, kept, ?_, hMoves.whole _ (by simp), hMoves.whole _ (by simp)⟩
  rw [write, hFile]
  exact held?_moves h hFile hMoves

theorem held?_flush (h : s.held? k = some (content, pending)) :
    (s.flush k).2.held? k = some (content ++ pending, .empty) := by
  obtain ⟨f, hFile, -, hPending⟩ := held?_eq_some_iff.mp h
  rw [flush, hFile]
  exact held?_moves h hFile (FileSink.moves_flush hPending s.directory)

/-! ## One line -/

/-- A line that waits in an open file sink or is in its file. -/
def Has (k : SinkId) (line : ByteArray) (s : SinkStore) : Prop :=
  ∃ content pending, s.held? k = some (content, pending) ∧
    (Within line content ∨ Within line pending)

/-- A line in the file of an open sink in which nothing waits. -/
def Filed (k : SinkId) (line : ByteArray) (s : SinkStore) : Prop :=
  ∃ content, s.held? k = some (content, .empty) ∧ Within line content

theorem Has.grew {t : SinkStore} (h : s.Has k line) (hGrew : Grew k s t) : t.Has k line := by
  obtain ⟨content, pending, hHeld, hLine⟩ := h
  obtain ⟨more, hMore⟩ := hGrew content pending hHeld
  exact ⟨_, _, hMore, hLine.imp_left Within.append_left⟩

theorem Filed.grew {t : SinkStore} (h : s.Filed k line) (hGrew : Grew k s t) :
    t.Filed k line := by
  obtain ⟨content, hHeld, hLine⟩ := h
  obtain ⟨more, hMore⟩ := hGrew content .empty hHeld
  exact ⟨_, hMore, hLine.append_left⟩

theorem has_write (h : (s.held? k).isSome) (line : ByteArray) : (s.write k line).2.Has k line := by
  obtain ⟨⟨content, pending⟩, hHeld⟩ := Option.isSome_iff_exists.mp h
  obtain ⟨moved, kept, hAfter, -, hLine⟩ := held?_write hHeld line
  exact ⟨_, _, hAfter, hLine.imp_left Within.append_right⟩

theorem Has.setLevel (h : s.Has k line) (i : SinkId) (level : Level) :
    (s.setLevel i level).Has k line := h.grew (.of_eq (held?_setLevel level))

theorem Has.write (h : s.Has k line) (i : SinkId) (other : ByteArray) :
    (s.write i other).2.Has k line := by
  by_cases hSink : i = k
  · subst hSink
    obtain ⟨content, pending, hHeld, hLine⟩ := h
    obtain ⟨moved, kept, hAfter, hPending, -⟩ := held?_write hHeld other
    refine ⟨_, _, hAfter, ?_⟩
    obtain hContent | hWaiting := hLine
    · exact .inl hContent.append_left
    · exact hPending.imp (fun hMoved => (hWaiting.trans hMoved).append_right) hWaiting.trans
  · exact h.grew (grew_write other hSink)

theorem Has.flush_self (h : s.Has k line) : (s.flush k).2.Filed k line := by
  obtain ⟨content, pending, hHeld, hLine⟩ := h
  refine ⟨_, held?_flush hHeld, ?_⟩
  exact hLine.elim Within.append_left Within.append_right

theorem Filed.has (h : s.Filed k line) : s.Has k line := by
  obtain ⟨content, hHeld, hLine⟩ := h
  exact ⟨content, .empty, hHeld, .inl hLine⟩

theorem Filed.flush (h : s.Filed k line) (i : SinkId) : (s.flush i).2.Filed k line := by
  by_cases hSink : i = k
  · subst hSink
    exact h.has.flush_self
  · exact h.grew (grew_flush hSink)

theorem Has.flush (h : s.Has k line) (i : SinkId) : (s.flush i).2.Has k line := by
  by_cases hSink : i = k
  · subst hSink
    exact h.flush_self.has
  · exact h.grew (grew_flush hSink)

theorem isSome_held?_write (h : (s.held? k).isSome) (i : SinkId) (line : ByteArray) :
    ((s.write i line).2.held? k).isSome := by
  obtain ⟨⟨content, pending⟩, hHeld⟩ := Option.isSome_iff_exists.mp h
  by_cases hSink : i = k
  · subst hSink
    obtain ⟨moved, kept, hAfter, -⟩ := held?_write hHeld line
    rw [hAfter]
    rfl
  · obtain ⟨more, hAfter⟩ := grew_write line hSink content pending hHeld
    rw [hAfter]
    rfl

end SinkStore

/-! ## Lists of sinks -/

namespace Router

variable {s : SinkStore} {k : SinkId} {line : ByteArray}

theorem has_deliverAll (level : Level) {sinks : List SinkId} (h : (s.held? k).isSome)
    (hListed : k ∈ sinks) : (deliverAll level line sinks s).2.Has k line := by
  induction sinks generalizing s with
  | nil => cases hListed
  | cons sink r ih =>
    rw [deliverAll, deliver_eq]
    have hOpen : ((s.setLevel sink level).held? k).isSome := by
      rw [SinkStore.held?_setLevel]
      exact h
    obtain rfl | hRest := List.mem_cons.mp hListed
    · exact deliverAll_keeps (fun i level _ hHas => hHas.setLevel i level)
        (fun i other _ hHas => hHas.write i other) level line r (SinkStore.has_write hOpen line)
    · exact ih (SinkStore.isSome_held?_write hOpen sink line) hRest

/-- What an item brings about is there in the end if the others keep it. -/
theorem firstError_reaches {W α : Type} {act : α → W → Except LogError Unit × W} {P Q : W → Prop}
    {a : α} (hBefore : ∀ b w, P w → P (act b w).2) (hAt : ∀ w, P w → Q (act a w).2)
    (hAfter : ∀ b w, Q w → Q (act b w).2) {items : List α} (hMem : a ∈ items) {w : W} (h : P w) :
    Q (firstError act items w).2 := by
  induction items generalizing w with
  | nil => cases hMem
  | cons b r ih =>
    rw [firstError_cons_snd]
    obtain rfl | hRest := List.mem_cons.mp hMem
    · exact firstError_keeps hAfter r (hAt w h)
    · exact ih hRest (hBefore b w h)

theorem filed_flush {r : Router} (h : s.Has k line) (hMem : k ∈ r.allSinks) :
    (r.flush s).2.Filed k line :=
  firstError_reaches (fun i _ hHas => hHas.flush i) (fun _ hHas => hHas.flush_self)
    (fun i _ hFiled => hFiled.flush i) hMem h

/-- A sink that is not in the router is not flushed; only its file may grow, by another sink. -/
theorem grew_flush {r : Router} (h : k ∉ r.allSinks) : SinkStore.Grew k s (r.flush s).2 := by
  rw [flush]
  generalize r.allSinks = sinks at h
  induction sinks generalizing s with
  | nil => exact .of_eq rfl
  | cons sink rest ih =>
    obtain ⟨hSink, hRest⟩ := not_or.mp (mt List.mem_cons.mpr h)
    rw [firstError_cons_snd]
    exact (SinkStore.grew_flush (Ne.symm hSink)).trans (ih hRest)

end Router

/-- A record that has a line for an open file sink leaves the line with it. -/
theorem Runs.has {env : Environment} {id : NodeId} {call : Call} {s t : System SinkStore}
    {as : List (Attempt SinkStore)} {x : Except Buffer.Fault Unit}
    (h : Runs env id (.write call) s as x t) {k : SinkId} {line : ByteArray}
    (hLine : Attempt.line? ⟨env, id, call, s⟩ = some line)
    (hListed : k ∈ Attempt.listed ⟨env, id, call, s⟩) (hOpen : (s.sinks.held? k).isSome) :
    t.sinks.Has k line := by
  cases h with
  | broken tried =>
    have hNone := (Attempt.broken_of_error (Attempt.of_attempt tried).1).2
    cases hLine.symm.trans hNone
  | @written _ _ _ after _ _ _ tried told =>
    obtain ⟨-, rfl⟩ := Attempt.of_attempt tried
    have hHas : (Attempt.sinksAfter ⟨env, id, call, s⟩).Has k line := by
      rw [Attempt.sinksAfter, hLine]
      exact Router.has_deliverAll call.level hOpen hListed
    exact told.keeps (fun i level _ hHas => hHas.setLevel i level)
      (fun i other _ hHas => hHas.write i other) hHas

end Logline
