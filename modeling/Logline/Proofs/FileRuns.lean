import Logline.Proofs.FileSteps
import Mathlib.Tactic.Tauto

/-! # Bytes of file sinks

Whatever is done with file sinks, no byte is lost, repeated or out of order: the bytes that a sink
took are in its file or still wait behind those that are there.
-/

namespace Logline

namespace FileTable

variable {t : FileTable} {step : FileStep} {k : Nat}

/-! ## What a step keeps -/

/-- The bytes that a sink has yet to pass on, none if there is no such sink. -/
def waiting (t : FileTable) (k : Nat) : List UInt8 :=
  (t.handles[k]?.map (·.sink.waiting)).getD []

/-- The bytes of each sink that are in one file. -/
def parts (t : FileTable) (filed : Nat → List UInt8) (file : String) (k : Nat) : List UInt8 :=
  if t.file? k = some file then filed k else []

/-- A table that accounts for all bytes: those that a sink took (`given`) are those of it in its
file (`filed`) and those that wait, in this order. -/
structure Sound (d : Directory) (given filed : Nat → List UInt8) (t : FileTable) : Prop where
  balance : ∀ k, filed k ++ t.waiting k = given k
  unopened : ∀ k, t.handles.length ≤ k → given k = []
  dropped : ∀ {k : Nat} {h : FileHandle}, t.handles[k]? = some h → h.dropped = true →
    h.sink.pending = none
  present : ∀ {k : Nat} {file : String}, t.file? k = some file → (t.directory.get? file).isSome
  interleaved : ∀ file, ∃ added,
    t.directory.content file = d.content file ++ added ∧ Interleaved (t.parts filed file) added

theorem sound_start (d : Directory) :
    Sound d (fun _ => []) (fun _ => []) (start d) where
  balance _ := rfl
  unopened _ _ := rfl
  dropped h := nomatch h
  present h := nomatch h
  interleaved file := by
    refine ⟨[], (List.append_nil _).symm, ?_⟩
    have hParts : (start d).parts (fun _ => []) file = fun _ => [] := funext fun k => ite_self _
    rw [hParts]
    exact .nil

variable {d : Directory} {given filed : Nat → List UInt8}

theorem Sound.waiting_of_gone (h : Sound d given filed t) (hGone : t.sink? k = none) :
    t.waiting k = [] := by
  rw [waiting]
  cases hHandle : t.handles[k]? with
  | none => rfl
  | some handle =>
    obtain ⟨sink, _ | _⟩ := handle
    · cases hGone.symm.trans (sink?_eq_some_iff.mpr hHandle)
    · have hClosed := h.dropped hHandle rfl
      dsimp only at hClosed
      simp [FileSink.waiting, hClosed]

theorem Sound.filed_unopened (h : Sound d given filed t) (hLength : t.handles.length ≤ k) :
    filed k = [] :=
  (List.append_eq_nil_iff.mp ((h.balance k).trans (h.unopened k hLength))).1

theorem getElem?_opened {handles : List FileHandle} {opened handle : FileHandle}
    (h : (handles ++ [opened])[k]? = some handle) :
    handles[k]? = some handle ∨ handle = opened := by
  rw [List.getElem?_append] at h
  split at h
  · exact .inl h
  · rw [List.getElem?_singleton] at h
    split at h
    · exact .inr (Option.some.inj h).symm
    · cases h

theorem Sound.opened (h : Sound d given filed t) {path : String} {sink : FileSink}
    {d' : Directory} (hOpen : FileSink.openAt t.directory path = .ok (sink, d')) :
    Sound d given filed ⟨d', t.handles ++ [⟨sink, false⟩]⟩ := by
  rw [FileSink.openAt] at hOpen
  split at hOpen
  · next file hLocate =>
    cases hOpen
    refine ⟨fun k => ?_, fun k hLength => h.unopened k ?_, fun {k handle} hHandle hDropped => ?_,
      fun {k name} hFile => ?_, fun name => ?_⟩
    · rw [← h.balance k, waiting, waiting, List.getElem?_append]
      split
      · rfl
      · next hLength =>
        rw [List.getElem?_eq_none (Nat.le_of_not_lt hLength), List.getElem?_singleton]
        split <;> rfl
    · rw [List.length_append] at hLength
      exact Nat.le_of_add_right_le hLength
    · obtain hOld | rfl := getElem?_opened hHandle
      · exact h.dropped hOld hDropped
      · cases hDropped
    · obtain ⟨handle, hHandle, hName⟩ := Option.map_eq_some_iff.mp hFile
      apply Directory.isSome_get?_create
      obtain hOld | rfl := getElem?_opened hHandle
      · exact .inr (h.present (Option.map_eq_some_iff.mpr ⟨handle, hOld, hName⟩))
      · exact .inl hName.symm
    · obtain ⟨added, hContent, hInterleaved⟩ := h.interleaved name
      refine ⟨added, (t.directory.content_create file name).trans hContent, ?_⟩
      have hParts : parts ⟨t.directory.create file, t.handles ++ [⟨⟨t.directory.join path, file,
          some ByteArray.empty⟩, false⟩]⟩ filed name = t.parts filed name := by
        funext k
        rw [parts, parts, file?, file?, List.getElem?_append]
        split
        · rfl
        · next hLength =>
          rw [h.filed_unopened (Nat.le_of_not_lt hLength), ite_self, ite_self]
      rwa [hParts]
  · cases hOpen

theorem waiting_set {handle : FileHandle} (hLength : k < t.handles.length) {d' : Directory}
    (i : Nat) : waiting ⟨d', t.handles.set k handle⟩ i =
      if i = k then handle.sink.waiting else t.waiting i := by
  rw [waiting, waiting]
  split
  · next hSame =>
    subst hSame
    rw [List.getElem?_set_self hLength]
    rfl
  · next hOther => rw [List.getElem?_set_ne (Ne.symm hOther)]

theorem file?_set {handle old : FileHandle} (hHandle : t.handles[k]? = some old)
    (hFile : handle.sink.file = old.sink.file) {d' : Directory} (i : Nat) :
    file? ⟨d', t.handles.set k handle⟩ i = t.file? i := by
  rw [file?, file?]
  by_cases hSame : i = k
  · subst hSame
    obtain ⟨hLength, -⟩ := List.getElem?_eq_some_iff.mp hHandle
    rw [List.getElem?_set_self hLength, hHandle, Option.map_some, Option.map_some, hFile]
  · rw [List.getElem?_set_ne (Ne.symm hSame)]

theorem parts_set_self {handle old : FileHandle} (hHandle : t.handles[k]? = some old)
    (hFile : handle.sink.file = old.sink.file) {d' : Directory} (filed : Nat → List UInt8)
    (bytes : List UInt8) :
    parts ⟨d', t.handles.set k handle⟩ (Function.update filed k (filed k ++ bytes)) old.sink.file =
      Function.update (t.parts filed old.sink.file) k
        (t.parts filed old.sink.file k ++ bytes) := by
  have hOld : t.file? k = some old.sink.file := by rw [file?, hHandle]; rfl
  funext i
  rw [parts, file?_set hHandle hFile]
  by_cases hSame : i = k
  · subst hSame
    rw [Function.update_self, Function.update_self, parts, if_pos hOld, if_pos hOld]
  · rw [Function.update_of_ne hSame, Function.update_of_ne hSame, parts]

theorem parts_set_of_ne {handle old : FileHandle} (hHandle : t.handles[k]? = some old)
    (hFile : handle.sink.file = old.sink.file) {d' : Directory} (filed : Nat → List UInt8)
    (bytes : List UInt8) {name : String} (hName : name ≠ old.sink.file) :
    parts ⟨d', t.handles.set k handle⟩ (Function.update filed k bytes) name =
      t.parts filed name := by
  have hOld : t.file? k ≠ some name := by
    rw [file?, hHandle]
    exact fun h => hName (Option.some.inj h).symm
  funext i
  rw [parts, parts, file?_set hHandle hFile]
  by_cases hSame : i = k
  · subst hSame
    rw [if_neg hOld, if_neg hOld]
  · rw [Function.update_of_ne hSame]

theorem content_moved {f : FileSink} {taken : List UInt8} {f' : FileSink} {d d' : Directory}
    {moved : ByteArray} (h : f.Passes d taken f' d' moved) (name : String) :
    d'.content name = d.content name ++
      if name = f.file ∧ (d.get? name).isSome then moved.data.toList else [] := by
  rw [Directory.content, Directory.content, h.directory]
  cases d.get? name with
  | none => simp
  | some bytes =>
    by_cases hName : name = f.file
    · simp [hName]
    · simp [hName]

/-- The sink moves the first of the bytes that waited and were taken. -/
theorem Sound.passed (h : Sound d given filed t) {f : FileSink} {handle : FileHandle}
    {d' : Directory} {moved : ByteArray} {taken : List UInt8}
    (hHandle : t.handles[k]? = some ⟨f, false⟩)
    (hPasses : f.Passes t.directory taken handle.sink d' moved)
    (hDropped : handle.dropped = true → handle.sink.pending = none) :
    Sound d (Function.update given k (given k ++ taken))
      (Function.update filed k (filed k ++ moved.data.toList)) ⟨d', t.handles.set k handle⟩ := by
  obtain ⟨hLength, -⟩ := List.getElem?_eq_some_iff.mp hHandle
  have hFile : t.file? k = some f.file := by rw [file?, hHandle]; rfl
  refine ⟨fun i => ?_, fun i hi => ?_, fun {i g} hg hDone => ?_, fun {i name} hName => ?_,
    fun name => ?_⟩
  · rw [waiting_set hLength]
    by_cases hSame : i = k
    · subst hSame
      rw [if_pos rfl, Function.update_self, Function.update_self, List.append_assoc, hPasses.order,
        ← h.balance, waiting, hHandle, List.append_assoc]
      rfl
    · rw [if_neg hSame, Function.update_of_ne hSame, Function.update_of_ne hSame, h.balance]
  · rw [List.length_set] at hi
    rw [Function.update_of_ne (Nat.ne_of_gt (Nat.lt_of_lt_of_le hLength hi)), h.unopened i hi]
  · by_cases hSame : i = k
    · subst hSame
      rw [List.getElem?_set_self hLength] at hg
      cases hg
      exact hDropped hDone
    · rw [List.getElem?_set_ne (Ne.symm hSame)] at hg
      exact h.dropped hg hDone
  · rw [file?_set hHandle hPasses.file] at hName
    rw [hPasses.directory, Option.isSome_map]
    exact h.present hName
  · obtain ⟨added, hContent, hInterleaved⟩ := h.interleaved name
    rw [content_moved hPasses]
    by_cases hName : name = f.file
    · subst hName
      refine ⟨added ++ moved.data.toList, ?_, ?_⟩
      · rw [if_pos ⟨rfl, h.present hFile⟩, hContent, List.append_assoc]
      · rw [parts_set_self hHandle hPasses.file]
        exact hInterleaved.append k _
    · refine ⟨added, ?_, ?_⟩
      · rw [if_neg (fun hBoth => hName hBoth.1), List.append_nil, hContent]
      · rw [parts_set_of_ne hHandle hPasses.file _ _ hName]
        exact hInterleaved

theorem Sound.after (h : Sound d given filed t) (step : FileStep) :
    ∃ filed', Sound d (fun k => given k ++ t.taken k step) filed' (t.after step) ∧
      (∀ k, filed k <+: filed' k) ∧ ∀ k, step.Empties k → filed' k = given k := by
  have hOthers (hNone : ∀ k, step.subject? = some k → t.sink? k = none) :
      (fun k => given k ++ t.taken k step) = given :=
    funext fun k => by rw [taken_eq_nil (hNone k), List.append_nil]
  have hEffect := effect_after t step
  generalize t.after step = t' at hEffect ⊢
  cases hEffect with
  | nothing hNone =>
    rw [hOthers hNone]
    refine ⟨filed, h, fun k => List.prefix_rfl, fun k hEmpties => ?_⟩
    rw [← h.balance, h.waiting_of_gone (hNone k hEmpties.subject?), List.append_nil]
  | opened hStep hOpen =>
    subst hStep
    rw [hOthers nofun]
    refine ⟨filed, h.opened hOpen, fun k => List.prefix_rfl, fun k hEmpties => ?_⟩
    cases hEmpties.subject?
  | @passed k f handle d' moved hStep hHandle hPasses hDropped hClosed hEmpties =>
    have hSound := h.passed hHandle hPasses
      fun hDone => hClosed.mpr (.inr (.inr (hDropped.mp hDone)))
    have hGiven : Function.update given k (given k ++ t.taken k step) =
        fun i => given i ++ t.taken i step := by
      funext i
      by_cases hSame : i = k
      · rw [hSame, Function.update_self]
      · have hOther : t.taken i step = [] :=
          taken_eq_nil fun hi => absurd (Option.some.inj (hi.symm.trans hStep)) hSame
        rw [Function.update_of_ne hSame, hOther, List.append_nil]
    rw [hGiven] at hSound
    refine ⟨_, hSound, fun i => ?_, fun i hi => ?_⟩
    · by_cases hSame : i = k
      · rw [hSame, Function.update_self]
        exact List.prefix_append _ _
      · exact (Function.update_of_ne hSame _ _).symm ▸ List.prefix_rfl
    · have hSame : k = i := Option.some.inj (hStep.symm.trans hi.subject?)
      subst hSame
      obtain ⟨hLength, -⟩ := List.getElem?_eq_some_iff.mp hHandle
      have hBalance := hSound.balance k
      rwa [waiting_set hLength, if_pos rfl, hEmpties hi, taken_of_empties hi, List.append_nil,
        List.append_nil] at hBalance

theorem content_opened (t : FileTable) (path : String) (file : String) :
    (t.after (.openAt path)).directory.content file = t.directory.content file := by
  rw [after]
  split
  · next sink d hOpen =>
    rw [FileSink.openAt] at hOpen
    split at hOpen
    · cases hOpen
      exact t.directory.content_create _ file
    · cases hOpen
  · rfl

/-- No step takes bytes out of a file. -/
theorem content_after (t : FileTable) (step : FileStep) (file : String) :
    t.directory.content file <+: (t.after step).directory.content file := by
  have hEffect := effect_after t step
  generalize hAfter : t.after step = t' at hEffect ⊢
  cases hEffect with
  | nothing => exact List.prefix_rfl
  | opened hStep =>
    rw [← hAfter, hStep]
    exact (content_opened t _ file).symm ▸ List.prefix_rfl
  | passed hStep hHandle hPasses =>
    dsimp only
    rw [content_moved hPasses]
    exact List.prefix_append _ _

/-! ## What a sink answers -/

/-- What became of a sink: it is closed and dropped by the steps for it and by no others. -/
structure Led (k : Nat) (h : FileHandle) (steps : List FileStep) (h' : FileHandle) : Prop where
  path : h'.sink.path = h.sink.path
  file : h'.sink.file = h.sink.file
  dropped : h'.dropped = true ↔ h.dropped = true ∨ .drop k ∈ steps
  closed : h'.sink.pending = none ↔ h.sink.pending = none ∨ .close k ∈ steps ∨ .drop k ∈ steps

theorem Led.cons {h h' h'' : FileHandle} {steps : List FileStep} (hStep : Led k h [step] h')
    (hSteps : Led k h' steps h'') : Led k h (step :: steps) h'' where
  path := hSteps.path.trans hStep.path
  file := hSteps.file.trans hStep.file
  dropped := by
    rw [hSteps.dropped, hStep.dropped, List.mem_singleton, List.mem_cons]
    tauto
  closed := by
    rw [hSteps.closed, hStep.closed, List.mem_singleton, List.mem_singleton, List.mem_cons,
      List.mem_cons]
    tauto

theorem led_after {h : FileHandle} (hHandle : t.handles[k]? = some h)
    (hDone : h.dropped = true → h.sink.pending = none) (step : FileStep) :
    ∃ h', (t.after step).handles[k]? = some h' ∧ Led k h [step] h' := by
  have hEffect := effect_after t step
  generalize t.after step = t' at hEffect ⊢
  -- A step for another sink, or one that opens a sink, is neither of the two.
  have hOther (hStep : step.subject? ≠ some k) : Led k h [step] h := by
    have hClose : step ≠ .close k := fun h => hStep (h ▸ rfl)
    have hDrop : step ≠ .drop k := fun h => hStep (h ▸ rfl)
    refine ⟨rfl, rfl, ?_, ?_⟩ <;> simp [hClose.symm, hDrop.symm]
  cases hEffect with
  | nothing hNone =>
    refine ⟨h, hHandle, ?_⟩
    by_cases hStep : step.subject? = some k
    · obtain ⟨sink, _ | _⟩ := h
      · cases (hNone k hStep).symm.trans (sink?_eq_some_iff.mpr hHandle)
      · have hClosed := hDone rfl
        exact ⟨rfl, rfl, by simp, iff_of_true hClosed (.inl hClosed)⟩
    · exact hOther hStep
  | opened hStep =>
    refine ⟨h, ?_, hOther (by rw [hStep]; nofun)⟩
    obtain ⟨hLength, -⟩ := List.getElem?_eq_some_iff.mp hHandle
    exact (List.getElem?_append_left hLength).trans hHandle
  | @passed i f handle d' moved hStep hFirst hPasses hDropped hClosed =>
    by_cases hSame : i = k
    · subst hSame
      obtain ⟨hLength, -⟩ := List.getElem?_eq_some_iff.mp hHandle
      cases hHandle.symm.trans hFirst
      refine ⟨handle, List.getElem?_set_self hLength, hPasses.path, hPasses.file, ?_, ?_⟩
      · simpa using hDropped
      · simpa using hClosed
    · refine ⟨h, (List.getElem?_set_ne hSame).trans hHandle, hOther fun hk => hSame ?_⟩
      exact Option.some.inj (hStep.symm.trans hk)

theorem led_afterAll {h : FileHandle} (hHandle : t.handles[k]? = some h)
    (hDone : h.dropped = true → h.sink.pending = none) (steps : List FileStep) :
    ∃ h', (t.afterAll steps).handles[k]? = some h' ∧ Led k h steps h' := by
  induction steps generalizing t h with
  | nil => exact ⟨h, hHandle, rfl, rfl, by simp, by simp⟩
  | cons step r ih =>
    obtain ⟨h', hNext, hLed⟩ := led_after hHandle hDone step
    have hDone' : h'.dropped = true → h'.sink.pending = none := by
      rw [hLed.dropped, hLed.closed]
      exact fun h => h.imp hDone .inr
    obtain ⟨h'', hLast, hRest⟩ := ih hNext hDone'
    exact ⟨h'', hLast, hLed.cons hRest⟩

theorem after_opened {path : String} {sink : FileSink} {d : Directory}
    (h : FileSink.openAt t.directory path = .ok (sink, d)) :
    t.after (.openAt path) = ⟨d, t.handles ++ [⟨sink, false⟩]⟩ := by
  rw [after, h]

theorem answer?_opened {t : FileTable} {path : String} {sink : FileSink} {d : Directory}
    (hOpen : FileSink.openAt t.directory path = .ok (sink, d)) (steps : List FileStep) :
    let t' := t.afterAll (.openAt path :: steps)
    let k := t.handles.length
    t'.file? k = some sink.file ∧ ∀ line,
      (.drop k ∈ steps → t'.answer? k line = none) ∧
      (.drop k ∉ steps → .close k ∈ steps →
        t'.answer? k line = some (.error (.sinkClosed sink.name))) ∧
      (.drop k ∉ steps → .close k ∉ steps → t'.answer? k line = some (.ok line.size)) := by
  intro t' k
  have hFirst : (t.after (.openAt path)).handles[k]? = some ⟨sink, false⟩ := by
    rw [after_opened hOpen]
    exact List.getElem?_concat_length
  have hPending : sink.pending ≠ none := by
    rw [FileSink.openAt] at hOpen
    split at hOpen
    · cases hOpen
      exact Option.some_ne_none _
    · cases hOpen
  obtain ⟨⟨sink', dropped⟩, hHandle, hPath, hFile, hDropped, hClosed⟩ :=
    led_afterAll hFirst (fun hDone => absurd hDone Bool.false_ne_true) steps
  change t'.handles[k]? = _ at hHandle
  dsimp only at hPath hFile hDropped hClosed
  have hKept (hDrop : .drop k ∉ steps) : t'.sink? k = some sink' := by
    have hFalse : dropped = false := by simpa [hDrop] using hDropped
    subst hFalse
    exact sink?_eq_some_iff.mpr hHandle
  refine ⟨by rw [file?, hHandle, ← hFile]; rfl, fun line => ⟨fun hDrop => ?_,
    fun hDrop hClose => ?_, fun hDrop hClose => ?_⟩⟩
  · have hGone : dropped = true := hDropped.mpr (.inr hDrop)
    rw [answer?, sink?, hHandle, hGone]
    rfl
  · rw [answer?, hKept hDrop, Option.map_some,
      FileSink.write_of_closed (hClosed.mpr (.inr (.inl hClose))), FileSink.name, hPath]
    rfl
  · have hSome : sink'.pending ≠ none := by
      rw [Ne, hClosed]
      tauto
    obtain ⟨pending, hSome⟩ := Option.ne_none_iff_exists'.mp hSome
    rw [answer?, hKept hDrop, Option.map_some, FileSink.answer_write hSome]

/-- A write that is refused, or that no sink is there for, changes nothing. -/
theorem after_refused {line : ByteArray} (h : ∀ n, t.answer? k line ≠ some (.ok n)) :
    t.after (.write k line) = t := by
  rw [after, act]
  split
  · next f hSink =>
    cases hPending : f.pending with
    | none =>
      have hSame : t.handles.set k ⟨f, false⟩ = t.handles := by
        obtain ⟨hLength, hHandle⟩ := List.getElem?_eq_some_iff.mp (sink?_eq_some_iff.mp hSink)
        rw [← hHandle, List.set_getElem_self]
      rw [FileSink.write_of_closed hPending, hSame]
    | some pending =>
      refine absurd ?_ (h line.size)
      rw [answer?, hSink, Option.map_some, FileSink.answer_write hPending]
  · rfl

/-! ## Runs -/

theorem Sound.afterAll (h : Sound d given filed t) (steps : List FileStep) :
    ∃ filed', Sound d (fun k => given k ++ accepted k steps t) filed' (t.afterAll steps) ∧
      (∀ k, filed k <+: filed' k) ∧
      ∀ before step after k, steps = before ++ step :: after → step.Empties k →
        ∃ since, filed' k = given k ++ accepted k before t ++ since ∧
          since <+: accepted k after ((t.afterAll before).after step) := by
  induction steps generalizing given filed t with
  | nil =>
    refine ⟨filed, ?_, fun k => List.prefix_rfl, fun before step after k hSteps => ?_⟩
    · simpa only [accepted, List.append_nil, FileTable.afterAll, List.foldl_nil] using h
    · cases before <;> cases hSteps
  | cons first r ih =>
    obtain ⟨filed₁, hFirst, hGrown₁, hEmptied⟩ := h.after first
    obtain ⟨filed₂, hRest, hGrown₂, hSettled⟩ := ih hFirst
    refine ⟨filed₂, ?_, fun k => (hGrown₁ k).trans (hGrown₂ k), ?_⟩
    · simpa only [accepted, List.append_assoc, FileTable.afterAll, List.foldl_cons] using hRest
    · intro before step after k hSteps hStep
      cases before with
      | nil =>
        cases hSteps
        obtain ⟨since, hSince⟩ := hGrown₂ k
        rw [hEmptied k hStep] at hSince
        refine ⟨since, by rw [← hSince, accepted, List.append_nil], ?_⟩
        have hBalance := hRest.balance k
        rw [← hSince, taken_of_empties hStep, List.append_nil, List.append_assoc] at hBalance
        exact ⟨_, List.append_cancel_left hBalance⟩
      | cons b before =>
        cases hSteps
        obtain ⟨since, hSince, hAfter⟩ := hSettled before step after k rfl hStep
        refine ⟨since, ?_, hAfter⟩
        rw [hSince, accepted, List.append_assoc, List.append_assoc, List.append_assoc,
          List.append_assoc]

theorem content_afterAll (t : FileTable) (steps : List FileStep) (file : String) :
    t.directory.content file <+: (t.afterAll steps).directory.content file := by
  induction steps generalizing t with
  | nil => exact List.prefix_rfl
  | cons step r ih => exact (t.content_after step file).trans (ih (t.after step))

theorem afterAll_append (t : FileTable) (before after : List FileStep) :
    t.afterAll (before ++ after) = (t.afterAll before).afterAll after :=
  List.foldl_append

/-- Whatever is done with file sinks on the files of a directory, every file holds what it held
before and behind it an interleaving of what its sinks took, of each sink all that it had taken
when it was last flushed, closed or dropped and then a first part of the rest. Files only grow, a
sink that is opened leaves them as they are, and a sink takes every line until it is closed and
then none. -/
theorem afterAll_keeps_bytes (d : Directory) (steps : List FileStep) :
    let t := (start d).afterAll steps
    (∃ filed : Nat → List UInt8,
      (∀ file, ∃ added, t.directory.content file = d.content file ++ added ∧
        Interleaved (fun k => if t.file? k = some file then filed k else []) added) ∧
      (∀ k, filed k <+: accepted k steps (start d)) ∧
      ∀ before step after k, steps = before ++ step :: after → step.Empties k →
        ∃ since, filed k = accepted k before (start d) ++ since ∧
          since <+: accepted k after (((start d).afterAll before).after step)) ∧
    (∀ before after file, steps = before ++ after →
      ((start d).afterAll before).directory.content file <+: t.directory.content file) ∧
    (∀ path file, (t.after (.openAt path)).directory.content file = t.directory.content file) ∧
    (∀ before path after sink d', steps = before ++ .openAt path :: after →
      FileSink.openAt ((start d).afterAll before).directory path = .ok (sink, d') →
      let k := ((start d).afterAll before).handles.length
      t.file? k = some sink.file ∧ ∀ line,
        (.drop k ∈ after → t.answer? k line = none) ∧
        (.drop k ∉ after → .close k ∈ after →
          t.answer? k line = some (.error (.sinkClosed sink.name))) ∧
        (.drop k ∉ after → .close k ∉ after → t.answer? k line = some (.ok line.size))) ∧
    ∀ k line, (∀ n, t.answer? k line ≠ some (.ok n)) → t.after (.write k line) = t := by
  intro t
  refine ⟨?_, fun before after file hSteps => ?_, fun path file => content_opened t path file,
    fun before path after sink d' hSteps hOpen => ?_, fun k line => after_refused⟩
  · obtain ⟨filed, hSound, -, hSettled⟩ := (sound_start d).afterAll steps
    refine ⟨filed, hSound.interleaved, fun k => ?_, hSettled⟩
    exact ⟨t.waiting k, hSound.balance k⟩
  · subst hSteps
    rw [show t = _ from afterAll_append _ before after]
    exact content_afterAll _ after file
  · subst hSteps
    rw [show t = _ from afterAll_append _ before _]
    exact answer?_opened hOpen after

/-- Two sinks on one file, the second of which is flushed before the first is closed. -/
theorem afterAll_keeps_bytes_of_shared :
    let d : Directory := ⟨"/logs", [("a", "old;".toUTF8)]⟩
    let steps : List FileStep := [.openAt "a", .openAt "a", .write 0 "x;".toUTF8,
      .write 1 "y;".toUTF8, .flush 1, .close 0]
    let t := (start d).afterAll steps
    t.directory.content "a" = "old;y;x;".toUTF8.data.toList ∧
      t.file? 0 = some "a" ∧ t.file? 1 = some "a" ∧
      t.answer? 0 "z;".toUTF8 = some (.error (.sinkClosed "file:/logs/a")) ∧
      t.answer? 1 "z;".toUTF8 = some (.ok 2) ∧ t.after (.write 0 "z;".toUTF8) = t := by
  intro d steps t
  obtain ⟨-, -, -, hOpened, hRefused⟩ := afterAll_keeps_bytes d steps
  have hParts : "a".splitOn "/" = ["a"] := by
    rw [String.splitOn, String.splitOnAux, String.splitOnAux]
    decide +kernel
  have hLocate : d.locate? "a" = some "a" := by
    rw [Directory.locate?, hParts]
    decide +kernel
  let sink : FileSink := ⟨d.join "a", "a", some .empty⟩
  have hOpen : FileSink.openAt d "a" = .ok (sink, d) := by
    rw [FileSink.openAt, hLocate]
    rfl
  have hOne : (start d).afterAll [.openAt "a"] = ⟨d, [⟨sink, false⟩]⟩ := after_opened hOpen
  have hTwo : (start d).afterAll [.openAt "a", .openAt "a"] =
      ⟨d, [⟨sink, false⟩, ⟨sink, false⟩]⟩ := by
    change ((start d).afterAll [.openAt "a"]).after (.openAt "a") = _
    rw [hOne]
    exact after_opened hOpen
  have hContent : t.directory.content "a" = "old;y;x;".toUTF8.data.toList := by
    rw [show t = _ from afterAll_append _ [.openAt "a", .openAt "a"] _, hTwo]
    decide +kernel
  obtain ⟨hFile, hAnswer⟩ := hOpened [] "a" _ sink d rfl hOpen
  have hNext := hOpened [.openAt "a"] "a" _ sink d rfl
  rw [hOne] at hNext
  obtain ⟨hFile', hAnswer'⟩ := hNext hOpen
  have hClosed : t.answer? 0 "z;".toUTF8 = some (.error (.sinkClosed "file:/logs/a")) :=
    (hAnswer _).2.1 (by simp [start]) (by simp [start, afterAll])
  have hTaken : t.answer? 1 "z;".toUTF8 = some (.ok 2) := (hAnswer' _).2.2 (by simp) (by simp)
  refine ⟨hContent, hFile, hFile', hClosed, hTaken, hRefused 0 _ fun n hn => ?_⟩
  cases hClosed.symm.trans hn

end FileTable

end Logline
