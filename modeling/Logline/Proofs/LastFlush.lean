import Logline.Proofs.FileLines
import Logline.Proofs.SinkCalls

/-! # The flush before an exit

A fatal call writes its line where its logger writes, and flushes, before the program exits, the
sinks of the engine's own router. Where these are the same sinks the line is safe. A line for a
sink that only a router bound to the logger lists is left in the buffer of that sink.
-/

namespace Logline

namespace Router

theorem mem_allSinks {r : Router} {sink : SinkId} : sink ∈ r.allSinks ↔
    sink ∈ r.normal ∨ sink ∈ r.errors ∨ ∃ entry ∈ r.overrides, sink ∈ entry.2 := by
  rw [allSinks, List.mem_eraseDups, List.mem_append, List.mem_append, List.mem_flatMap, or_assoc]

/-- No line goes to a sink that a flush of the router leaves out. -/
theorem Lists.mem_allSinks {r : Router} {registry : LevelRegistry} {level : Level}
    {sinks : List SinkId} (h : r.Lists registry level sinks) {sink : SinkId} (hMem : sink ∈ sinks) :
    sink ∈ r.allSinks := by
  rw [Router.mem_allSinks]
  cases h with
  | override own =>
    obtain ⟨before, after, hEntries, -⟩ := List.lookup_eq_some_iff.mp own
    refine .inr (.inr ⟨(level, sinks), ?_, hMem⟩)
    rw [hEntries]
    exact List.mem_append_right _ List.mem_cons_self
  | errors => exact .inr (.inl hMem)
  | normal => exact .inl hMem

end Router

/-- Where flushes follow writes, any write is followed by all of the flushes. -/
theorem SinkCall.flush_mem_after {writes before after : List SinkCall} {sinks : List SinkId}
    {sink k : SinkId} {line : ByteArray} {answer : Except LogError Nat}
    (hWrites : ∀ j, .flush j ∉ writes)
    (h : writes ++ sinks.map .flush = before ++ .write sink line answer :: after) :
    .write sink line answer ∈ writes ∧ (.flush k ∈ after ↔ k ∈ sinks) := by
  have hFlushes : write sink line answer ∉ sinks.map flush := by
    intro hMem
    obtain ⟨_, -, hFlush⟩ := List.mem_map.mp hMem
    cases hFlush
  obtain ⟨more, -, hMore⟩ | ⟨rest, rfl, hRest⟩ := List.append_eq_append_iff.mp h
  · rw [hMore] at hFlushes
    exact absurd (List.mem_append_right _ List.mem_cons_self) hFlushes
  · cases rest with
    | nil =>
      rw [List.nil_append] at hRest
      rw [← hRest] at hFlushes
      exact absurd List.mem_cons_self hFlushes
    | cons c r =>
      obtain ⟨rfl, rfl⟩ := List.cons.inj hRest
      refine ⟨List.mem_append_right _ List.mem_cons_self, ?_⟩
      have hNone : flush k ∉ r := fun hMem =>
        hWrites k (List.mem_append_right _ (List.mem_cons_of_mem _ hMem))
      simp [hNone]

/-! ## Exits -/

theorem Escalation.level_of_exit {level : Level} {message : String} {code : Int}
    (h : ofLevel level message = some (.exit code)) : level = .fatal := by
  rw [ofLevel] at h
  split at h
  · cases h
  · split at h
    · next hFatal => exact hFatal
    · cases h

namespace System

variable {W : Type} [SinkHost W] {env : Environment} {id : NodeId} {call : Call} {s : System W}

theorem of_escalate_exited {escalation : Escalation} {code : Int}
    (h : (s.escalate escalation).1 = .exited code) :
    s.engine.suppressesEscalation = false ∧ escalation = .exit code := by
  cases hLoud : s.engine.suppressesEscalation with
  | true =>
    rw [escalate_suppressed hLoud] at h
    cases h
  | false =>
    cases escalation with
    | panic message =>
      rw [escalate_panic hLoud] at h
      cases h
    | exit other =>
      rw [(escalate_exit hLoud other).1] at h
      cases h
      exact ⟨rfl, rfl⟩

/-- A call comes to an exit only by its level, and with all its lines written. -/
theorem of_exited {code : Int} (h : (s.log env id call).1 = .exited code) :
    call.level = .fatal ∧ s.engine.suppressesEscalation = false ∧
      (s.write env id call).1 = .ok () ∧
      (s.log env id call).2.sinks =
        (s.engine.router.router.flush (s.write env id call).2.sinks).2 := by
  cases hWrite : (s.write env id call).1 with
  | error fault =>
    rw [log_of_error hWrite] at h
    cases h
  | ok done =>
    have hLog := log_of_ok hWrite
    have hRouter : (s.write env id call).2.engine.router = s.engine.router :=
      (congrArg Engine.router (bare_write env id call s) :)
    cases hOwed : Escalation.ofLevel call.level call.message with
    | none =>
      rw [hLog, hOwed] at h
      cases h
    | some escalation =>
      rw [hOwed] at hLog
      rw [hLog] at h
      obtain ⟨hLoud, rfl⟩ := of_escalate_exited h
      refine ⟨Escalation.level_of_exit hOwed, ?_, rfl, ?_⟩
      · exact (suppressesEscalation_write env id call s).symm.trans hLoud
      · rw [hLog, ← hRouter]
        exact (escalate_exit hLoud code).2.2

theorem exited_iff : (s.log env id call).1 = .exited Escalation.fatalExitCode ↔
    call.level = .fatal ∧ s.engine.suppressesEscalation = false ∧
      ∀ a ∈ s.attempts env id call, a.passes → a.line?.isSome := by
  have hOk := (Runs.of_write env id call s).ok_iff
  constructor
  · intro h
    obtain ⟨hFatal, hLoud, hWrite, -⟩ := of_exited h
    exact ⟨hFatal, hLoud, hOk.mp hWrite⟩
  · rintro ⟨hFatal, hLoud, hLines⟩
    have hSuppresses := (suppressesEscalation_write env id call s).trans hLoud
    have hLog := log_of_ok (hOk.mpr hLines)
    rw [hFatal] at hLog
    rw [hLog]
    exact (escalate_exit hSuppresses _).1

theorem listed_subset {a : Attempt W} (h : a ∈ s.attempts env id call) {sink : SinkId}
    (hListed : sink ∈ a.listed) : sink ∈ (s.engine.routerOf id).router.allSinks := by
  obtain ⟨-, rfl, hBare⟩ := (Runs.of_write env id call s).bare_eq.2 a h
  have hRouter : a.system.engine.routerOf a.node = s.engine.routerOf a.node :=
    (congrArg (Engine.routerOf · a.node) hBare :)
  rw [Attempt.listed, hRouter] at hListed
  exact (Router.lists_sinksFor _ _ _).mem_allSinks hListed

/-- Before a call exits, the sinks of the engine's own router are flushed after all that the call
writes, each once and no other. Whatever sinks the lines go to, a line that one of these took is
flushed if and only if that router has the sink, as it has each sink of a logger without a router
of its own. A line that a file sink took is then in the file; without the flush it may wait. -/
theorem log_flushes_own (env : Environment) (id : NodeId) (call : Call) :
    (∀ {W : Type} [SinkHost W] (s : System W),
      let own := s.engine.router.router
      let watched := s.observed.log env id call
      -- What the journal notes is what is done without it.
      s.log env id call = (watched.1, watched.2.unobserved) ∧
      ((s.log env id call).1 = .exited Escalation.fatalExitCode ↔
        call.level = .fatal ∧ s.engine.suppressesEscalation = false ∧
          ∀ a ∈ s.attempts env id call, a.passes → a.line?.isSome) ∧
      ∀ code, (s.log env id call).1 = .exited code →
        watched.2.sinks.calls =
          (s.observed.attempts env id call).flatMap (·.writes) ++ own.allSinks.map .flush ∧
        ∀ before after sink line n,
          watched.2.sinks.calls = before ++ .write sink line (.ok n) :: after →
            (.flush sink ∈ after ↔ sink ∈ own.allSinks) ∧
            ((s.engine.config id).router = none → .flush sink ∈ after)) ∧
    ∀ (s : System SinkStore) code, (s.log env id call).1 = .exited code → ∀ line k,
      Attempt.line? ⟨env, id, call, s⟩ = some line → k ∈ Attempt.listed ⟨env, id, call, s⟩ →
        (s.sinks.held? k).isSome →
          (k ∈ s.engine.router.router.allSinks → (s.log env id call).2.sinks.Filed k line) ∧
          (k ∉ s.engine.router.router.allSinks →
            (s.write env id call).2.sinks.Has k line ∧
            SinkStore.Grew k (s.write env id call).2.sinks (s.log env id call).2.sinks) := by
  constructor
  · intro W _ s own watched
    have hWatched : s.log env id call = (watched.1, watched.2.unobserved) :=
      log_unobserved env id call s.observed
    refine ⟨hWatched, exited_iff, ?_⟩
    intro code hExit
    have hCalls : watched.2.sinks.calls =
        (s.observed.attempts env id call).flatMap (·.writes) ++ own.allSinks.map .flush := by
      have hWatchedExit : watched.1 = .exited code := by
        rw [hWatched] at hExit
        exact hExit
      obtain ⟨-, -, -, hSinks⟩ := of_exited hWatchedExit
      have hWrites := (Runs.of_write env id call s.observed).calls
      rw [hSinks, Router.flush, Router.firstError_flush_calls, hWrites]
      rfl
    refine ⟨hCalls, ?_⟩
    intro before after sink line n hSplit
    have hWrites : ∀ j, .flush j ∉ (s.observed.attempts env id call).flatMap (·.writes) := by
      intro j hMem
      obtain ⟨a, -, hMem⟩ := List.mem_flatMap.mp hMem
      obtain ⟨_, _, _, hCall, -⟩ := Attempt.of_mem_writes hMem
      cases hCall
    obtain ⟨hWrite, hFlushed⟩ := SinkCall.flush_mem_after hWrites (hCalls.symm.trans hSplit)
    refine ⟨hFlushed, ?_⟩
    intro hUnbound
    obtain ⟨a, hAttempt, hMem⟩ := List.mem_flatMap.mp hWrite
    obtain ⟨_, _, _, hCall, -, hListed⟩ := Attempt.of_mem_writes hMem
    cases hCall
    have hOwn : s.engine.routerOf id = s.engine.router := by
      rw [Engine.routerOf, hUnbound]
      rfl
    have hSubset := listed_subset hAttempt hListed
    change sink ∈ (s.engine.routerOf id).router.allSinks at hSubset
    rw [hOwn] at hSubset
    exact hFlushed.mpr hSubset
  · intro s code hExit line k hLine hListed hOpen
    obtain ⟨-, -, -, hSinks⟩ := of_exited hExit
    have hHas := (Runs.of_write env id call s).has hLine hListed hOpen
    rw [hSinks]
    constructor
    · exact fun hMem => Router.filed_flush hHas hMem
    · exact fun hNot => ⟨hHas, Router.grew_flush hNot⟩

/-- The last line of a logger with a file of its own is not in the file when the program exits. -/
theorem log_leaves_line :
    let env : Environment := { (default : Environment) with registry := .new }
    let root := Engine.build env
      { node := { format := .logfmt, timeLayout := .unix }, sinks := [⟨2⟩] }
    let (db, e) := root.childWith .root "db" [.sinks [⟨3⟩]]
    let store : SinkStore := {
      sinks := [.console .stdout, .console .stderr, .memory .new,
        .file ⟨"logs/db", "db", some .empty⟩]
      directory := ⟨"logs", [("db", .empty)]⟩
      log := [] }
    let s : System SinkStore := ⟨e, store, []⟩
    let left := s.log env db { level := .fatal, message := "bye" }
    left.1 = .exited 70 ∧ left.2.sinks.directory.get? "db" = some .empty ∧
      (left.2.sinks.held? ⟨3⟩).map (fun (content, pending) =>
        (content.data.toList, pending.data.toList)) =
          some ([], Text.utf8 "time=0 logger=db level=fatal msg=bye\n") := by
  decide +kernel

end System

end Logline
