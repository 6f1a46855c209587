import Logline.Proofs.Accounting
import Logline.Render.Lending

/-! # Escalations

What a record owes to its level comes after all that the call does otherwise. The switches of an
engine that hold escalations back have no part in anything before, so a call leaves the same system
behind whether its escalation is fired, counted or handed to the caller, and no canvas is out then.
-/

namespace Logline

/-- The same engine under other switches for its escalations. -/
def Engine.withSwitches (e : Engine) (testing noInterrupt : Bool) : Engine :=
  { e with testing, noInterrupt }

namespace System

variable {W : Type}

def withSwitches (s : System W) (testing noInterrupt : Bool) : System W :=
  { s with engine := s.engine.withSwitches testing noInterrupt }

/-! ## Two runs -/

variable [SinkHost W] (testing noInterrupt : Bool) (env : Environment) (id : NodeId)

/-- A record is filtered, painted and routed without a look at the switches. -/
theorem transparent_withSwitches :
    Transparent env id fun s : System W => s.withSwitches testing noInterrupt where
  attempt call s := by
    rw [Attempt.attempt_eq, Attempt.attempt_eq]
    rfl
  count _ := rfl
  diagnose _ _ := rfl

end System

/-! ## Canvases -/

namespace Attempt

variable {W : Type}

/-- What is left on a canvas: the line, or what there was of it. -/
def use (a : Attempt W) (canvas : Canvas) : Canvas :=
  match a.system.engine.paint a.environment a.node a.call canvas with
  | .ok canvas => canvas
  | .error fault => .ofBuffer fault.buffer

/-- A record that passes borrows one canvas. -/
def lend (l : Lending) (a : Attempt W) : Lending := if a.passes then l.borrow a.use else l

theorem lend_pool (a : Attempt W) (held : List (String × Canvas)) :
    lend ⟨a.system.engine.pool, held⟩ a = ⟨a.pool, held⟩ := by
  rw [lend, pool]
  split <;> rfl

end Attempt

/-- All canvases that the records of a task took have come back, and nothing else was taken. -/
theorem Runs.lending {W : Type} [SinkHost W] {env : Environment} {id : NodeId} {task : Task}
    {s t : System W} {as : List (Attempt W)} {x : Except Buffer.Fault Unit}
    (h : Runs env id task s as x t) (held : List (String × Canvas)) :
    as.foldl Attempt.lend ⟨s.engine.pool, held⟩ = ⟨t.engine.pool, held⟩ := by
  induction h with
  | @broken call s t fault tried =>
    obtain ⟨-, rfl⟩ := Attempt.of_attempt tried
    exact Attempt.lend_pool ⟨env, id, call, s⟩ held
  | @written call failures s t u as x tried _ ih =>
    obtain ⟨-, rfl⟩ := Attempt.of_attempt tried
    rw [List.foldl_cons, ← ih]
    exact congrArg (as.foldl Attempt.lend) (Attempt.lend_pool ⟨env, id, call, s⟩ held)
  | done => rfl
  | lost _ _ ih => exact ih
  | told _ _ _ ihReport ihRest =>
    rw [List.foldl_append, ← ihRest, ← ihReport]
    rfl
  | stuck _ _ ih => exact ih

/-! ## What an escalation does -/

namespace System

variable {W : Type} [SinkHost W] {env : Environment} {id : NodeId} {call : Call} {s : System W}

theorem escalate_suppressed (h : s.engine.suppressesEscalation) (escalation : Escalation) :
    s.escalate escalation = (.returned, { s with engine := s.engine.countSuppressed }) := by
  unfold escalate
  rw [if_pos h]

theorem escalate_panic (h : s.engine.suppressesEscalation = false) (message : String) :
    s.escalate (.panic message) = (.panicked message, s) := by
  unfold escalate
  rw [if_neg (Bool.eq_false_iff.mp h)]

/-- All that is still done before the program exits is to flush. -/
theorem escalate_exit (h : s.engine.suppressesEscalation = false) (code : Int) :
    (s.escalate (.exit code)).1 = .exited code ∧
      (s.escalate (.exit code)).2.engine = s.engine ∧
      (s.escalate (.exit code)).2.sinks = (s.engine.router.router.flush s.sinks).2 := by
  unfold escalate
  rw [if_neg (Bool.eq_false_iff.mp h)]
  dsimp only
  rcases s.engine.router.router.flush s.sinks with ⟨_ | _, sinks⟩ <;> exact ⟨rfl, rfl, rfl⟩

/-- The escalation of a call is an after-effect. Under any switches the call leaves the system that
it leaves when its escalation is fired, at the moment before that; only the count of a suppressed
escalation is added. Which calls escalate is up to their levels alone, if their lines come to an
end. -/
theorem log_escalates_last (env : Environment) (id : NodeId) (call : Call) (s : System W) :
    let loud := s.withSwitches false false
    let fired := (loud.write env id call).2
    -- A call comes to its escalation unless one of its records passes and has no line.
    ((loud.write env id call).1 = .ok () ↔
      ∀ a ∈ loud.attempts env id call, a.passes → a.line?.isSome) ∧
    -- No canvas of the call is out any more.
    (∀ held, (loud.attempts env id call).foldl Attempt.lend ⟨s.engine.pool, held⟩ =
      ⟨fired.engine.pool, held⟩) ∧
    fired.engine.hierarchy = s.engine.hierarchy ∧
    ∀ testing noInterrupt,
      let quiet := s.withSwitches testing noInterrupt
      let left := fired.withSwitches testing noInterrupt
      -- A record without a line ends the call in a panic of its own, which no switch holds back.
      (∀ fault, (loud.write env id call).1 = .error fault →
        loud.log env id call = (.panicked fault.message, fired) ∧
        quiet.log env id call = (.panicked fault.message, left) ∧
        quiet.emit env id call = (.error fault, left)) ∧
      ((loud.write env id call).1 = .ok () →
        -- What would be fired is handed to a caller who only emits.
        quiet.emit env id call = (.ok (Escalation.ofLevel call.level call.message), left) ∧
        -- Calls of two levels escalate, whatever passes, stands for them or fails.
        (call.level = .panic → loud.log env id call = (.panicked call.message, fired)) ∧
        (call.level = .fatal → loud.log env id call = fired.escalate (.exit 70) ∧
          (loud.log env id call).1 = .exited 70 ∧
          (loud.log env id call).2.engine = fired.engine ∧
          (loud.log env id call).2.sinks = (fired.engine.router.router.flush fired.sinks).2) ∧
        (call.level = .panic ∨ call.level = .fatal → testing || noInterrupt →
          quiet.log env id call =
            (.returned, { left with engine := left.engine.countSuppressed })) ∧
        (call.level ≠ .panic → call.level ≠ .fatal →
          loud.log env id call = (.returned, fired) ∧
          quiet.log env id call = (.returned, left))) := by
  intro loud fired
  have hRun := Runs.of_write env id call loud
  refine ⟨hRun.ok_iff, fun held => hRun.lending held, ?_, ?_⟩
  · have hBare := loud.bare_write env id call
    exact (congrArg Engine.hierarchy hBare :)
  · intro testing noInterrupt quiet left
    have hQuiet : quiet.write env id call = ((loud.write env id call).1, left) :=
      (transparent_withSwitches testing noInterrupt env id).write call loud
    have hLoud : fired.engine.suppressesEscalation = false :=
      suppressesEscalation_write env id call loud
    constructor
    · intro fault hFault
      have hQuietFault : (quiet.write env id call).1 = .error fault := by
        rw [hQuiet]
        exact hFault
      refine ⟨log_of_error hFault, ?_, ?_⟩
      · rw [log_of_error hQuietFault, hQuiet]
      · rw [emit_eq, hQuiet, hFault]
        rfl
    · intro hDone
      have hQuietDone : (quiet.write env id call).1 = .ok () := by
        rw [hQuiet]
        exact hDone
      have hLoudLog := log_of_ok hDone
      have hQuietLog := log_of_ok hQuietDone
      refine ⟨?_, ?_, ?_, ?_, ?_⟩
      · rw [emit_eq, hQuiet, hDone]
        rfl
      · intro hPanic
        rw [hPanic] at hLoudLog
        exact hLoudLog.trans (escalate_panic hLoud call.message)
      · intro hFatal
        rw [hFatal] at hLoudLog
        have hExit : loud.log env id call = fired.escalate (.exit 70) := hLoudLog
        refine ⟨hExit, ?_⟩
        rw [hExit]
        exact escalate_exit hLoud 70
      · intro hLevel hSuppressed
        have hLeft : left.engine.suppressesEscalation := hSuppressed
        obtain hPanic | hFatal := hLevel
        · rw [hPanic, hQuiet] at hQuietLog
          exact hQuietLog.trans (escalate_suppressed hLeft _)
        · rw [hFatal, hQuiet] at hQuietLog
          exact hQuietLog.trans (escalate_suppressed hLeft _)
      · intro hPanic hFatal
        have hNone : Escalation.ofLevel call.level call.message = none := by
          rw [Escalation.ofLevel, if_neg hPanic, if_neg hFatal]
        rw [hNone] at hLoudLog hQuietLog
        rw [hQuiet] at hQuietLog
        exact ⟨hLoudLog, hQuietLog⟩

/-- A call whose line has no end ends in that panic. It escalates in no way, whatever its level. -/
theorem log_breaks_first :
    let env : Environment := { (default : Environment) with registry := .new }
    let quiet : System SinkStore :=
      ⟨Engine.build env { node := { format := .logfmt }, testing := true }, .new, []⟩
    let endless : Call :=
      { level := .fatal, message := "m", args := [.attr ⟨"k", .marshal .boundless⟩] }
    (quiet.log env .root endless).1 = .panicked "buffer too large" ∧
      (quiet.log env .root endless).2.engine.metrics.escalationsSuppressed = 0 := by
  decide +kernel

end System

end Logline
