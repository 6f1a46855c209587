import Logline.Proofs.LevelHistory
import Logline.Render.Canvas

/-! # Thresholds

Which records pass, in any registry that calls for new levels and switches of the debug mode can
lead to. A level that stands for another one is followed one step and no further, so what passes at
a level depends on its own entry only, and a level that is registered later changes nothing but
itself.
-/

namespace Logline

inductive RegistryAction where
  | register (c : Registration)
  | setDebugMode (on : Bool)

namespace LevelRegistry

def perform (r : LevelRegistry) : RegistryAction → LevelRegistry
  | .register c => r.apply c
  | .setDebugMode on => r.setDebugMode on

/-- A new registry after a row of actions. -/
def ofActions (actions : List RegistryAction) : LevelRegistry := actions.foldl perform new

/-- The records that a logger with the threshold lets through. -/
def passing (r : LevelRegistry) (threshold : Level) (records : List Record) : List Record :=
  records.filter fun record => r.enabled threshold record.level

variable {r s : LevelRegistry}

theorem enabled_iff {threshold level : Level} : r.enabled threshold level = true ↔
    threshold ≠ .off ∧ level ≠ .off ∧ (threshold = .always ∨ level = .always ∨
      level = .debug ∧ r.debugMode = true ∨ (r.resolve level).ordinal ≤ threshold.ordinal) := by
  rw [enabled]
  split
  · rename_i hOff
    constructor
    · nofun
    · rintro ⟨hThreshold, hLevel, -⟩
      exact absurd hOff (not_or.mpr ⟨hThreshold, hLevel⟩)
  · rename_i hOn
    obtain ⟨hThreshold, hLevel⟩ := not_or.mp hOn
    split
    · rename_i hAlways
      simp only [hThreshold, hLevel, ne_eq, not_false_eq_true, true_and, true_iff]
      rcases hAlways with hAlways | hAlways
      · exact .inl hAlways
      · exact .inr (.inl hAlways)
    · rename_i hAlways
      obtain ⟨hNever, hNever'⟩ := not_or.mp hAlways
      split <;> simp_all

theorem passing_sublist {low high : Level}
    (h : ∀ level, r.enabled low level = true → s.enabled high level = true)
    (records : List Record) : (r.passing low records).Sublist (s.passing high records) :=
  List.monotone_filter_right records fun record => h record.level

/-! ## Thresholds in order -/

theorem enabled_mono {low high : Level} (hOrder : low.ordinal ≤ high.ordinal)
    (hLow : low ≠ .always) (hHigh : high ≠ .off) {level : Level}
    (h : r.enabled low level = true) : r.enabled high level = true := by
  obtain ⟨-, hLevel, hAlways | hAlways | hDebug | hBelow⟩ := enabled_iff.mp h
  · exact absurd hAlways hLow
  · exact enabled_iff.mpr ⟨hHigh, hLevel, .inr (.inl hAlways)⟩
  · exact enabled_iff.mpr ⟨hHigh, hLevel, .inr (.inr (.inl hDebug))⟩
  · exact enabled_iff.mpr ⟨hHigh, hLevel, .inr (.inr (.inr (Int.le_trans hBelow hOrder)))⟩

theorem debug_ne_off : Level.debug ≠ .off := by decide

theorem enabled_setDebugMode {threshold level : Level} :
    (r.setDebugMode true).enabled threshold level = true ↔
      r.enabled threshold level = true ∨ level = .debug ∧ threshold ≠ .off := by
  rw [enabled_iff, enabled_iff]
  constructor
  · rintro ⟨hThreshold, hLevel, hAlways | hAlways | ⟨hDebug, -⟩ | hBelow⟩
    · exact .inl ⟨hThreshold, hLevel, .inl hAlways⟩
    · exact .inl ⟨hThreshold, hLevel, .inr (.inl hAlways)⟩
    · exact .inr ⟨hDebug, hThreshold⟩
    · exact .inl ⟨hThreshold, hLevel, .inr (.inr (.inr hBelow))⟩
  · rintro (⟨hThreshold, hLevel, hAlways | hAlways | ⟨hDebug, -⟩ | hBelow⟩ | ⟨rfl, hThreshold⟩)
    · exact ⟨hThreshold, hLevel, .inl hAlways⟩
    · exact ⟨hThreshold, hLevel, .inr (.inl hAlways)⟩
    · exact ⟨hThreshold, hLevel, .inr (.inr (.inl ⟨hDebug, rfl⟩))⟩
    · exact ⟨hThreshold, hLevel, .inr (.inr (.inr hBelow))⟩
    · exact ⟨hThreshold, debug_ne_off, .inr (.inr (.inl ⟨rfl, rfl⟩))⟩

/-! ## Later registrations -/

theorem Consistent.perform (h : r.Consistent) (action : RegistryAction) :
    (r.perform action).Consistent := by
  cases action with
  | register c => exact h.apply c
  | setDebugMode on => exact ⟨h.ordinals, h.keys, h.trimmed, h.tables⟩

theorem Consistent.performAll (h : r.Consistent) (actions : List RegistryAction) :
    (actions.foldl LevelRegistry.perform r).Consistent := by
  induction actions generalizing r with
  | nil => exact h
  | cons action actions ih => exact ih (h.perform action)

theorem info?_extend_of_ne (r : LevelRegistry) {c : Registration} {level : Level}
    (h : c.level ≠ level) : (r.extend c).info? level = r.info? level := by
  have hInfo : c.info.level ≠ level := h
  rw [info?, info?, extend, List.find?_append]
  simp [hInfo]

/-- A level that a call does not register is known as it was, also one that stands for the level
of the call. -/
theorem Consistent.info?_perform (h : r.Consistent) {action : RegistryAction} {level : Level}
    (hOther : ∀ c, action = .register c → c.level ≠ level) :
    (r.perform action).info? level = r.info? level := by
  cases action with
  | setDebugMode on => rfl
  | register c =>
    rw [LevelRegistry.perform, LevelRegistry.apply]
    rcases h.register_cases c with ⟨-, error, hError⟩ | ⟨-, hOk⟩
    · rw [hError]
    · rw [hOk]
      exact info?_extend_of_ne r (hOther c rfl)

theorem Consistent.info?_performAll (h : r.Consistent) {actions : List RegistryAction}
    {level : Level} (hOther : ∀ c, .register c ∈ actions → c.level ≠ level) :
    (actions.foldl LevelRegistry.perform r).info? level = r.info? level := by
  induction actions generalizing r with
  | nil => rfl
  | cons action actions ih =>
    have hRest : ∀ c, .register c ∈ actions → c.level ≠ level := fun c hc =>
      hOther c (List.mem_cons_of_mem action hc)
    rw [List.foldl_cons, ih (h.perform action) hRest]
    apply h.info?_perform
    rintro c rfl
    exact hOther c List.mem_cons_self

theorem enabled_congr {level : Level} (hInfo : s.info? level = r.info? level)
    (hDebug : s.debugMode = r.debugMode) (threshold : Level) :
    s.enabled threshold level = r.enabled threshold level := by
  rw [enabled, enabled, resolve, resolve, hInfo, hDebug]

theorem Consistent.enabled_register (h : r.Consistent) {c : Registration}
    (hOk : r.register c.level c.title c.options = .ok s) {level : Level} (hLevel : level ≠ c.level)
    (threshold : Level) : s.enabled threshold level = r.enabled threshold level := by
  rcases h.register_cases c with ⟨-, error, hError⟩ | ⟨-, hExtend⟩
  · rw [hError] at hOk
    cases hOk
  · rw [hExtend] at hOk
    cases hOk
    exact enabled_congr (info?_extend_of_ne r hLevel.symm) rfl threshold

/-- After any row of calls: a higher threshold passes all that a lower one passes, in order; the
debug mode adds `DEBUG` and nothing else; `OFF` passes nothing and never passes, `ALWAYS` passes
everything and passes always, as far as there is no `OFF`. Registering a level changes what is
passed at this level and at no other, and nor do all later actions, as far as the debug mode is as
it was. -/
theorem ofActions_filters (actions : List RegistryAction) :
    (∀ low high : Level, low.ordinal ≤ high.ordinal → low ≠ .off → low ≠ .always → high ≠ .off →
      high ≠ .always → ∀ records, ((ofActions actions).passing low records).Sublist
        ((ofActions actions).passing high records)) ∧
    (∀ threshold records, ((ofActions actions).passing threshold records).Sublist
        (((ofActions actions).setDebugMode true).passing threshold records)) ∧
    (∀ threshold level, ((ofActions actions).setDebugMode true).enabled threshold level = true ↔
      (ofActions actions).enabled threshold level = true ∨ level = .debug ∧ threshold ≠ .off) ∧
    (∀ level, (ofActions actions).enabled .off level = false) ∧
    (∀ threshold, (ofActions actions).enabled threshold .off = false) ∧
    (∀ level, level ≠ .off → (ofActions actions).enabled .always level = true) ∧
    (∀ threshold, threshold ≠ .off → (ofActions actions).enabled threshold .always = true) ∧
    (∀ (c : Registration) (later : LevelRegistry),
      (ofActions actions).register c.level c.title c.options = .ok later →
        ∀ threshold level, level ≠ c.level →
          later.enabled threshold level = (ofActions actions).enabled threshold level) ∧
    ∀ (more : List RegistryAction) (level : Level), (∀ c, .register c ∈ more → c.level ≠ level) →
      ∀ threshold, ((ofActions (actions ++ more)).setDebugMode
        (ofActions actions).debugMode).enabled threshold level =
          (ofActions actions).enabled threshold level := by
  have h : (ofActions actions).Consistent := consistent_new.performAll actions
  refine ⟨?_, ?_, ?_, ?_, ?_, ?_, ?_, ?_, ?_⟩
  · intro low high hOrder _ hLow hHigh _
    exact passing_sublist fun level hPass => enabled_mono hOrder hLow hHigh hPass
  · intro threshold
    exact passing_sublist fun level hPass => enabled_setDebugMode.mpr (.inl hPass)
  · intro threshold level
    exact enabled_setDebugMode
  · intro level
    exact if_pos (.inl rfl)
  · intro threshold
    exact if_pos (.inr rfl)
  · intro level hLevel
    exact enabled_iff.mpr ⟨by decide, hLevel, .inl rfl⟩
  · intro threshold hThreshold
    exact enabled_iff.mpr ⟨hThreshold, by decide, .inr (.inl rfl)⟩
  · intro c later hOk threshold level hLevel
    exact h.enabled_register hOk hLevel threshold
  · intro more level hOther threshold
    apply enabled_congr
    · rw [ofActions, List.foldl_append]
      exact h.info?_performAll hOther
    · rfl

end LevelRegistry

end Logline
