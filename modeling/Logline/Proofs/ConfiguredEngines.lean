import Logline.Engine.Basic
import Logline.Proofs.EngineSettings

/-! # Configured engines

A configuration makes an engine when a canvas can be kept, the level is known, every pattern can be
read and the queue of the pool can be made; the engine then has every setting of it.
-/

namespace Logline

open Json (Raw CodeUnit Assigns)
open Text (utf8)

/-! ## Pools -/

/-- Whether the places of a queue of this size fit in the memory that can be addressed. -/
def CanvasPool.HasRoom (size : Nat) : Prop := size * placeBytes < byteBound

instance (size : Nat) : Decidable (CanvasPool.HasRoom size) :=
  inferInstanceAs (Decidable (_ < _))

namespace CanvasPool

/-- What a pool without room fails with: the number of the places is looked at first. -/
def faultOf (size : Nat) : Fault :=
  if placeBound ≤ size then .tooManyPlaces else .tooManyBytes

theorem HasRoom.lt_placeBound {size : Nat} (h : HasRoom size) : size < placeBound := by
  rw [HasRoom, show byteBound = 2 * placeBound from rfl, placeBytes] at h
  omega

theorem new?_of_hasRoom {size : Nat} (h : HasRoom size) : new? size = .ok (new size) := by
  rw [new?, if_neg (Nat.not_le.mpr h.lt_placeBound), if_neg (Nat.not_le.mpr h)]

theorem new?_of_not_hasRoom {size : Nat} (h : ¬ HasRoom size) :
    new? size = .error (faultOf size) := by
  rw [new?, faultOf, if_pos (Nat.not_lt.mp h)]
  split <;> rfl

end CanvasPool

/-! ## Rules -/

/-- The rule that is found for a rule of a configuration. -/
def RedactRule.Compiled (rule : RedactRule) (found : Pattern.Regex × String) : Prop :=
  Pattern.Regex.read? rule.pattern = some found.1 ∧ found.2 = rule.replacement

theorem Redactor.withRule_eq_ok_iff {r r' : Redactor} {rule : RedactRule} :
    r.withRule rule.pattern rule.replacement = .ok r' ↔
      ∃ found, rule.Compiled found ∧ r' = { r with rules := r.rules ++ [found] } := by
  rw [withRule]
  constructor
  · intro h
    split at h
    · next regex hRead =>
      cases h
      exact ⟨(regex, rule.replacement), ⟨hRead, rfl⟩, rfl⟩
    · cases h
  · rintro ⟨⟨regex, replacement⟩, ⟨hRead, rfl⟩, rfl⟩
    rw [hRead]

/-- The rules are added in their order, and a redactor results only when all can be read. -/
theorem Redactor.foldlM_withRule_eq_ok_iff {rules : List RedactRule} {r r' : Redactor} :
    rules.foldlM (fun r rule => r.withRule rule.pattern rule.replacement) r = .ok r' ↔
      ∃ found, List.Forall₂ RedactRule.Compiled rules found ∧
        r' = { r with rules := r.rules ++ found } := by
  induction rules generalizing r with
  | nil =>
    rw [List.foldlM_nil]
    constructor
    · rintro ⟨⟩
      exact ⟨[], .nil, by rw [List.append_nil]⟩
    · rintro ⟨found, ⟨⟩, rfl⟩
      rw [List.append_nil]
      rfl
  | cons rule rest ih =>
    rw [List.foldlM_cons]
    constructor
    · intro h
      cases hFirst : r.withRule rule.pattern rule.replacement with
      | error error => rw [hFirst] at h; cases h
      | ok next =>
        rw [hFirst] at h
        obtain ⟨first, hCompiled, rfl⟩ := withRule_eq_ok_iff.mp hFirst
        obtain ⟨found, hRest, rfl⟩ := ih.mp h
        exact ⟨first :: found, .cons hCompiled hRest, by simp⟩
    · rintro ⟨_, hFound | ⟨hCompiled, hRest⟩, rfl⟩
      rw [withRule_eq_ok_iff.mpr ⟨_, hCompiled, rfl⟩]
      exact ih.mpr ⟨_, hRest, by simp⟩

theorem RedactRule.exists_compiled {rules : List RedactRule} :
    (∃ found, List.Forall₂ Compiled rules found) ↔
      ∀ rule ∈ rules, (Pattern.Regex.read? rule.pattern).isSome := by
  constructor
  · rintro ⟨found, hFound⟩
    induction hFound with
    | nil => simp
    | cons hCompiled _ ih =>
      exact List.forall_mem_cons.mpr ⟨Option.isSome_of_eq_some hCompiled.1, ih⟩
  · intro h
    induction rules with
    | nil => exact ⟨[], .nil⟩
    | cons rule rest ih =>
      obtain ⟨hRule, hRest⟩ := List.forall_mem_cons.mp h
      obtain ⟨regex, hRead⟩ := Option.isSome_iff_exists.mp hRule
      obtain ⟨found, hFound⟩ := ih hRest
      exact ⟨(regex, rule.replacement) :: found, .cons ⟨hRead, rfl⟩ hFound⟩

/-! ## Options -/

namespace EngineConfig

structure Usable (registry : LevelRegistry) (config : EngineConfig) : Prop where
  size : 1 ≤ config.poolSize
  level : (registry.info? config.level).isSome
  patterns : ∀ rule ∈ config.redactRules, (Pattern.Regex.read? rule.pattern).isSome

theorem validate_eq_ok_iff {registry : LevelRegistry} {config : EngineConfig} :
    config.validate registry = .ok () ↔
      1 ≤ config.poolSize ∧ (registry.info? config.level).isSome := by
  rw [validate, ← Option.not_isNone, Bool.not_eq_true']
  split
  · next hZero => simp [hZero]
  · next hSize =>
    split
    · next hNone => simp [hNone]
    · next hLevel =>
      exact ⟨fun _ => ⟨Nat.one_le_iff_ne_zero.mpr hSize, Bool.eq_false_iff.mpr hLevel⟩,
        fun _ => rfl⟩

end EngineConfig

/-- The rules of the configuration in its order, and the signs it asks for. -/
structure Redactor.Follows (env : Environment) (config : EngineConfig) (r : Redactor) : Prop where
  rules : List.Forall₂ RedactRule.Compiled config.redactRules r.rules
  workingDirectory : r.workingDirectory =
    if config.redactEnvironment then env.redactor.workingDirectory else none
  home : r.home = if config.redactEnvironment then env.redactor.home else none

theorem EngineConfig.Usable.exists_follows {env : Environment} {config : EngineConfig}
    (h : config.Usable env.registry) : ∃ r : Redactor, r.Follows env config := by
  obtain ⟨found, hFound⟩ := RedactRule.exists_compiled.mpr h.patterns
  exact ⟨⟨found, _, _⟩, hFound, rfl, rfl⟩

namespace EngineOptions

variable {env : Environment} {config : EngineConfig}

/-- The options with the settings of a configuration. -/
def configured (config : EngineConfig) (redactor : Redactor) : EngineOptions where
  name := config.name
  node := {
    format := config.format
    color := config.color
    utc := config.utc
    timeLayout := config.timeLayout
    level := config.level
    caller := config.caller }
  redactor := some redactor
  collectRecursive := config.collectRecursive
  noInterrupt := config.noInterrupt
  testing := config.testing
  strictLock := config.strictLock
  poolSize := config.poolSize

theorem configuredRedactor_eq_ok_iff {r : Redactor} :
    configuredRedactor env config = .ok r ↔ r.Follows env config := by
  have hStart : (if config.redactEnvironment then env.redactor else Redactor.empty) =
      ⟨[], if config.redactEnvironment then env.redactor.workingDirectory else none,
        if config.redactEnvironment then env.redactor.home else none⟩ := by
    split <;> rfl
  rw [configuredRedactor, Redactor.foldlM_withRule_eq_ok_iff, hStart]
  constructor
  · rintro ⟨found, hFound, rfl⟩
    exact ⟨hFound, rfl, rfl⟩
  · rintro ⟨hRules, hWorking, hHome⟩
    exact ⟨r.rules, hRules, by rw [← hWorking, ← hHome]; rfl⟩

theorem ofConfig_eq_ok_iff {o : EngineOptions} :
    ofConfig env config = .ok o ↔ config.Usable env.registry ∧
      ∃ r, r.Follows env config ∧ o = configured config r := by
  have hUsable {r : Redactor} (hValid : config.validate env.registry = .ok ())
      (h : r.Follows env config) : config.Usable env.registry :=
    have hBoth := EngineConfig.validate_eq_ok_iff.mp hValid
    ⟨hBoth.1, hBoth.2, RedactRule.exists_compiled.mp ⟨_, h.rules⟩⟩
  rw [ofConfig]
  constructor
  · intro h
    cases hValid : config.validate env.registry with
    | error error => rw [hValid] at h; cases h
    | ok _ =>
      cases hRedactor : configuredRedactor env config with
      | error error => rw [hValid, hRedactor] at h; cases h
      | ok r =>
        rw [hValid, hRedactor] at h
        cases h
        have hFollows := configuredRedactor_eq_ok_iff.mp hRedactor
        exact ⟨hUsable hValid hFollows, r, hFollows, rfl⟩
  · rintro ⟨hConfig, r, hFollows, rfl⟩
    have hValid := EngineConfig.validate_eq_ok_iff.mpr ⟨hConfig.size, hConfig.level⟩
    rw [hValid, configuredRedactor_eq_ok_iff.mpr hFollows]
    rfl

theorem exists_ofConfig_iff :
    (∃ o, ofConfig env config = .ok o) ↔ config.Usable env.registry := by
  constructor
  · rintro ⟨o, h⟩
    exact (ofConfig_eq_ok_iff.mp h).1
  · intro h
    obtain ⟨r, hFollows⟩ := h.exists_follows
    exact ⟨_, ofConfig_eq_ok_iff.mpr ⟨h, r, hFollows, rfl⟩⟩

end EngineOptions

/-! ## Engines -/

namespace Engine

variable {env : Environment} {config : EngineConfig}

/-- The settings of an engine are those of the configuration. -/
structure Follows (env : Environment) (config : EngineConfig) (e : Engine) : Prop where
  name : (e.node .root).name = config.name
  level : (e.config .root).level = config.level
  format : (e.config .root).format = config.format
  color : (e.config .root).color = config.color
  utc : (e.config .root).utc = config.utc
  timeLayout : (e.config .root).timeLayout = config.timeLayout
  caller : (e.config .root).caller = config.caller
  collectRecursive : e.collectRecursive = config.collectRecursive
  noInterrupt : e.noInterrupt = config.noInterrupt
  testing : e.testing = config.testing
  strictLock : e.strictLock = config.strictLock
  router : (e.routerOf .root).router.strict = config.strictLock
  pool : e.pool = ⟨config.poolSize, [], 0⟩
  redactor : e.redactor.Follows env config

theorem ofConfig_eq_ok_iff {result : Except CanvasPool.Fault Engine} :
    ofConfig env config = .ok result ↔ config.Usable env.registry ∧
      ∃ r, r.Follows env config ∧ result = build? env (.configured config r) := by
  rw [ofConfig]
  constructor
  · intro h
    cases hOptions : EngineOptions.ofConfig env config with
    | error error => rw [hOptions] at h; cases h
    | ok o =>
      rw [hOptions] at h
      cases h
      obtain ⟨hUsable, r, hFollows, rfl⟩ := EngineOptions.ofConfig_eq_ok_iff.mp hOptions
      exact ⟨hUsable, r, hFollows, rfl⟩
  · rintro ⟨hUsable, r, hFollows, rfl⟩
    rw [EngineOptions.ofConfig_eq_ok_iff.mpr ⟨hUsable, r, hFollows, rfl⟩]
    rfl

theorem build?_of_hasRoom {o : EngineOptions} (h : CanvasPool.HasRoom o.poolSize) :
    build? env o = .ok (build env o) := by
  rw [build?, CanvasPool.new?_of_hasRoom h]
  rfl

theorem build?_of_not_hasRoom {o : EngineOptions} (h : ¬ CanvasPool.HasRoom o.poolSize) :
    build? env o = .error (CanvasPool.faultOf o.poolSize) := by
  rw [build?, CanvasPool.new?_of_not_hasRoom h]
  rfl

theorem strict_chosenRouter {o : EngineOptions} (h : o.router = none) :
    o.chosenRouter.strict = false := by
  rw [EngineOptions.chosenRouter, h]
  dsimp only
  split <;> rfl

theorem strict_enforceStrict {strictLock : Bool} {router : Router} (h : router.strict = false) :
    (enforceStrict strictLock router).strict = strictLock := by
  cases strictLock
  · exact h
  · rfl

theorem follows_build {r : Redactor} (hSize : 1 ≤ config.poolSize)
    (hFollows : r.Follows env config) :
    (build env (.configured config r)).Follows env config where
  name := rfl
  level := rfl
  format := rfl
  color := rfl
  utc := rfl
  timeLayout := rfl
  caller := rfl
  collectRecursive := rfl
  noInterrupt := rfl
  testing := rfl
  strictLock := rfl
  router := strict_enforceStrict (strict_chosenRouter rfl)
  pool := congrArg (CanvasPool.mk · [] 0) (Nat.max_eq_left hSize)
  redactor := hFollows

/-- With a usable configuration only the queue of the pool can be in the way. -/
theorem ofConfig_of_not_hasRoom (h : config.Usable env.registry)
    (hRoom : ¬ CanvasPool.HasRoom config.poolSize) :
    ofConfig env config = .ok (.error (CanvasPool.faultOf config.poolSize)) := by
  obtain ⟨r, hFollows⟩ := h.exists_follows
  exact ofConfig_eq_ok_iff.mpr
    ⟨h, r, hFollows, (build?_of_not_hasRoom (o := .configured config r) hRoom).symm⟩

theorem exists_ofConfig_ok_iff : (∃ e, ofConfig env config = .ok (.ok e)) ↔
    config.Usable env.registry ∧ CanvasPool.HasRoom config.poolSize := by
  constructor
  · rintro ⟨e, h⟩
    obtain ⟨hUsable, -⟩ := ofConfig_eq_ok_iff.mp h
    refine ⟨hUsable, by_contra fun hRoom => ?_⟩
    cases h.symm.trans (ofConfig_of_not_hasRoom hUsable hRoom)
  · rintro ⟨hUsable, hRoom⟩
    obtain ⟨r, hFollows⟩ := hUsable.exists_follows
    exact ⟨_, ofConfig_eq_ok_iff.mpr
      ⟨hUsable, r, hFollows, (build?_of_hasRoom (o := .configured config r) hRoom).symm⟩⟩

theorem follows_of_ofConfig {e : Engine} (h : ofConfig env config = .ok (.ok e)) :
    e.Follows env config := by
  obtain ⟨hUsable, hRoom⟩ := exists_ofConfig_ok_iff.mp ⟨e, h⟩
  obtain ⟨-, r, hFollows, hBuild⟩ := ofConfig_eq_ok_iff.mp h
  rw [build?_of_hasRoom (o := .configured config r) hRoom] at hBuild
  cases hBuild
  exact follows_build hUsable.size hFollows

end Engine

namespace EngineConfig

open Engine (Follows)

/-- A configuration with a registered level is read from its text as it is, and an object with
some settings as the default configuration with these. The options of an engine are made exactly
when the configuration is usable, and the engine when there also is room for its pool; it then has
all the settings. -/
theorem lasts_and_applies (env : Environment) (calls : List Registration) (config : EngineConfig)
    (hRegistry : env.registry = .ofCalls calls) :
    ((env.registry.info? config.level).isSome → config.poolSize < 2 ^ 64 →
      parse env.registry (config.text env.registry) = .ok config) ∧
    (∀ (s : String) (members : List (List CodeUnit × Raw)) (xs : List Setting),
      Json.readDocument (utf8 s) = some (.object members) →
      Assigns Setting.field (Setting.Given env.registry) members xs →
      ∃ found, parse env.registry s = .ok found ∧ ∀ x, found.Has x ↔
        x ∈ xs ∨ (∀ y ∈ xs, x.field ≠ y.field) ∧ ({} : EngineConfig).Has x) ∧
    ((∃ o, EngineOptions.ofConfig env config = .ok o) ↔ config.Usable env.registry) ∧
    ((∃ e, Engine.ofConfig env config = .ok (.ok e)) ↔
      config.Usable env.registry ∧ CanvasPool.HasRoom config.poolSize) ∧
    (config.Usable env.registry → ¬ CanvasPool.HasRoom config.poolSize →
      Engine.ofConfig env config = .ok (.error (CanvasPool.faultOf config.poolSize))) ∧
    ∀ e, Engine.ofConfig env config = .ok (.ok e) → e.Follows env config := by
  refine ⟨fun hLevel hSize => parse_text ?_ hSize, fun s members xs => parse_object,
    EngineOptions.exists_ofConfig_iff, Engine.exists_ofConfig_ok_iff,
    Engine.ofConfig_of_not_hasRoom, fun e => Engine.follows_of_ofConfig⟩
  rw [hRegistry] at hLevel ⊢
  have hTitle : (LevelRegistry.ofCalls calls).parse
      ("" ++ (LevelRegistry.ofCalls calls).title config.level ++ "") = .ok config.level :=
    (LevelRegistry.consistent_ofCalls calls).parse_title hLevel (by simp) (by simp)
  simpa using hTitle

/-- A level with a title of its own, a layout and a rule with signs that texts escape. -/
theorem lasts_and_applies_of_loud :
    let env : Environment :=
      ⟨.ofCalls [⟨⟨45⟩, "Very \"Loud\"", {}⟩], false, "/srv/app", "/home/user",
        fun _ => .universal⟩
    let config : EngineConfig := {
      name := "relay", level := ⟨45⟩, timeLayout := .custom "%H\n\"%M\"", strictLock := true,
      poolSize := 2, redactRules := [⟨"^/opt\\b", "<\t>"⟩] }
    parse env.registry (config.text env.registry) = .ok config ∧
      (∃ found, parse env.registry "\x7b\"caller\":true,\"other\":null\x7d" = .ok found ∧
        found.Has (.caller true) ∧ found.Has (.poolSize 64)) ∧
      (∃ e, Engine.ofConfig env config = .ok (.ok e) ∧ e.Follows env config) ∧
      Engine.ofConfig env { config with poolSize := 2 ^ 60 } = .ok (.error .tooManyBytes) := by
  intro env config
  obtain ⟨hText, hObject, -, hEngine, -, hFollows⟩ := lasts_and_applies env _ config rfl
  have hLevel : (env.registry.info? config.level).isSome := by decide +kernel
  have hPatterns : ∀ rule ∈ config.redactRules, (Pattern.Regex.read? rule.pattern).isSome := by
    decide +kernel
  have hUsable : config.Usable env.registry := ⟨by decide, hLevel, hPatterns⟩
  obtain ⟨e, hMade⟩ := hEngine.mpr ⟨hUsable, by decide +kernel⟩
  have hRead : Json.readDocument (utf8 "\x7b\"caller\":true,\"other\":null\x7d") = some
      (.object [((utf8 "caller").map .byte, .bool true), ((utf8 "other").map .byte, .null)]) := rfl
  have hUnknown (x : Setting) : x.field ≠ "other" := by cases x <;> simp [Setting.field]
  have hAssigns : Assigns Setting.field (Setting.Given env.registry)
      [((utf8 "caller").map .byte, .bool true), ((utf8 "other").map .byte, .null)]
      [.caller true] :=
    .setting (Setting.caller true) rfl rfl (List.forall_mem_nil _) (.unknown rfl hUnknown .nil)
  obtain ⟨found, hFound, hHas⟩ := hObject _ _ _ hRead hAssigns
  have hCaller : found.Has (.caller true) := (hHas _).mpr (.inl (List.mem_singleton.mpr rfl))
  have hSize : found.Has (.poolSize 64) := (hHas _).mpr (.inr ⟨by simp [Setting.field], rfl⟩)
  obtain ⟨-, -, -, -, hFull, -⟩ :=
    lasts_and_applies env _ { config with poolSize := 2 ^ 60 } rfl
  exact ⟨hText hLevel (by decide), ⟨found, hFound, hCaller, hSize⟩, ⟨e, hMade, hFollows e hMade⟩,
    hFull ⟨by decide, hLevel, hPatterns⟩ (by decide +kernel)⟩

/-- A size of one word that is valid and too large for any queue. -/
theorem usable_without_room :
    let env : Environment := ⟨.new, false, "", "", fun _ => .universal⟩
    let config : EngineConfig := { poolSize := 18446744073709551615 }
    config.Usable env.registry ∧ config.poolSize < 2 ^ 64 ∧
      Engine.ofConfig env config = .ok (.error .tooManyPlaces) :=
  ⟨⟨by decide, by decide +kernel, nofun⟩, by decide, rfl⟩

end EngineConfig

end Logline
