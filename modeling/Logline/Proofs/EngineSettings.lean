import Logline.Proofs.LevelText
import Logline.Proofs.RecordReading

/-! # Settings of an engine in documents

A configuration is its settings. An object that gives some of them, with anything else between
them, reads as the configuration with these settings and the default ones for the rest, and the
text of a configuration gives all of them.
-/

namespace Logline

open Json (Raw CodeUnit Assigns Realizes Reads SpellsSetting unitString? stringText)
open Text (utf8)

def Level.Given (registry : LevelRegistry) (level : Level) (raw : Raw) : Prop :=
  ∃ s, raw.IsText s ∧ registry.parse s = .ok level

/-- A pattern stands in an object of its own; every other layout goes by its name. -/
def TimeLayout.Given (layout : TimeLayout) (raw : Raw) : Prop :=
  match layout with
  | .custom pattern =>
    ∃ key value, raw = .object [(key, value)] ∧ unitString? key = some "Custom" ∧
      value.IsText pattern
  | _ => raw.IsName layout.name

theorem Level.ofRaw?_of_given {registry : LevelRegistry} {level : Level} {raw : Raw}
    (h : level.Given registry raw) : Level.ofRaw? registry raw = some level := by
  obtain ⟨s, hText, hLevel⟩ := h
  rw [Level.ofRaw?, hText.text?, Option.bind_some]
  exact LevelRegistry.parse_eq_ok_iff.mp hLevel

theorem FormatMode.ofRaw?_of_isName {format : FormatMode} {raw : Raw}
    (h : raw.IsName format.name) : FormatMode.ofRaw? raw = some format := by
  rw [FormatMode.ofRaw?, h.name?, Option.bind_some]
  cases format <;> decide

theorem ColorMode.ofRaw?_of_isName {color : ColorMode} {raw : Raw}
    (h : raw.IsName color.name) : ColorMode.ofRaw? raw = some color := by
  rw [ColorMode.ofRaw?, h.name?, Option.bind_some]
  cases color <;> decide

theorem TimeLayout.ofRaw?_of_isName {layout : TimeLayout} {raw : Raw}
    (h : raw.IsName layout.name) (hPlain : ofName? layout.name = some layout) :
    TimeLayout.ofRaw? raw = some layout := by
  have hName : raw.name?.bind ofName? = some layout := by rw [h.name?, Option.bind_some, hPlain]
  rw [TimeLayout.ofRaw?]
  split
  · next pattern hChoice =>
    -- The alternative with a value is no layout by name, unless the value is null.
    obtain hNone | hNull := h.choice?
    · exact nomatch (Prod.mk.inj (Option.some.inj (hNone.symm.trans hChoice))).2
    · obtain ⟨hCustom, -⟩ := Prod.mk.inj (Option.some.inj (hNull.symm.trans hChoice))
      have hUnknown : ofName? "Custom" = none := by decide
      rw [hCustom, hUnknown] at hPlain
      cases hPlain
  · exact hName

theorem TimeLayout.ofRaw?_of_given {layout : TimeLayout} {raw : Raw} (h : layout.Given raw) :
    TimeLayout.ofRaw? raw = some layout := by
  cases layout with
  | custom pattern =>
    obtain ⟨key, value, rfl, hKey, hPattern⟩ := h
    have hChoice : Raw.choice? (.object [(key, value)]) = some ("Custom", some value) := by
      rw [Raw.choice?, Json.unitText_eq hKey, Option.map_some]
    simp only [TimeLayout.ofRaw?, hChoice, hPattern.text?, Option.map_some]
  | _ => exact TimeLayout.ofRaw?_of_isName h (by decide)

/-! ## Rules -/

namespace RedactRule

inductive Setting where
  | pattern (pattern : String)
  | replacement (replacement : String)

namespace Setting

def field : Setting → String
  | .pattern _ => "pattern"
  | .replacement _ => "alias"

def Given : Setting → Raw → Prop
  | .pattern s, raw | .replacement s, raw => raw.IsText s

def apply : Setting → RedactRule → RedactRule
  | .pattern s, rule => { rule with pattern := s }
  | .replacement s, rule => { rule with replacement := s }

end Setting

/-- Both settings of the rule, in an object in any order or in an array. -/
def Given (rule : RedactRule) (raw : Raw) : Prop :=
  (∃ members settings, raw = .object members ∧
    Assigns Setting.field Setting.Given members settings ∧
    (settings = [.pattern rule.pattern, .replacement rule.replacement] ∨
      settings = [.replacement rule.replacement, .pattern rule.pattern])) ∨
  ∃ pattern replacement, raw = .array [pattern, replacement] ∧ pattern.IsText rule.pattern ∧
    replacement.IsText rule.replacement

theorem realizes_fields : Realizes ruleFields Setting.field Setting.Given Setting.apply where
  known field hField := by
    rw [ruleFields, List.mem_cons, List.mem_singleton] at hField
    obtain rfl | rfl := hField
    · exact ⟨.pattern "", rfl⟩
    · exact ⟨.replacement "", rfl⟩
  stores {x raw} rule h := by
    cases x with
    | pattern s => exact ⟨_, rfl, congrArg (Option.map _) (Raw.IsText.text? h)⟩
    | replacement s => exact ⟨_, rfl, congrArg (Option.map _) (Raw.IsText.text? h)⟩

theorem ofRaw?_of_given {rule : RedactRule} {raw : Raw} (h : rule.Given raw) :
    ofRaw? raw = some rule := by
  obtain ⟨members, settings, rfl, hAssigns, rfl | rfl⟩ | ⟨pattern, replacement, rfl, hPattern,
    hReplacement⟩ := h
  · exact realizes_fields.wholeRecord hAssigns rfl ⟨"", ""⟩
  · exact realizes_fields.wholeRecord hAssigns rfl ⟨"", ""⟩
  · simp [ofRaw?, Json.wholeRecord, Json.storeRecord, Json.storeItems, ruleFields, hPattern.text?,
      hReplacement.text?]

end RedactRule

namespace EngineConfig

/-! ## Settings -/

inductive Setting where
  | name (name : String)
  | level (level : Level)
  | format (format : FormatMode)
  | color (color : ColorMode)
  | utc (on : Bool)
  | timeLayout (layout : TimeLayout)
  | caller (on : Bool)
  | collectRecursive (on : Bool)
  | noInterrupt (on : Bool)
  | testing (on : Bool)
  | strictLock (on : Bool)
  | poolSize (size : Nat)
  | redactEnvironment (on : Bool)
  | redactRules (rules : List RedactRule)

namespace Setting

def field : Setting → String
  | .name _ => "name"
  | .level _ => "level"
  | .format _ => "format"
  | .color _ => "color"
  | .utc _ => "utc"
  | .timeLayout _ => "time_layout"
  | .caller _ => "caller"
  | .collectRecursive _ => "collect_recursive"
  | .noInterrupt _ => "no_interrupt"
  | .testing _ => "testing"
  | .strictLock _ => "strict_lock"
  | .poolSize _ => "pool_size"
  | .redactEnvironment _ => "redact_env_paths"
  | .redactRules _ => "redact_rules"

def apply : Setting → EngineConfig → EngineConfig
  | .name s, config => { config with name := s }
  | .level l, config => { config with level := l }
  | .format f, config => { config with format := f }
  | .color c, config => { config with color := c }
  | .utc on, config => { config with utc := on }
  | .timeLayout l, config => { config with timeLayout := l }
  | .caller on, config => { config with caller := on }
  | .collectRecursive on, config => { config with collectRecursive := on }
  | .noInterrupt on, config => { config with noInterrupt := on }
  | .testing on, config => { config with testing := on }
  | .strictLock on, config => { config with strictLock := on }
  | .poolSize n, config => { config with poolSize := n }
  | .redactEnvironment on, config => { config with redactEnvironment := on }
  | .redactRules rules, config => { config with redactRules := rules }

/-- The values that give a setting. -/
def Given (registry : LevelRegistry) : Setting → Raw → Prop
  | .name s, raw => raw.IsText s
  | .level l, raw => l.Given registry raw
  | .format f, raw => raw.IsName f.name
  | .color c, raw => raw.IsName c.name
  | .utc on, raw | .caller on, raw | .collectRecursive on, raw | .noInterrupt on, raw
  | .testing on, raw | .strictLock on, raw | .redactEnvironment on, raw => raw = .bool on
  | .timeLayout l, raw => l.Given raw
  | .poolSize n, raw => raw.IsWord n
  | .redactRules rules, raw => ∃ items, raw = .array items ∧
    List.Forall₂ RedactRule.Given rules items

end Setting

def Has (config : EngineConfig) : Setting → Prop
  | .name s => config.name = s
  | .level l => config.level = l
  | .format f => config.format = f
  | .color c => config.color = c
  | .utc on => config.utc = on
  | .timeLayout l => config.timeLayout = l
  | .caller on => config.caller = on
  | .collectRecursive on => config.collectRecursive = on
  | .noInterrupt on => config.noInterrupt = on
  | .testing on => config.testing = on
  | .strictLock on => config.strictLock = on
  | .poolSize n => config.poolSize = n
  | .redactEnvironment on => config.redactEnvironment = on
  | .redactRules rules => config.redactRules = rules

def settings (config : EngineConfig) : List Setting := [
  .name config.name, .level config.level, .format config.format, .color config.color,
  .utc config.utc, .timeLayout config.timeLayout, .caller config.caller,
  .collectRecursive config.collectRecursive, .noInterrupt config.noInterrupt,
  .testing config.testing, .strictLock config.strictLock, .poolSize config.poolSize,
  .redactEnvironment config.redactEnvironment, .redactRules config.redactRules]

theorem has_iff_mem_settings {config : EngineConfig} {x : Setting} :
    config.Has x ↔ x ∈ config.settings := by
  cases x <;> simp [Has, settings, eq_comm]

/-- A configuration is nothing but its settings. -/
theorem ext_has {config other : EngineConfig} (h : ∀ x, config.Has x → other.Has x) :
    other = config := by
  obtain ⟨⟩ := config
  obtain ⟨⟩ := other
  congr
  · exact h (.name _) rfl
  · exact h (.level _) rfl
  · exact h (.format _) rfl
  · exact h (.color _) rfl
  · exact h (.utc _) rfl
  · exact h (.timeLayout _) rfl
  · exact h (.caller _) rfl
  · exact h (.collectRecursive _) rfl
  · exact h (.noInterrupt _) rfl
  · exact h (.testing _) rfl
  · exact h (.strictLock _) rfl
  · exact h (.poolSize _) rfl
  · exact h (.redactEnvironment _) rfl
  · exact h (.redactRules _) rfl

theorem has_apply (x y : Setting) (config : EngineConfig) :
    (y.apply config).Has x ↔ x = y ∨ x.field ≠ y.field ∧ config.Has x := by
  cases x <;> cases y <;> simp [Setting.apply, Has, Setting.field, eq_comm]

/-- Settings of distinct fields are all kept, and no other field is touched. -/
theorem has_foldl {xs : List Setting} (h : xs.Pairwise fun x y => y.field ≠ x.field)
    (config : EngineConfig) (x : Setting) :
    (xs.foldl (fun config y => y.apply config) config).Has x ↔
      x ∈ xs ∨ (∀ y ∈ xs, x.field ≠ y.field) ∧ config.Has x := by
  induction xs generalizing config with
  | nil => simp
  | cons y r ih =>
    obtain ⟨hFirst, hRest⟩ := List.pairwise_cons.mp h
    rw [List.foldl_cons, ih hRest, has_apply, List.mem_cons, List.forall_mem_cons]
    constructor
    · rintro (hMem | ⟨hFree, rfl | ⟨hOther, hHas⟩⟩)
      · exact .inl (.inr hMem)
      · exact .inl (.inl rfl)
      · exact .inr ⟨⟨hOther, hFree⟩, hHas⟩
    · rintro ((rfl | hMem) | ⟨⟨hOther, hFree⟩, hHas⟩)
      · exact .inr ⟨fun z hz hSame => hFirst z hz hSame.symm, .inl rfl⟩
      · exact .inl hMem
      · exact .inr ⟨hFree, .inr ⟨hOther, hHas⟩⟩

/-! ## Objects -/

theorem realizes_fields (registry : LevelRegistry) :
    Realizes (fields registry) Setting.field (Setting.Given registry) Setting.apply where
  known field hField := by
    have hNames : field.name ∈ (settings {}).map Setting.field := List.mem_map_of_mem hField
    obtain ⟨x, -, hx⟩ := List.mem_map.mp hNames
    exact ⟨x, hx⟩
  stores {x raw} config h := by
    cases x with
    | name s => exact ⟨_, rfl, congrArg (Option.map _) (Raw.IsText.text? h)⟩
    | level l => exact ⟨_, rfl, congrArg (Option.map _) (Level.ofRaw?_of_given h)⟩
    | format f => exact ⟨_, rfl, congrArg (Option.map _) (FormatMode.ofRaw?_of_isName h)⟩
    | color c => exact ⟨_, rfl, congrArg (Option.map _) (ColorMode.ofRaw?_of_isName h)⟩
    | timeLayout l => exact ⟨_, rfl, congrArg (Option.map _) (TimeLayout.ofRaw?_of_given h)⟩
    | poolSize n => exact ⟨_, rfl, congrArg (Option.map _) (Raw.IsWord.natural? h)⟩
    | redactRules rules =>
      obtain ⟨items, rfl, hItems⟩ := h
      have hRules := Json.list?_eq (fun _ _ hRule => RedactRule.ofRaw?_of_given hRule) hItems
      exact ⟨_, rfl, congrArg (Option.map _) hRules⟩
    | _ => cases h; exact ⟨_, rfl, rfl⟩

/-- An object with some settings, each once and in any order, reads as the default configuration
with these settings. -/
theorem parse_object {registry : LevelRegistry} {s : String}
    {members : List (List CodeUnit × Raw)} {xs : List Setting}
    (hRead : Json.readDocument (utf8 s) = some (.object members))
    (hAssigns : Assigns Setting.field (Setting.Given registry) members xs) :
    ∃ config, parse registry s = .ok config ∧ ∀ x, config.Has x ↔
      x ∈ xs ∨ (∀ y ∈ xs, x.field ≠ y.field) ∧ ({} : EngineConfig).Has x := by
  refine ⟨_, ?_, has_foldl hAssigns.pairwise {}⟩
  rw [parse, hRead, Option.bind_some, ofRaw?, (realizes_fields registry).partialRecord hAssigns]

/-! ## Texts -/

theorem utf8_quote (s : String) : utf8 (quote s) = stringText s := Json.utf8_string s

theorem reads_quote (s : String) : ∃ raw, Reads (utf8 (quote s)) raw ∧ raw.IsText s := by
  rw [utf8_quote]
  exact Json.reads_isText s

theorem reads_flag (b : Bool) : Reads (utf8 (flag b)) (.bool b) := Json.reads_bool b

theorem reads_layoutText (layout : TimeLayout) :
    ∃ raw, Reads (utf8 (layoutText layout)) raw ∧ layout.Given raw := by
  cases layout with
  | custom pattern =>
    obtain ⟨value, hValue, hPattern⟩ := reads_quote pattern
    obtain ⟨key, hKey, hReads⟩ := (Json.spellsString_stringText "Custom").reads
    have hText : utf8 (layoutText (.custom pattern)) =
        0x7b :: (joined 0x2c true [stringText "Custom" ++ 0x3a :: utf8 (quote pattern)] ++
          [0x7d]) := by
      have hOpen : utf8 "\x7b\"Custom\":" = 0x7b :: (stringText "Custom" ++ [0x3a]) := by
        decide +kernel
      simp [layoutText, Text.utf8_append, hOpen, joined, show utf8 "\x7d" = [0x7d] from rfl]
    rw [hText]
    exact ⟨_, Json.reads_object (.cons ⟨_, _, rfl, hReads, hValue⟩ .nil), key, value, rfl, hKey,
      hPattern⟩
  | _ =>
    obtain ⟨raw, hReads, hText⟩ := reads_quote (TimeLayout.name _)
    exact ⟨raw, hReads, .inl hText⟩

theorem reads_ruleText (rule : RedactRule) :
    ∃ raw, Reads (utf8 (ruleText rule)) raw ∧ rule.Given raw := by
  have hText : utf8 (ruleText rule) = 0x7b :: (joined 0x2c true
      [stringText "pattern" ++ 0x3a :: utf8 (quote rule.pattern),
        stringText "alias" ++ 0x3a :: utf8 (quote rule.replacement)] ++ [0x7d]) := by
    have hOpen : utf8 "\x7b\"pattern\":" = 0x7b :: (stringText "pattern" ++ [0x3a]) := by
      decide +kernel
    have hNext : utf8 ",\"alias\":" = 0x2c :: (stringText "alias" ++ [0x3a]) := by
      decide +kernel
    simp [ruleText, Text.utf8_append, hOpen, hNext, joined, show utf8 "\x7d" = [0x7d] from rfl]
  obtain ⟨pattern, hPattern, hPatternText⟩ := reads_quote rule.pattern
  obtain ⟨replacement, hReplacement, hReplacementText⟩ := reads_quote rule.replacement
  have hSettings : List.Forall₂ (SpellsSetting RedactRule.Setting.field RedactRule.Setting.Given)
      [stringText "pattern" ++ 0x3a :: utf8 (quote rule.pattern),
        stringText "alias" ++ 0x3a :: utf8 (quote rule.replacement)]
      [.pattern rule.pattern, .replacement rule.replacement] :=
    .cons ⟨_, pattern, rfl, hPattern, hPatternText⟩
      (.cons ⟨_, replacement, rfl, hReplacement, hReplacementText⟩ .nil)
  obtain ⟨members, hReads, hAssigns⟩ :=
    Json.reads_settings hSettings (by simp [RedactRule.Setting.field])
  rw [hText]
  exact ⟨_, hReads, .inl ⟨members, _, rfl, hAssigns, .inl rfl⟩⟩

theorem reads_rules (rules : List RedactRule) :
    ∃ items, Reads (utf8 ("[" ++ String.intercalate "," (rules.map ruleText) ++ "]"))
      (.array items) ∧ List.Forall₂ RedactRule.Given rules items := by
  have hRules : ∃ items, List.Forall₂ Reads ((rules.map ruleText).map utf8) items ∧
      List.Forall₂ RedactRule.Given rules items := by
    induction rules with
    | nil => exact ⟨[], .nil, .nil⟩
    | cons rule r ih =>
      obtain ⟨raw, hReads, hGiven⟩ := reads_ruleText rule
      obtain ⟨items, hItems, hRest⟩ := ih
      exact ⟨raw :: items, .cons hReads hItems, .cons hGiven hRest⟩
  obtain ⟨items, hItems, hGiven⟩ := hRules
  refine ⟨items, ?_, hGiven⟩
  rw [Text.utf8_append, Text.utf8_append, Json.utf8_intercalate]
  exact Json.reads_array hItems

/-- The text of the value of a setting. -/
def Setting.text (registry : LevelRegistry) : Setting → String
  | .name s => quote s
  | .level l => quote (registry.title l)
  | .format f => quote f.name
  | .color c => quote c.name
  | .utc on | .caller on | .collectRecursive on | .noInterrupt on | .testing on | .strictLock on
  | .redactEnvironment on => flag on
  | .timeLayout l => layoutText l
  | .poolSize n => toString n
  | .redactRules rules => "[" ++ String.intercalate "," (rules.map ruleText) ++ "]"

theorem members_eq (registry : LevelRegistry) (config : EngineConfig) :
    config.members registry = config.settings.map fun x => (x.field, x.text registry) := rfl

/-- A setting that is read from its own text: a level needs a title, a size is one word. -/
def Setting.Lasting (registry : LevelRegistry) : Setting → Prop
  | .level l => registry.parse (registry.title l) = .ok l
  | .poolSize n => n < 2 ^ 64
  | _ => True

theorem Setting.reads_text {registry : LevelRegistry} {x : Setting} (h : x.Lasting registry) :
    ∃ raw, Reads (utf8 (x.text registry)) raw ∧ x.Given registry raw := by
  have hName (s : String) : ∃ raw, Reads (utf8 (quote s)) raw ∧ raw.IsName s := by
    obtain ⟨raw, hReads, hText⟩ := reads_quote s
    exact ⟨raw, hReads, .inl hText⟩
  cases x with
  | name s => exact reads_quote s
  | level l =>
    obtain ⟨raw, hReads, hText⟩ := reads_quote (registry.title l)
    exact ⟨raw, hReads, _, hText, h⟩
  | format f => exact hName f.name
  | color c => exact hName c.name
  | timeLayout l => exact reads_layoutText l
  | poolSize n => exact Json.reads_isWord h
  | redactRules rules =>
    obtain ⟨items, hReads, hGiven⟩ := reads_rules rules
    exact ⟨_, hReads, items, rfl, hGiven⟩
  | _ => exact ⟨_, reads_flag _, rfl⟩

theorem pairwise_settings (config : EngineConfig) :
    config.settings.Pairwise fun x y => y.field ≠ x.field := by
  have hNames : (config.settings.map Setting.field).Pairwise fun a b => b ≠ a := by
    change (({} : EngineConfig).settings.map Setting.field).Pairwise fun a b => b ≠ a
    decide
  exact List.pairwise_map.mp hNames

theorem utf8_text (registry : LevelRegistry) (config : EngineConfig) :
    utf8 (config.text registry) = 0x7b :: (joined 0x2c true (config.settings.map fun x =>
      stringText x.field ++ 0x3a :: utf8 (x.text registry)) ++ [0x7d]) := by
  have hMember (x : Setting) : utf8 (quote x.field ++ ":" ++ x.text registry) =
      stringText x.field ++ 0x3a :: utf8 (x.text registry) := by
    rw [Text.utf8_append, Text.utf8_append, utf8_quote, List.append_assoc]
    rfl
  rw [text, members_eq, Text.utf8_append, Text.utf8_append, Json.utf8_intercalate, List.map_map,
    List.map_map]
  simp only [Function.comp_def, hMember]
  rfl

/-- A configuration is read from its text as it is. -/
theorem parse_text {registry : LevelRegistry} {config : EngineConfig}
    (hLevel : registry.parse (registry.title config.level) = .ok config.level)
    (hSize : config.poolSize < 2 ^ 64) : parse registry (config.text registry) = .ok config := by
  have hLasting : ∀ x ∈ config.settings, x.Lasting registry := by
    simpa [settings, Setting.Lasting, hLevel] using hSize
  have hSpelled : List.Forall₂ (SpellsSetting Setting.field (Setting.Given registry))
      (config.settings.map fun x => stringText x.field ++ 0x3a :: utf8 (x.text registry))
      config.settings := by
    rw [List.forall₂_map_left_iff, List.forall₂_same]
    intro x hx
    obtain ⟨raw, hReads, hGiven⟩ := Setting.reads_text (hLasting x hx)
    exact ⟨_, raw, rfl, hReads, hGiven⟩
  obtain ⟨members, hReads, hAssigns⟩ := Json.reads_settings hSpelled (pairwise_settings config)
  rw [← utf8_text] at hReads
  obtain ⟨other, hParse, hHas⟩ := parse_object hReads.readDocument hAssigns
  have hSame : other = config :=
    ext_has fun x hx => (hHas x).mpr (.inl (has_iff_mem_settings.mp hx))
  rw [hParse, hSame]

end EngineConfig

end Logline
