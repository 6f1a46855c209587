import Logline.Level.Registry
import Logline.Proofs.TrimmedText
import Mathlib.Data.List.Nodup

/-! # Histories of level registries

A registry has two tables, by ordinal and by title. Registrations keep them in step: both list the
same levels, each once, and the title that a level shows leads back to it. Nothing that a registry
once answered about a level is taken back.
-/

namespace Logline

/-- One call for a new level. -/
structure Registration where
  level : Level
  title : String
  options : LevelOptions
  deriving Inhabited

namespace Registration

/-- What a registry knows about the level from then on. -/
def info (c : Registration) : LevelInfo where
  level := c.level
  title := Text.trim c.title
  tags := LevelRegistry.fillTags (Text.trim c.title) c.options.tags
  foreground := c.options.foreground
  background := c.options.background
  treatAs := c.options.treatAs
  errorStream := c.options.errorStream

/-- Why a call is turned down: no title, a tag that no line could show, or an ordinal or a title
that is taken. -/
def Refused (c : Registration) (r : LevelRegistry) : Prop :=
  Text.trim c.title = "" ∨
  (∃ tag, some tag ∈ c.options.tags ∧ (tag.length = 0 ∨ maxTagWidth < tag.length)) ∨
  (r.info? c.level).isSome ∨
  (∃ info ∈ r.infos, Text.lower info.title = Text.lower (Text.trim c.title)) ∨
  Text.lower (Text.trim c.title) = LevelRegistry.inputAlias.1

end Registration

namespace LevelRegistry

/-- The registry after a call, which changes nothing if it is refused. -/
def apply (r : LevelRegistry) (c : Registration) : LevelRegistry :=
  match r.register c.level c.title c.options with
  | .ok r => r
  | .error _ => r

/-- A new registry after a row of calls. -/
def ofCalls (calls : List Registration) : LevelRegistry := calls.foldl apply new

/-- Under which title a level is found. -/
def keyed (info : LevelInfo) : String × Level := (Text.lower info.title, info.level)

/-- Both tables list the same levels, each once; the alias is the one title more. -/
structure Consistent (r : LevelRegistry) : Prop where
  ordinals : (r.infos.map (·.level)).Nodup
  keys : (inputAlias.1 :: r.infos.map fun info => Text.lower info.title).Nodup
  trimmed : ∀ info ∈ r.infos, Text.trim info.title = info.title
  tables : r.titles.Perm (inputAlias :: r.infos.map keyed)

/-! ## Look-up -/

theorem find?_of_nodup {α κ : Type} [DecidableEq κ] {f : α → κ} {xs : List α}
    (h : (xs.map f).Nodup) {k : κ} {a : α} :
    xs.find? (f · == k) = some a ↔ a ∈ xs ∧ f a = k := by
  constructor
  · intro hFind
    exact ⟨List.mem_of_find?_eq_some hFind, by simpa using List.find?_some hFind⟩
  · rintro ⟨hMem, rfl⟩
    cases hFind : xs.find? (f · == f a) with
    | none => exact absurd (beq_self_eq_true (f a)) (List.find?_eq_none.mp hFind a hMem)
    | some b =>
      have hKey : f b = f a := by simpa using List.find?_some hFind
      exact congrArg some
        (List.inj_on_of_nodup_map h (List.mem_of_find?_eq_some hFind) hMem hKey)

theorem lookup_of_nodup {α κ : Type} [DecidableEq κ] {xs : List (κ × α)}
    (h : (xs.map (·.1)).Nodup) {k : κ} {a : α} : xs.lookup k = some a ↔ (k, a) ∈ xs := by
  constructor
  · intro hLookup
    obtain ⟨ys, zs, rfl, -⟩ := List.lookup_eq_some_iff.mp hLookup
    simp
  · intro hMem
    obtain ⟨ys, zs, rfl⟩ := List.append_of_mem hMem
    rw [List.map_append, List.map_cons] at h
    refine List.lookup_eq_some_iff.mpr ⟨ys, zs, rfl, fun b hb => ?_⟩
    have hNe := (List.nodup_append.mp h).2.2 _ (List.mem_map_of_mem hb) k List.mem_cons_self
    exact bne_iff_ne.mpr hNe.symm

variable {r s : LevelRegistry}

theorem Consistent.nodup_titles (h : r.Consistent) : (r.titles.map (·.1)).Nodup := by
  rw [(h.tables.map (·.1)).nodup_iff, List.map_cons, List.map_map]
  exact h.keys

theorem Consistent.info?_eq_some_iff (h : r.Consistent) {level : Level} {info : LevelInfo} :
    r.info? level = some info ↔ info ∈ r.infos ∧ info.level = level :=
  find?_of_nodup h.ordinals

theorem Consistent.parse?_eq_some_iff (h : r.Consistent) {text : String} {level : Level} :
    r.parse? text = some level ↔ (titleKey text, level) = inputAlias ∨
      ∃ info ∈ r.infos, Text.lower info.title = titleKey text ∧ info.level = level := by
  rw [parse?, lookup_of_nodup h.nodup_titles, h.tables.mem_iff, List.mem_cons, List.mem_map]
  simp only [keyed, Prod.mk.injEq]

theorem parse_eq_ok_iff {text : String} {level : Level} :
    r.parse text = .ok level ↔ r.parse? text = some level := by
  rw [parse]
  cases r.parse? text <;> simp

/-- A title leads back to its level, also when blanks stand around it. -/
theorem Consistent.parse_title (h : r.Consistent) {level : Level}
    (hLevel : (r.info? level).isSome) {before after : String}
    (hBefore : ∀ c ∈ before.toList, Text.isBlank c) (hAfter : ∀ c ∈ after.toList, Text.isBlank c) :
    r.parse (before ++ r.title level ++ after) = .ok level := by
  obtain ⟨info, hInfo⟩ := Option.isSome_iff_exists.mp hLevel
  obtain ⟨hMem, hOrdinal⟩ := h.info?_eq_some_iff.mp hInfo
  have hKey : titleKey (before ++ r.title level ++ after) = Text.lower info.title := by
    rw [titleKey, Text.trim_blanks hBefore hAfter, title, hInfo, h.trimmed info hMem]
  rw [parse_eq_ok_iff, h.parse?_eq_some_iff, hKey]
  exact .inr ⟨info, hMem, rfl, hOrdinal⟩

/-! ## One call -/

theorem badTag?_isSome_iff (tags : List (Option String)) : (badTag? tags).isSome ↔
    ∃ tag, some tag ∈ tags ∧ (tag.length = 0 ∨ maxTagWidth < tag.length) := by
  rw [badTag?, List.findSome?_isSome_iff]
  constructor
  · rintro ⟨_ | tag, hTag, hBad⟩
    · cases hBad
    · refine ⟨tag, hTag, by_contra fun hGood => ?_⟩
      simp only [if_neg hGood] at hBad
      cases hBad
  · rintro ⟨tag, hTag, hBad⟩
    exact ⟨some tag, hTag, by simp only [if_pos hBad, Option.isSome_some]⟩

theorem Consistent.lookup_isSome_iff (h : r.Consistent) (key : String) :
    (r.titles.lookup key).isSome ↔
      (∃ info ∈ r.infos, Text.lower info.title = key) ∨ key = inputAlias.1 := by
  simp only [Option.isSome_iff_exists, lookup_of_nodup h.nodup_titles, h.tables.mem_iff,
    List.mem_cons, List.mem_map, keyed, Prod.ext_iff]
  constructor
  · rintro ⟨level, ⟨hKey, -⟩ | ⟨info, hMem, hKey, -⟩⟩
    · exact .inr hKey
    · exact .inl ⟨info, hMem, hKey⟩
  · rintro (⟨info, hMem, hKey⟩ | hKey)
    · exact ⟨info.level, .inr ⟨info, hMem, hKey, rfl⟩⟩
    · exact ⟨inputAlias.2, .inl ⟨hKey, rfl⟩⟩

/-- A registry with one level more. -/
def extend (r : LevelRegistry) (c : Registration) : LevelRegistry :=
  { r with
    infos := r.infos ++ [c.info]
    titles := r.titles ++ [(Text.lower (Text.trim c.title), c.level)] }

theorem Consistent.register_cases (h : r.Consistent) (c : Registration) :
    (c.Refused r ∧ ∃ error, r.register c.level c.title c.options = .error error) ∨
      (¬ c.Refused r ∧ r.register c.level c.title c.options = .ok (r.extend c)) := by
  have hTags := badTag?_isSome_iff c.options.tags
  have hKeys := h.lookup_isSome_iff (Text.lower (Text.trim c.title))
  rw [Registration.Refused, ← hTags, ← hKeys, register]
  by_cases hTitle : Text.trim c.title = ""
  · exact .inl ⟨.inl hTitle, _, if_pos hTitle⟩
  rw [if_neg hTitle]
  cases hTag : badTag? c.options.tags with
  | some tag => exact .inl ⟨.inr (.inl rfl), _, rfl⟩
  | none =>
    cases hInfo : r.info? c.level with
    | some info => exact .inl ⟨.inr (.inr (.inl rfl)), _, rfl⟩
    | none =>
      cases hKey : r.titles.lookup (Text.lower (Text.trim c.title)) with
      | some level => exact .inl ⟨.inr (.inr (.inr rfl)), _, by simp only [hKey]; rfl⟩
      | none => exact .inr ⟨by simp [hTitle], by simp only [hKey]; rfl⟩

theorem nodup_concat {κ : Type} {xs : List κ} (h : xs.Nodup) {k : κ} (hk : k ∉ xs) :
    (xs ++ [k]).Nodup := by
  rw [← List.concat_eq_append]
  exact h.concat hk

theorem Consistent.extend (h : r.Consistent) {c : Registration} (hc : ¬ c.Refused r) :
    (r.extend c).Consistent := by
  obtain ⟨-, -, hLevel, hTitle, hAlias⟩ := by simpa only [Registration.Refused, not_or] using hc
  constructor
  case ordinals =>
    rw [LevelRegistry.extend, List.map_append]
    refine nodup_concat h.ordinals fun hMem => hLevel ?_
    obtain ⟨info, hInfo, hSame⟩ := List.mem_map.mp hMem
    exact Option.isSome_iff_exists.mpr ⟨info, h.info?_eq_some_iff.mpr ⟨hInfo, hSame⟩⟩
  case keys =>
    rw [LevelRegistry.extend, List.map_append, ← List.cons_append]
    refine nodup_concat h.keys fun hMem => ?_
    rcases List.mem_cons.mp hMem with hSame | hMem
    · exact hAlias hSame
    · exact hTitle (List.mem_map.mp hMem)
  case trimmed =>
    intro info hInfo
    rcases List.mem_append.mp hInfo with hInfo | hInfo
    · exact h.trimmed info hInfo
    · obtain rfl := List.mem_singleton.mp hInfo
      exact Text.trim_trim c.title
  case tables =>
    rw [LevelRegistry.extend, List.map_append, ← List.cons_append]
    exact h.tables.append_right _

theorem lower_builtin : ∀ info ∈ builtinLevels, Text.lower info.title = info.title := by
  decide +kernel

theorem consistent_new : new.Consistent where
  ordinals := by decide
  keys := by
    have hTitles : new.infos.map (fun info => Text.lower info.title) =
        builtinLevels.map (·.title) := List.map_congr_left lower_builtin
    rw [hTitles]
    decide
  trimmed := by decide +kernel
  tables := by
    have hKeyed : new.infos.map keyed = builtinLevels.map fun info => (info.title, info.level) :=
      List.map_congr_left fun info hInfo => congrArg (·, info.level) (lower_builtin info hInfo)
    rw [hKeyed]
    exact List.perm_append_singleton inputAlias _

theorem Consistent.apply (h : r.Consistent) (c : Registration) : (r.apply c).Consistent := by
  rw [LevelRegistry.apply]
  rcases h.register_cases c with ⟨-, error, hError⟩ | ⟨hc, hOk⟩
  · rw [hError]
    exact h
  · rw [hOk]
    exact h.extend hc

theorem Consistent.applyAll (h : r.Consistent) (calls : List Registration) :
    (calls.foldl LevelRegistry.apply r).Consistent := by
  induction calls generalizing r with
  | nil => exact h
  | cons c calls ih => exact ih (h.apply c)

/-! ## Later calls -/

/-- What a registry shows of one level. -/
structure View where
  info? : Option LevelInfo
  title : String
  shortTag : Nat → String
  resolved : Level
  errorStream : Bool

def view (r : LevelRegistry) (level : Level) : View where
  info? := r.info? level
  title := r.title level
  shortTag := r.shortTag level
  resolved := r.resolve level
  errorStream := r.isErrorStream level

theorem view_congr {level : Level} (h : s.info? level = r.info? level) :
    s.view level = r.view level := by
  have hTag : s.shortTag level = r.shortTag level := by
    funext width
    rw [shortTag, shortTag, h]
  simp only [view, title, resolve, isErrorStream, hTag, h]

/-- Whatever one registry knows, the other one knows as well. -/
structure Extends (s r : LevelRegistry) : Prop where
  info : ∀ level info, r.info? level = some info → s.info? level = some info
  parse : ∀ text level, r.parse? text = some level → s.parse? text = some level

theorem Extends.refl (r : LevelRegistry) : r.Extends r := ⟨fun _ _ h => h, fun _ _ h => h⟩

theorem Extends.trans {r s t : LevelRegistry} (h : t.Extends s) (h' : s.Extends r) : t.Extends r :=
  ⟨fun level info hInfo => h.info level info (h'.info level info hInfo),
    fun text level hParse => h.parse text level (h'.parse text level hParse)⟩

theorem extends_extend (r : LevelRegistry) (c : Registration) : (r.extend c).Extends r where
  info level info hInfo := by
    rw [info?, extend, List.find?_append]
    exact Option.or_eq_some_iff.mpr (.inl hInfo)
  parse text level hParse := by
    rw [parse?, extend, List.lookup_append]
    exact Option.or_eq_some_iff.mpr (.inl hParse)

theorem Consistent.extends_apply (h : r.Consistent) (c : Registration) :
    (r.apply c).Extends r := by
  rw [LevelRegistry.apply]
  rcases h.register_cases c with ⟨-, error, hError⟩ | ⟨-, hOk⟩
  · rw [hError]
    exact .refl r
  · rw [hOk]
    exact extends_extend r c

theorem Consistent.extends_applyAll (h : r.Consistent) (calls : List Registration) :
    (calls.foldl LevelRegistry.apply r).Extends r := by
  induction calls generalizing r with
  | nil => exact .refl r
  | cons c calls ih => exact (ih (h.apply c)).trans (h.extends_apply c)

theorem consistent_ofCalls (calls : List Registration) : (ofCalls calls).Consistent :=
  consistent_new.applyAll calls

/-! ## The whole history -/

theorem levels_extend (r : LevelRegistry) (c : Registration) :
    (r.extend c).levels.Perm (c.level :: r.levels) := by
  refine (List.mergeSort_perm _ _).trans ?_
  rw [extend, List.map_append]
  refine (List.perm_append_singleton c.level _).trans ?_
  exact (List.mergeSort_perm _ _).symm.cons _

/-- What a call on a registry leads to: either nothing, or one level that was not there before. -/
structure Answers (r s : LevelRegistry) (c : Registration) : Prop where
  error_iff : (∃ error, r.register c.level c.title c.options = .error error) ↔ c.Refused r
  unchanged : ∀ error, r.register c.level c.title c.options = .error error → s = r
  added : ∀ t, r.register c.level c.title c.options = .ok t → s = t ∧
    s.levels.Perm (c.level :: r.levels) ∧ r.info? c.level = none ∧ s.info? c.level = some c.info

theorem Consistent.answers_apply (h : r.Consistent) (c : Registration) :
    r.Answers (r.apply c) c := by
  rcases h.register_cases c with ⟨hc, error, hError⟩ | ⟨hc, hOk⟩
  · have hApply : r.apply c = r := by rw [LevelRegistry.apply, hError]
    refine ⟨⟨fun _ => hc, fun _ => ⟨error, hError⟩⟩, fun _ _ => hApply, fun t hOk => ?_⟩
    rw [hError] at hOk
    cases hOk
  · have hApply : r.apply c = r.extend c := by rw [LevelRegistry.apply, hOk]
    refine ⟨⟨fun ⟨error, hError⟩ => ?_, fun hRefused => absurd hRefused hc⟩, fun error hError => ?_,
      fun t hOk' => ?_⟩
    · rw [hOk] at hError
      cases hError
    · rw [hOk] at hError
      cases hError
    · obtain rfl : r.extend c = t := Except.ok.inj (hOk.symm.trans hOk')
      have hNone : r.info? c.level = none :=
        Option.not_isSome_iff_eq_none.mp fun hSome => hc (.inr (.inr (.inl hSome)))
      have hSome : (r.extend c).info? c.level = some c.info :=
        (h.extend hc).info?_eq_some_iff.mpr ⟨by simp [LevelRegistry.extend], rfl⟩
      rw [hApply]
      exact ⟨rfl, levels_extend r c, hNone, hSome⟩

/-- After any row of calls both tables list the same levels, each once, and titles lead back to
their levels. The next call is refused, and changes nothing, or adds one level, and no call changes
what was known before it. -/
theorem ofCalls_history (calls : List Registration) :
    (ofCalls calls).Consistent ∧
    (∀ level, ((ofCalls calls).info? level).isSome → ∀ before after : String,
      (∀ c ∈ before.toList, Text.isBlank c) → (∀ c ∈ after.toList, Text.isBlank c) →
      (ofCalls calls).parse (before ++ (ofCalls calls).title level ++ after) = .ok level) ∧
    (∀ c : Registration, (ofCalls calls).Answers (ofCalls (calls ++ [c])) c) ∧
    ∀ more : List Registration,
      (∀ level, ((ofCalls calls).info? level).isSome →
        (ofCalls (calls ++ more)).view level = (ofCalls calls).view level) ∧
      ∀ text level, (ofCalls calls).parse text = .ok level →
        (ofCalls (calls ++ more)).parse text = .ok level := by
  have h := consistent_ofCalls calls
  refine ⟨h, fun level hLevel before after => h.parse_title hLevel, fun c => ?_, fun more => ?_⟩
  · have hNext : ofCalls (calls ++ [c]) = (ofCalls calls).apply c := List.foldl_concat ..
    rw [hNext]
    exact h.answers_apply c
  · have hMore : (ofCalls (calls ++ more)).Extends (ofCalls calls) := by
      rw [ofCalls, List.foldl_append]
      exact h.extends_applyAll more
    constructor
    · intro level hLevel
      obtain ⟨info, hInfo⟩ := Option.isSome_iff_exists.mp hLevel
      exact view_congr ((hMore.info level info hInfo).trans hInfo.symm)
    · intro text level hParse
      exact parse_eq_ok_iff.mpr (hMore.parse text level (parse_eq_ok_iff.mp hParse))

end LevelRegistry

end Logline
