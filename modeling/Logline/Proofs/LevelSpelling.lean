import Logline.Proofs.LetterCase
import Logline.Proofs.LevelHistory

/-! # Spellings of level titles

A text is read as a level if it is the level's title in lower case, once it is trimmed and in lower
case itself. So the title in lower case always leads to the level. The title in upper case does if
lower case takes it back, as it does for ASCII titles, and two levels may otherwise share it.
-/

namespace Logline.LevelRegistry

variable {r : LevelRegistry} {level other : Level}

theorem titleKey_blanks {before after : String} (hBefore : ∀ c ∈ before.toList, Text.isBlank c)
    (hAfter : ∀ c ∈ after.toList, Text.isBlank c) {s : String} (hs : Text.trim s = s) :
    titleKey (before ++ s ++ after) = Text.lower s := by
  rw [titleKey, Text.trim_blanks hBefore hAfter, hs]

theorem Consistent.trim_title (h : r.Consistent) (hLevel : (r.info? level).isSome) :
    Text.trim (r.title level) = r.title level := by
  obtain ⟨info, hInfo⟩ := Option.isSome_iff_exists.mp hLevel
  rw [title, hInfo]
  exact h.trimmed info (h.info?_eq_some_iff.mp hInfo).1

theorem Consistent.parse_registered_iff (h : r.Consistent) (hLevel : (r.info? level).isSome)
    (text : String) : r.parse text = .ok level ↔
      titleKey text = Text.lower (r.title level) ∨ (titleKey text, level) = inputAlias := by
  obtain ⟨info, hInfo⟩ := Option.isSome_iff_exists.mp hLevel
  obtain ⟨hMem, hOrdinal⟩ := h.info?_eq_some_iff.mp hInfo
  rw [LevelRegistry.parse_eq_ok_iff, h.parse?_eq_some_iff, title, hInfo, or_comm]
  refine or_congr_left ⟨?_, fun hKey => ⟨info, hMem, hKey.symm, hOrdinal⟩⟩
  rintro ⟨other, hOther, hKey, hSame⟩
  have hFound := h.info?_eq_some_iff.mpr ⟨hOther, hSame⟩
  obtain rfl := Option.some.inj (hFound.symm.trans hInfo)
  exact hKey.symm

theorem title_warn (calls : List Registration) : (ofCalls calls).title .warn = "warn" := by
  obtain ⟨info, hInfo, hTitle⟩ : ∃ info, new.info? .warn = some info ∧ info.title = "warn" :=
    ⟨_, rfl, rfl⟩
  have hKept := (consistent_new.extends_applyAll calls).info _ _ hInfo
  rw [title, ofCalls, hKept]
  exact hTitle

theorem parse_upper_iff (calls : List Registration) (hLevel : ((ofCalls calls).info? level).isSome)
    {before after : String} (hBefore : ∀ c ∈ before.toList, Text.isBlank c)
    (hAfter : ∀ c ∈ after.toList, Text.isBlank c) :
    (ofCalls calls).parse (before ++ Text.upper ((ofCalls calls).title level) ++ after) =
        .ok level ↔
      Text.ComesBack ((ofCalls calls).title level) := by
  have h := consistent_ofCalls calls
  rw [h.parse_registered_iff hLevel,
    titleKey_blanks hBefore hAfter (Text.trim_upper (h.trim_title hLevel))]
  refine ⟨fun hRead => hRead.resolve_right fun hAlias => ?_, .inl⟩
  -- The alias belongs to one level alone, and no case of that level's own title is the alias.
  obtain rfl : level = .warn := congrArg Prod.snd hAlias
  have hKey := congrArg Prod.fst hAlias
  rw [title_warn] at hKey
  exact absurd hKey (by decide +kernel)

/-- A level is found by every spelling of its title that has the title's lower case, and the level
of warnings by one text more. The title in lower case is such a spelling. The title in upper case
is one if and only if it comes back, and of the titles that come back no two have one upper case.
All titles in ASCII come back. -/
theorem ofCalls_parse_spelling (calls : List Registration) (level : Level)
    (hLevel : ((ofCalls calls).info? level).isSome) :
    (∀ text, (ofCalls calls).parse text = .ok level ↔
      Text.lower (Text.trim text) = Text.lower ((ofCalls calls).title level) ∨
        Text.lower (Text.trim text) = "warning" ∧ level = .warn) ∧
    (∀ before after : String, (∀ c ∈ before.toList, Text.isBlank c) →
      (∀ c ∈ after.toList, Text.isBlank c) →
      (ofCalls calls).parse (before ++ Text.lower ((ofCalls calls).title level) ++ after) =
          .ok level ∧
      ((ofCalls calls).parse (before ++ Text.upper ((ofCalls calls).title level) ++ after) =
          .ok level ↔
        Text.ComesBack ((ofCalls calls).title level))) ∧
    (∀ other, ((ofCalls calls).info? other).isSome →
      Text.upper ((ofCalls calls).title other) = Text.upper ((ofCalls calls).title level) →
      Text.ComesBack ((ofCalls calls).title level) →
      Text.ComesBack ((ofCalls calls).title other) → other = level) ∧
    ((∀ c ∈ ((ofCalls calls).title level).toList, c.toNat < 128) →
      Text.ComesBack ((ofCalls calls).title level)) := by
  have h := consistent_ofCalls calls
  have hUpper : ∀ {level : Level}, ((ofCalls calls).info? level).isSome →
      Text.ComesBack ((ofCalls calls).title level) →
      (ofCalls calls).parse ("" ++ Text.upper ((ofCalls calls).title level) ++ "") = .ok level :=
    fun hLevel hBack => (parse_upper_iff calls hLevel (by simp) (by simp)).mpr hBack
  refine ⟨fun text => ?_, fun before after hBefore hAfter => ⟨?_, ?_⟩, ?_, fun hAscii => ?_⟩
  · rw [h.parse_registered_iff hLevel, inputAlias, Prod.mk.injEq]
    rfl
  · rw [h.parse_registered_iff hLevel,
      titleKey_blanks hBefore hAfter (Text.trim_lower (h.trim_title hLevel))]
    exact .inl (Text.lower_lower _)
  · exact parse_upper_iff calls hLevel hBefore hAfter
  · intro other hOther hSame hBack hOtherBack
    have hRead := hUpper hOther hOtherBack
    rw [hSame, hUpper hLevel hBack] at hRead
    exact (Except.ok.inj hRead).symm
  · exact Text.comesBack_of_returns fun c hc => Text.returns_of_ascii (hAscii c hc)

/-- A title that is not in ASCII, with blanks around it, and comes back. -/
theorem ofCalls_parse_spelling_of_umlaut :
    ((ofCalls [⟨⟨40⟩, "\tÄrger ", {}⟩]).info? ⟨40⟩).isSome ∧
      (ofCalls [⟨⟨40⟩, "\tÄrger ", {}⟩]).parse " ärgeR" = .ok ⟨40⟩ ∧
      (ofCalls [⟨⟨40⟩, "\tÄrger ", {}⟩]).parse " ÄRGER\n" = .ok ⟨40⟩ := by
  have hLevel : ((ofCalls [⟨⟨40⟩, "\tÄrger ", {}⟩]).info? ⟨40⟩).isSome := by decide +kernel
  obtain ⟨hRead, hSpelled, -⟩ := ofCalls_parse_spelling [⟨⟨40⟩, "\tÄrger ", {}⟩] ⟨40⟩ hLevel
  have hTitle : (ofCalls [⟨⟨40⟩, "\tÄrger ", {}⟩]).title ⟨40⟩ = "Ärger" := by decide +kernel
  rw [hTitle] at hRead hSpelled
  refine ⟨hLevel, (hRead _).mpr (.inl (by decide +kernel)), ?_⟩
  have hBlanks : (∀ c ∈ " ".toList, Text.isBlank c) ∧ ∀ c ∈ "\n".toList, Text.isBlank c :=
    ⟨List.forall_mem_singleton.mpr rfl, List.forall_mem_singleton.mpr rfl⟩
  exact (hSpelled " " "\n" hBlanks.1 hBlanks.2).2.mpr (by unfold Text.ComesBack; decide +kernel)

/-- Two titles with one upper case, both registered: the spelling in upper case is that of the
second level alone. -/
theorem ofCalls_parse_sharp_s :
    ((ofCalls [⟨⟨40⟩, "ß", {}⟩, ⟨⟨41⟩, "ss", {}⟩]).info? ⟨40⟩).isSome ∧
      ((ofCalls [⟨⟨40⟩, "ß", {}⟩, ⟨⟨41⟩, "ss", {}⟩]).info? ⟨41⟩).isSome ∧
      Text.upper ((ofCalls [⟨⟨40⟩, "ß", {}⟩, ⟨⟨41⟩, "ss", {}⟩]).title ⟨40⟩) = "SS" ∧
      Text.upper ((ofCalls [⟨⟨40⟩, "ß", {}⟩, ⟨⟨41⟩, "ss", {}⟩]).title ⟨41⟩) = "SS" ∧
      (ofCalls [⟨⟨40⟩, "ß", {}⟩, ⟨⟨41⟩, "ss", {}⟩]).parse "SS" = .ok ⟨41⟩ := by
  decide +kernel

end Logline.LevelRegistry
