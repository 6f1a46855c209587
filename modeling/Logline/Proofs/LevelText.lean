import Logline.Engine.Config
import Logline.Proofs.LevelHistory
import Logline.Proofs.ValueText

/-! # Texts of levels

A registered level is read back from its title, as a text or as a JSON string. A level without a
registration is shown by a placeholder, which is no title unless a level was given it as one.
-/

namespace Logline

theorem Text.trimChars_of_ends {a b : Char} (ha : ¬ isBlank a) (hb : ¬ isBlank b)
    (cs : List Char) : trimChars (a :: (cs ++ [b])) = a :: (cs ++ [b]) := by
  have hLeft : trimLeftChars (a :: (cs ++ [b])) = a :: (cs ++ [b]) :=
    List.dropWhile_cons_of_neg ha
  have hReverse : (a :: (cs ++ [b])).reverse = b :: (a :: cs).reverse := by simp
  rw [trimChars, hLeft, trimRightChars, hReverse, List.dropWhile_cons_of_neg hb, ← hReverse,
    List.reverse_reverse]

/-- A string that is written and read again. -/
theorem Json.text?_of_spells {text : List UInt8} {s : String} (h : SpellsString text s) :
    (readDocument text).bind Raw.text? = some s := by
  obtain ⟨units, hUnits, hReads⟩ := h.reads
  rw [(reads_string hReads).readDocument, Option.bind_some]
  exact unitText_eq hUnits

theorem Json.utf8_string (s : String) : Text.utf8 (string s).text = stringText s := by
  rw [text, String.join, pieces, Text.utf8_foldl, utf8_stringPieces]
  rfl

namespace LevelRegistry

variable {r : LevelRegistry}

theorem toList_placeholder (level : Level) : (placeholder level).toList =
    'L' :: ("evel(".toList ++ (toString level.ordinal).toList ++ [')']) := by
  simp [placeholder, String.toList_append]

theorem titleKey_placeholder (level : Level) :
    titleKey (placeholder level) = Text.lower (placeholder level) := by
  rw [titleKey, Text.trim, toList_placeholder, Text.trimChars_of_ends (by decide) (by decide),
    ← toList_placeholder, String.ofList_toList]

/-- A lower case l is in front of one, and a w of the other. -/
theorem lower_placeholder_ne (level : Level) : Text.lower (placeholder level) ≠ inputAlias.1 := by
  intro hEq
  have hChars := congrArg String.toList hEq
  rw [Text.lower, String.toList_ofList, toList_placeholder, Text.lowerFrom, if_neg (by decide)]
    at hChars
  have hLetter : Text.mapCase Text.lowerRuns Text.lowerExpansions 'L' = ['l'] := by decide +kernel
  rw [hLetter] at hChars
  cases hChars

theorem Consistent.parse_placeholder (h : r.Consistent) {level other : Level} :
    r.parse (placeholder level) = .ok other ↔ ∃ info ∈ r.infos,
      Text.lower info.title = Text.lower (placeholder level) ∧ info.level = other := by
  rw [parse_eq_ok_iff, h.parse?_eq_some_iff, titleKey_placeholder]
  constructor
  · rintro (hAlias | hTaken)
    · exact absurd (congrArg Prod.fst hAlias) (lower_placeholder_ne level)
    · exact hTaken
  · exact .inr

theorem parse_eq_error_iff {text : String} :
    r.parse text = .error (.invalidLevel text) ↔ ∀ level, r.parse text ≠ .ok level := by
  rw [parse]
  cases r.parse? text <;> simp

theorem ofRaw?_title (r : LevelRegistry) (level : Level) :
    (Json.readDocument (Text.utf8 (Json.string (r.title level)).text)).bind (Level.ofRaw? r) =
      r.parse? (r.title level) := by
  have hText : (Json.readDocument (Text.utf8 (Json.string (r.title level)).text)).bind
      Json.Raw.text? = some (r.title level) := by
    rw [Json.utf8_string]
    exact Json.text?_of_spells (Json.spellsString_stringText _)
  have hBind : Level.ofRaw? r = fun raw => raw.text?.bind r.parse? := rfl
  rw [hBind, ← Option.bind_assoc, hText, Option.bind_some]

/-- The text of a registered level is read as this level. That of another one is refused, unless
some level was given the placeholder as its title, in whatever case, and then it is read as that
level. A JSON string is read as its text is. -/
theorem ofCalls_parse_title (calls : List Registration) (level : Level) :
    (((ofCalls calls).info? level).isSome →
      (ofCalls calls).parse ((ofCalls calls).title level) = .ok level) ∧
    ((ofCalls calls).info? level = none →
      ((ofCalls calls).parse ((ofCalls calls).title level) =
          .error (.invalidLevel (placeholder level)) ↔
        ∀ info ∈ (ofCalls calls).infos, Text.lower info.title ≠ Text.lower (placeholder level)) ∧
      ∀ other, (ofCalls calls).parse ((ofCalls calls).title level) = .ok other ↔
        ∃ info ∈ (ofCalls calls).infos,
          Text.lower info.title = Text.lower (placeholder level) ∧ info.level = other) ∧
    (Json.readDocument (Text.utf8 (Json.string ((ofCalls calls).title level)).text)).bind
        (Level.ofRaw? (ofCalls calls)) =
      (ofCalls calls).parse? ((ofCalls calls).title level) := by
  have h := consistent_ofCalls calls
  refine ⟨fun hLevel => ?_, fun hNone => ?_, ofRaw?_title _ level⟩
  · have hText : (ofCalls calls).parse ("" ++ (ofCalls calls).title level ++ "") = .ok level :=
      h.parse_title hLevel (by simp) (by simp)
    simpa using hText
  · have hTitle : (ofCalls calls).title level = placeholder level := by rw [title, hNone]
    rw [hTitle]
    refine ⟨?_, fun other => h.parse_placeholder⟩
    rw [parse_eq_error_iff]
    simp only [ne_eq, h.parse_placeholder, not_exists, not_and]
    exact ⟨fun hFree info hInfo hSame => hFree _ info hInfo hSame rfl,
      fun hFree other info hInfo hSame => absurd hSame (hFree info hInfo)⟩

/-- A level that took the placeholder of another one. -/
theorem ofCalls_parse_taken :
    (ofCalls [⟨⟨40⟩, "Level(50)", {}⟩]).info? ⟨50⟩ = none ∧
      (ofCalls [⟨⟨40⟩, "Level(50)", {}⟩]).title ⟨50⟩ = "Level(50)" ∧
      (ofCalls [⟨⟨40⟩, "Level(50)", {}⟩]).parse "Level(50)" = .ok ⟨40⟩ := by
  decide +kernel

end LevelRegistry

end Logline
