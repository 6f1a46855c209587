import Logline.Text.Blank
import Mathlib.Data.List.DropRight

/-! # Trimmed texts

Trimming takes the blanks at both ends of a text and nothing else, so it does not see blanks that
are put around a text, and a trimmed text stays as it is. The readers that take a run of characters
off the front of a text stop where the run does.
-/

namespace Logline.Text

/-! ## Runs at the start of a text -/

section Stops

variable {p : Char → Bool} {run rest : List Char}

theorem takeWhile_stop (h : ∀ c ∈ run, p c) (hRest : ∀ c ∈ rest.head?, ¬ p c) :
    (run ++ rest).takeWhile p = run := by
  rw [List.takeWhile_append_of_pos h]
  cases rest with
  | nil => simp
  | cons c r => simpa using hRest

theorem dropWhile_stop (h : ∀ c ∈ run, p c) (hRest : ∀ c ∈ rest.head?, ¬ p c) :
    (run ++ rest).dropWhile p = rest := by
  rw [List.dropWhile_append_of_pos h]
  cases rest with
  | nil => rfl
  | cons c r => simpa using hRest

end Stops

/-! ## Blanks around a text -/

/-- The first and the last code point of each range of blanks. -/
def blankRanges : List (Nat × Nat) :=
  [(9, 13), (0x20, 0x20), (0x85, 0x85), (0xa0, 0xa0), (0x1680, 0x1680), (0x2000, 0x200a),
    (0x2028, 0x2029), (0x202f, 0x202f), (0x205f, 0x205f), (0x3000, 0x3000)]

theorem exists_blankRange {c : Char} (h : isBlank c) :
    ∃ b ∈ blankRanges, b.1 ≤ c.toNat ∧ c.toNat ≤ b.2 := by
  simp only [isBlank, Bool.or_eq_true, Bool.and_eq_true, decide_eq_true_eq, beq_iff_eq] at h
  simp only [blankRanges, List.mem_cons, List.not_mem_nil, or_false, exists_eq_or_imp,
    exists_eq_left]
  omega

variable {before after : List Char}

theorem trimLeftChars_blanks (hBefore : ∀ c ∈ before, isBlank c) (cs : List Char) :
    trimLeftChars (before ++ cs) = trimLeftChars cs := by
  have hNone : before.dropWhile isBlank = [] := List.dropWhile_eq_nil_iff.mpr hBefore
  simp [trimLeftChars, List.dropWhile_append, hNone]

theorem trimRightChars_blanks (hAfter : ∀ c ∈ after, isBlank c) (cs : List Char) :
    trimRightChars (cs ++ after) = trimRightChars cs := by
  have hReversed : ∀ c ∈ after.reverse, isBlank c := fun c hc => hAfter c (List.mem_reverse.mp hc)
  have hDrop := trimLeftChars_blanks hReversed cs.reverse
  rw [trimRightChars, List.reverse_append]
  exact congrArg List.reverse hDrop

theorem trimChars_blanks (hBefore : ∀ c ∈ before, isBlank c) (hAfter : ∀ c ∈ after, isBlank c)
    (cs : List Char) : trimChars (before ++ cs ++ after) = trimChars cs := by
  rw [trimChars, List.append_assoc, trimLeftChars_blanks hBefore, trimLeftChars,
    List.dropWhile_append]
  split
  case isTrue hEmpty =>
    have hLeft : trimLeftChars cs = [] := List.isEmpty_iff.mp hEmpty
    have hNone : after.dropWhile isBlank = [] := List.dropWhile_eq_nil_iff.mpr hAfter
    rw [hNone, trimChars, hLeft]
  case isFalse => exact trimRightChars_blanks hAfter _

theorem exists_blanks (cs : List Char) : ∃ before after : List Char,
    (∀ c ∈ before, isBlank c) ∧ (∀ c ∈ after, isBlank c) ∧
      cs = before ++ trimChars cs ++ after := by
  have hLeft : cs = cs.takeWhile isBlank ++ trimLeftChars cs :=
    (List.takeWhile_append_dropWhile).symm
  have hRight : trimLeftChars cs = trimChars cs ++
      ((trimLeftChars cs).reverse.takeWhile isBlank).reverse := by
    rw [trimChars, trimRightChars, ← List.reverse_append, List.takeWhile_append_dropWhile,
      List.reverse_reverse]
  refine ⟨cs.takeWhile isBlank, ((trimLeftChars cs).reverse.takeWhile isBlank).reverse, ?_, ?_, ?_⟩
  · exact fun c hc => List.mem_takeWhile_imp hc
  · exact fun c hc => List.mem_takeWhile_imp (List.mem_reverse.mp hc)
  · rw [List.append_assoc, ← hRight, ← hLeft]

theorem trim_trim (s : String) : trim (trim s) = trim s := by
  obtain ⟨before, after, hBefore, hAfter, hEq⟩ := exists_blanks s.toList
  have hChars := trimChars_blanks hBefore hAfter (trimChars s.toList)
  rw [← hEq] at hChars
  rw [trim, trim, String.toList_ofList, ← hChars]

theorem trim_blanks {before after : String} (hBefore : ∀ c ∈ before.toList, isBlank c)
    (hAfter : ∀ c ∈ after.toList, isBlank c) (s : String) :
    trim (before ++ s ++ after) = trim s := by
  rw [trim, String.toList_append, String.toList_append, trimChars_blanks hBefore hAfter, trim]

/-- No blank stands at either end. -/
def Ends (cs : List Char) : Prop :=
  (∀ c ∈ cs.head?, ¬ isBlank c) ∧ ∀ c ∈ cs.getLast?, ¬ isBlank c

theorem trimLeftChars_eq_self_iff {cs : List Char} :
    trimLeftChars cs = cs ↔ ∀ c ∈ cs.head?, ¬ isBlank c := by
  cases cs with
  | nil => simp [trimLeftChars]
  | cons c r => simp [trimLeftChars, List.dropWhile_eq_self_iff]

theorem trimRightChars_eq_self_iff {cs : List Char} :
    trimRightChars cs = cs ↔ ∀ c ∈ cs.getLast?, ¬ isBlank c := by
  rw [← List.head?_reverse, ← trimLeftChars_eq_self_iff, trimLeftChars, trimRightChars,
    List.reverse_eq_iff]

theorem trimChars_eq_self_iff {cs : List Char} : trimChars cs = cs ↔ Ends cs := by
  rw [Ends, ← trimLeftChars_eq_self_iff, ← trimRightChars_eq_self_iff]
  constructor
  · intro hTrim
    have hSuffix : trimLeftChars cs <:+ cs := List.dropWhile_suffix _
    have hShorter : (trimChars cs).length ≤ (trimLeftChars cs).length := by
      have hDrop := (List.dropWhile_suffix isBlank (l := (trimLeftChars cs).reverse)).length_le
      rwa [List.length_reverse, ← List.length_reverse] at hDrop
    rw [hTrim] at hShorter
    have hLeft : trimLeftChars cs = cs := hSuffix.eq_of_length_le hShorter
    rw [trimChars, hLeft] at hTrim
    exact ⟨hLeft, hTrim⟩
  · rintro ⟨hLeft, hRight⟩
    rw [trimChars, hLeft, hRight]

instance (cs : List Char) : Decidable (Ends cs) := decidable_of_iff _ trimChars_eq_self_iff

theorem trim_eq_self_iff {s : String} : trim s = s ↔ Ends s.toList := by
  rw [← trimChars_eq_self_iff, trim, ← String.toList_inj, String.toList_ofList]

end Logline.Text
