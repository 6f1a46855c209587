import Logline.Backtrace
import Logline.Proofs.NumberText
import Logline.Proofs.TrimmedText
import Mathlib.Data.List.TakeWhile

/-! # Lines of a backtrace

The two shapes that a line of a backtrace can have, and what is read from each. A line with the
number of a frame tells the name of a function. A line with a place tells a file and a line number:
the file ends before the last colons of the line that numbers follow, so it may have colons itself.
-/

namespace Logline.Backtrace

open Text (isBlank takeWhile_stop dropWhile_stop)

/-! ## Shapes -/

def Blanks (cs : List Char) : Prop := ∀ c ∈ cs, isBlank c

instance (cs : List Char) : Decidable (Blanks cs) := List.decidableBAll _ cs

def IsNumber (cs : List Char) : Prop := cs ≠ [] ∧ ∀ c ∈ cs, isDigit c

/-- A number, a colon, a blank and a name; blanks before the number. -/
inductive IsFrameLine : List Char → Prop
  | mk {indent number name : List Char} {gap : Char} : Blanks indent → IsNumber number →
      isBlank gap → name ≠ [] → IsFrameLine (indent ++ (number ++ ':' :: gap :: name))

/-- What may follow a line number: a column or none, and blanks. -/
inductive IsEnding : List Char → Prop
  | blanks {after : List Char} : Blanks after → IsEnding after
  | column {number after : List Char} : IsNumber number → Blanks after →
      IsEnding (':' :: (number ++ after))

/-- The word `at`, a file, a colon and a line number; blanks before the word and before the file. -/
inductive IsPlaceLine : List Char → Prop
  | mk {indent gap file number ending : List Char} : indent ≠ [] → Blanks indent → gap ≠ [] →
      Blanks gap → file ≠ [] → IsNumber number → IsEnding ending →
      IsPlaceLine (indent ++ 'a' :: 't' :: (gap ++ (file ++ ':' :: (number ++ ending))))

theorem exists_blanks_dropWhile (cs : List Char) :
    ∃ before, Blanks before ∧ cs = before ++ cs.dropWhile isBlank :=
  ⟨cs.takeWhile isBlank, fun _ hc => List.mem_takeWhile_imp hc,
    List.takeWhile_append_dropWhile.symm⟩

variable {cs rest line name file digits number : List Char}

/-! ## Numbers -/

theorem skipDigits?_sound (h : skipDigits? cs = some rest) :
    ∃ number, IsNumber number ∧ cs = number ++ rest := by
  cases cs with
  | nil => cases h
  | cons c r =>
    simp only [skipDigits?] at h
    split at h
    case isTrue hDigit =>
      obtain rfl := Option.some.inj h
      refine ⟨c :: r.takeWhile isDigit, ⟨List.cons_ne_nil _ _, ?_⟩, ?_⟩
      · exact List.forall_mem_cons.mpr ⟨hDigit, fun d hd => List.mem_takeWhile_imp hd⟩
      · rw [List.cons_append, List.takeWhile_append_dropWhile]
    case isFalse => cases h

theorem skipDigits?_number (hNumber : IsNumber number) (hRest : ∀ c ∈ rest.head?, ¬ isDigit c) :
    skipDigits? (number ++ rest) = some rest := by
  obtain ⟨hNonempty, hDigits⟩ := hNumber
  obtain ⟨c, r, rfl⟩ := List.exists_cons_of_ne_nil hNonempty
  obtain ⟨hDigit, hMore⟩ := List.forall_mem_cons.mp hDigits
  rw [List.cons_append, skipDigits?, if_pos hDigit, dropWhile_stop hMore hRest]

/-- After the digits of a line number stands what may follow one. -/
theorem lineNumber?_sound (h : lineNumber? cs = some digits) :
    IsNumber digits ∧ ∃ ending, cs = digits ++ ending ∧ IsEnding ending := by
  have hDrop : cs.drop (cs.takeWhile isDigit).length = cs.dropWhile isDigit := by
    have hLeft : (cs.takeWhile isDigit ++ cs.dropWhile isDigit).drop
        (cs.takeWhile isDigit).length = cs.dropWhile isDigit := List.drop_left
    rwa [List.takeWhile_append_dropWhile] at hLeft
  have hSplit : cs.takeWhile isDigit ++ cs.dropWhile isDigit = cs :=
    List.takeWhile_append_dropWhile
  have hDigits : ∀ c ∈ cs.takeWhile isDigit, isDigit c := fun c hc => List.mem_takeWhile_imp hc
  rw [lineNumber?, hDrop] at h
  generalize cs.takeWhile isDigit = number at h hSplit hDigits
  generalize cs.dropWhile isDigit = ending at h hSplit
  have hAll : ∀ {after : List Char}, after.all isBlank = true → Blanks after :=
    fun hAfter => List.all_eq_true.mp hAfter
  cases number with
  | nil => cases h
  | cons d number =>
    simp only [List.isEmpty_cons, Bool.false_eq_true, if_false] at h
    have hNumber : IsNumber (d :: number) := ⟨List.cons_ne_nil d number, hDigits⟩
    split at h
    next r =>
      split at h
      next after hSkip =>
        obtain ⟨column, hColumn, rfl⟩ := skipDigits?_sound hSkip
        split_ifs at h with hAfter
        obtain rfl := Option.some.inj h
        exact ⟨hNumber, _, hSplit.symm, .column hColumn (hAll hAfter)⟩
      next => cases h
    next =>
      split_ifs at h with hAfter
      obtain rfl := Option.some.inj h
      exact ⟨hNumber, _, hSplit.symm, .blanks (hAll hAfter)⟩

theorem not_digit_colon : ¬ isDigit ':' := by decide

theorem digitRuns_avoid_blanks :
    ∀ r ∈ digitRuns, ∀ b ∈ Text.blankRanges, r.last < b.1 ∨ b.2 < r.first := by
  decide +kernel

theorem not_blank_of_isDigit {c : Char} (h : c.isDigit = true) : ¬ isBlank c := by
  have hBounds := Json.isDigit_bounds h
  simp only [isBlank, Bool.or_eq_true, Bool.and_eq_true, decide_eq_true_eq, beq_iff_eq]
  omega

theorem not_digit_of_blank {c : Char} (h : isBlank c) : ¬ isDigit c := by
  obtain ⟨b, hb, hLow, hHigh⟩ := Text.exists_blankRange h
  rw [isDigit]
  split
  case isTrue => exact fun hDigit => not_blank_of_isDigit hDigit h
  case isFalse =>
    rw [Text.inRuns, List.any_eq_true]
    rintro ⟨r, hr, hContains⟩
    have hApart := digitRuns_avoid_blanks r hr b hb
    simp only [Text.Run.contains, Bool.and_eq_true, decide_eq_true_eq] at hContains
    omega

theorem Blanks.head {after : List Char} (h : Blanks after) : ∀ c ∈ after.head?, ¬ isDigit c :=
  fun c hc => not_digit_of_blank (h c (List.mem_of_mem_head? hc))

theorem count_number (h : IsNumber number) : number.count ':' = 0 :=
  List.count_eq_zero.mpr fun hColon => not_digit_colon (h.2 _ hColon)

theorem count_blanks {after : List Char} (h : Blanks after) : after.count ':' = 0 :=
  List.count_eq_zero.mpr fun hColon => absurd (h _ hColon) (by decide)

theorem IsEnding.count_le (h : IsEnding rest) : rest.count ':' ≤ 1 := by
  cases h with
  | blanks hAfter => rw [count_blanks hAfter]; decide
  | column hNumber hAfter =>
    rw [List.count_cons_self, List.count_append, count_number hNumber, count_blanks hAfter]

theorem lineNumber?_number (hNumber : IsNumber number) (hEnding : IsEnding rest) :
    lineNumber? (number ++ rest) = some number := by
  have hHead : ∀ c ∈ rest.head?, ¬ isDigit c := by
    cases hEnding with
    | blanks hAfter => exact hAfter.head
    | column => exact fun c hc => Option.some.inj hc ▸ not_digit_colon
  have hDigits : (number ++ rest).takeWhile isDigit = number := takeWhile_stop hNumber.2 hHead
  simp only [lineNumber?, hDigits, List.drop_left, List.isEmpty_iff, if_neg hNumber.1]
  cases hEnding with
  | column hColumn hAfter =>
    simp only [skipDigits?_number hColumn hAfter.head, if_pos (List.all_eq_true.mpr hAfter)]
  | blanks hAfter =>
    split
    next => exact absurd (hAfter ':' List.mem_cons_self) (by decide)
    next => exact if_pos (List.all_eq_true.mpr hAfter)

/-! ## Places -/

theorem fileAndLine?_colon (c : Char) (rest : List Char) : fileAndLine? (c :: ':' :: rest) =
    ((lineNumber? rest).map fun line => ([c], line)).or
      ((fileAndLine? (':' :: rest)).map fun (file, line) => (c :: file, line)) := rfl

theorem fileAndLine?_cons (c : Char) {r : List Char} (hr : ∀ rest, r ≠ ':' :: rest) :
    fileAndLine? (c :: r) = (fileAndLine? r).map fun (file, line) => (c :: file, line) := by
  rw [fileAndLine?]
  · rfl
  · exact hr

theorem fileAndLine?_sound (h : fileAndLine? cs = some (file, digits)) :
    file ≠ [] ∧ IsNumber digits ∧
      ∃ ending, cs = file ++ ':' :: (digits ++ ending) ∧ IsEnding ending := by
  induction cs generalizing file with
  | nil => cases h
  | cons c r ih =>
    have hLater : (fileAndLine? r).map (fun (file, line) => (c :: file, line)) =
        some (file, digits) → file ≠ [] ∧ IsNumber digits ∧
          ∃ ending, c :: r = file ++ ':' :: (digits ++ ending) ∧ IsEnding ending := by
      intro hMap
      obtain ⟨⟨file', digits'⟩, hRest, hPair⟩ := Option.map_eq_some_iff.mp hMap
      obtain ⟨rfl, rfl⟩ := Prod.mk.inj hPair
      obtain ⟨-, hNumber, ending, rfl, hEnding⟩ := ih hRest
      exact ⟨List.cons_ne_nil c file', hNumber, ending, rfl, hEnding⟩
    by_cases hColon : ∃ rest, r = ':' :: rest
    · obtain ⟨rest, rfl⟩ := hColon
      rw [fileAndLine?_colon, Option.or_eq_some_iff] at h
      rcases h with hHere | ⟨-, hMap⟩
      · obtain ⟨digits', hLine, hPair⟩ := Option.map_eq_some_iff.mp hHere
        obtain ⟨rfl, rfl⟩ := Prod.mk.inj hPair
        obtain ⟨hNumber, ending, rfl, hEnding⟩ := lineNumber?_sound hLine
        exact ⟨List.cons_ne_nil c [], hNumber, ending, rfl, hEnding⟩
      · exact hLater hMap
    · rw [fileAndLine?_cons c fun rest hr => hColon ⟨rest, hr⟩] at h
      exact hLater h

/-- No file ends earlier, since the colons of the line number and the column would be left. -/
theorem fileAndLine?_printed {column : List Char} (hFile : file ≠ []) (hNumber : IsNumber number)
    (hColumn : IsNumber column) :
    fileAndLine? (file ++ ':' :: (number ++ ':' :: column)) = some (file, number) := by
  have hEnding : IsEnding (':' :: column) := by
    simpa using IsEnding.column hColumn (List.forall_mem_nil _)
  induction file with
  | nil => exact absurd rfl hFile
  | cons c file ih =>
    cases file with
    | nil =>
      rw [List.singleton_append, fileAndLine?_colon, lineNumber?_number hNumber hEnding]
      rfl
    | cons d file =>
      have hRest := ih (List.cons_ne_nil d file)
      by_cases hd : d = ':'
      · subst hd
        have hNone : lineNumber? (file ++ ':' :: (number ++ ':' :: column)) = none := by
          rw [Option.eq_none_iff_forall_ne_some]
          intro early hEarly
          obtain ⟨hEarlyNumber, ending, hSplit, hEnding⟩ := lineNumber?_sound hEarly
          have hColons := congrArg (List.count ':') hSplit
          have hFew := hEnding.count_le
          simp only [List.count_append, List.count_cons_self, count_number hEarlyNumber] at hColons
          omega
        rw [List.cons_append, List.cons_append, fileAndLine?_colon, hNone]
        rw [List.cons_append] at hRest
        rw [hRest]
        rfl
      · have hApart : ∀ rest, (d :: file) ++ ':' :: (number ++ ':' :: column) ≠ ':' :: rest :=
          fun rest hSame => hd (List.cons.inj hSame).1
        rw [List.cons_append, fileAndLine?_cons c hApart, hRest]
        rfl

theorem afterBlanks?_sound {blanks : List Char} (hBlanks : Blanks blanks)
    (h : afterBlanks? blanks cs = some (file, digits)) : ∃ gap, gap ≠ [] ∧ Blanks gap ∧
      file ≠ [] ∧ IsNumber digits ∧ ∃ ending, IsEnding ending ∧
        blanks.reverse ++ cs = gap ++ (file ++ ':' :: (digits ++ ending)) := by
  induction blanks generalizing cs with
  | nil => cases h
  | cons b blanks ih =>
    rw [afterBlanks?, Option.or_eq_some_iff] at h
    rcases h with hHere | ⟨-, hFewer⟩
    · obtain ⟨hFile, hNumber, ending, rfl, hEnding⟩ := fileAndLine?_sound hHere
      refine ⟨(b :: blanks).reverse, by simp, fun c hc => hBlanks c (List.mem_reverse.mp hc), hFile,
        hNumber, ending, hEnding, rfl⟩
    · rw [List.reverse_cons, List.append_assoc, List.singleton_append]
      exact ih (fun c hc => hBlanks c (List.mem_cons_of_mem b hc)) hFewer

theorem placeLine?_sound (h : placeLine? line = some (file, digits)) : IsPlaceLine line := by
  cases line with
  | nil => cases h
  | cons c line =>
    simp only [placeLine?] at h
    split_ifs at h with hBlank
    obtain ⟨indent, hIndent, hLine⟩ := exists_blanks_dropWhile (c :: line)
    split at h
    next r hAt =>
      have hGap : Blanks (r.takeWhile isBlank).reverse :=
        fun c hc => List.mem_takeWhile_imp (List.mem_reverse.mp hc)
      obtain ⟨gap, hGapNonempty, hGapBlanks, hFile, hNumber, ending, hEnding, hSplit⟩ :=
        afterBlanks?_sound hGap h
      rw [List.reverse_reverse, List.takeWhile_append_dropWhile] at hSplit
      rw [hAt] at hLine
      have hNonempty : indent ≠ [] := by
        rintro rfl
        obtain rfl : c = 'a' := (List.cons.inj hLine).1
        exact absurd hBlank (by decide)
      rw [hLine, hSplit]
      exact .mk hNonempty hIndent hGapNonempty hGapBlanks hFile hNumber hEnding
    next => cases h

theorem fileAndLine?_isSome_cons (c : Char) {r : List Char} (h : (fileAndLine? r).isSome) :
    (fileAndLine? (c :: r)).isSome := by
  by_cases hColon : ∃ rest, r = ':' :: rest
  · obtain ⟨rest, rfl⟩ := hColon
    rw [fileAndLine?_colon, Option.isSome_or, Option.isSome_map, Option.isSome_map, h, Bool.or_true]
  · rw [fileAndLine?_cons c fun rest hr => hColon ⟨rest, hr⟩, Option.isSome_map, h]

theorem fileAndLine?_isSome (hFile : file ≠ []) (hNumber : IsNumber number)
    (hEnding : IsEnding rest) : (fileAndLine? (file ++ ':' :: (number ++ rest))).isSome := by
  induction file with
  | nil => exact absurd rfl hFile
  | cons c file ih =>
    cases file with
    | nil =>
      rw [List.singleton_append, fileAndLine?_colon, lineNumber?_number hNumber hEnding]
      rfl
    | cons d file => exact fileAndLine?_isSome_cons c (ih (List.cons_ne_nil d file))

theorem afterBlanks?_isSome {blanks gap behind : List Char} (hGapped : gap ≠ [])
    (hLength : gap.length ≤ blanks.length) (hSplit : blanks.reverse ++ cs = gap ++ behind)
    (hBehind : (fileAndLine? behind).isSome) : (afterBlanks? blanks cs).isSome := by
  induction blanks generalizing cs with
  | nil => exact absurd (List.eq_nil_of_length_eq_zero (Nat.le_zero.mp hLength)) hGapped
  | cons b blanks ih =>
    rw [afterBlanks?, Option.isSome_or, Bool.or_eq_true]
    rcases Nat.eq_or_lt_of_le hLength with hSame | hShorter
    · have hAll := List.append_inj hSplit (by rw [List.length_reverse, hSame])
      exact .inl (hAll.2 ▸ hBehind)
    · rw [List.reverse_cons, List.append_assoc, List.singleton_append] at hSplit
      exact .inr (ih (Nat.le_of_lt_succ hShorter) hSplit)

theorem dropWhile_at {indent : List Char} (h : Blanks indent) (rest : List Char) :
    (indent ++ 'a' :: rest).dropWhile isBlank = 'a' :: rest :=
  dropWhile_stop h fun c hc => Option.some.inj hc ▸ (by decide : ¬ isBlank 'a')

theorem placeLine?_isSome_iff : (placeLine? line).isSome ↔ IsPlaceLine line := by
  refine ⟨fun h => ?_, fun h => ?_⟩
  · obtain ⟨⟨file, digits⟩, hPlace⟩ := Option.isSome_iff_exists.mp h
    exact placeLine?_sound hPlace
  · obtain @⟨indent, gap, file, number, ending, hIndented, hIndent, hGapped, hGap, hFile, hNumber,
      hEnding⟩ := h
    have hBehind := fileAndLine?_isSome hFile hNumber hEnding
    generalize file ++ ':' :: (number ++ ending) = behind at hBehind
    have hStart := dropWhile_at hIndent ('t' :: (gap ++ behind))
    obtain ⟨b, indent, rfl⟩ := List.exists_cons_of_ne_nil hIndented
    rw [List.cons_append] at hStart ⊢
    rw [placeLine?, if_pos (hIndent b List.mem_cons_self), hStart]
    refine afterBlanks?_isSome hGapped ?_ ?_ hBehind
    · rw [List.length_reverse, List.takeWhile_append_of_pos hGap, List.length_append]
      exact Nat.le_add_right _ _
    · rw [List.reverse_reverse, List.takeWhile_append_dropWhile]

instance (line : List Char) : Decidable (IsPlaceLine line) :=
  decidable_of_iff _ placeLine?_isSome_iff

theorem placeLine?_eq_none_iff : placeLine? line = none ↔ ¬ IsPlaceLine line := by
  rw [← placeLine?_isSome_iff, Option.not_isSome_iff_eq_none]

theorem placeLine?_printed {indent column : List Char} (hIndented : indent ≠ [])
    (hIndent : Blanks indent) (hFile : file ≠ []) (hSolid : ∀ c ∈ file.head?, ¬ isBlank c)
    (hNumber : IsNumber number) (hColumn : IsNumber column) :
    placeLine? (indent ++ 'a' :: 't' :: ' ' :: (file ++ ':' :: (number ++ ':' :: column))) =
      some (file, number) := by
  have hRead := fileAndLine?_printed hFile hNumber hColumn
  obtain ⟨d, file', rfl⟩ := List.exists_cons_of_ne_nil hFile
  generalize hBehind : d :: file' ++ ':' :: (number ++ ':' :: column) = behind at hRead ⊢
  have hHead : ∀ c ∈ behind.head?, ¬ isBlank c := by
    rw [← hBehind]
    exact hSolid
  have hStart := dropWhile_at hIndent ('t' :: ' ' :: behind)
  have hSpace : ∀ c ∈ [' '], isBlank c := List.forall_mem_singleton.mpr (by decide)
  have hGap : (' ' :: behind).takeWhile isBlank = [' '] := takeWhile_stop hSpace hHead
  have hFrom : (' ' :: behind).dropWhile isBlank = behind := dropWhile_stop hSpace hHead
  obtain ⟨b, indent, rfl⟩ := List.exists_cons_of_ne_nil hIndented
  rw [List.cons_append] at hStart ⊢
  rw [placeLine?, if_pos (hIndent b List.mem_cons_self), hStart]
  simp only [hGap, hFrom, List.reverse_singleton, afterBlanks?, hRead, Option.some_or]

/-! ## Frames -/

theorem functionName?_sound (h : functionName? cs = some name) :
    ∃ gap r, cs = gap :: r ∧ isBlank gap ∧ r ≠ [] := by
  have hSplit : cs.takeWhile isBlank ++ cs.dropWhile isBlank = cs :=
    List.takeWhile_append_dropWhile
  have hBlanks : ∀ c ∈ cs.takeWhile isBlank, isBlank c := fun c hc => List.mem_takeWhile_imp hc
  rw [functionName?] at h
  generalize cs.takeWhile isBlank = blanks at h hSplit hBlanks
  generalize cs.dropWhile isBlank = behind at h hSplit
  cases blanks with
  | nil => cases h
  | cons b blanks =>
    refine ⟨b, blanks ++ behind, hSplit.symm, hBlanks b List.mem_cons_self, ?_⟩
    -- One blank alone belongs to the colon, and no name is left.
    rintro hNone
    obtain ⟨rfl, rfl⟩ := List.append_eq_nil_iff.mp hNone
    cases h

theorem frameLine?_sound (h : frameLine? line = some name) : IsFrameLine line := by
  obtain ⟨indent, hIndent, hLine⟩ := exists_blanks_dropWhile line
  rw [frameLine?] at h
  split at h
  next r hSkip =>
    obtain ⟨number, hNumber, hDigits⟩ := skipDigits?_sound hSkip
    obtain ⟨gap, rest, rfl, hGap, hRest⟩ := functionName?_sound h
    rw [hLine, hDigits]
    exact .mk hIndent hNumber hGap hRest
  next => cases h

theorem functionName?_isSome {gap : Char} (hGap : isBlank gap) (hName : name ≠ []) :
    (functionName? (gap :: name)).isSome := by
  rw [functionName?, List.takeWhile_cons_of_pos hGap, List.dropWhile_cons_of_pos hGap]
  cases hBehind : name.dropWhile isBlank with
  | cons c r => rfl
  | nil =>
    have hAll : name.takeWhile isBlank = name := by
      have hSplit := List.takeWhile_append_dropWhile (p := isBlank) (l := name)
      rwa [hBehind, List.append_nil] at hSplit
    have hLength : (gap :: name).length ≠ 1 := fun hOne =>
      hName (List.eq_nil_of_length_eq_zero (Nat.succ.inj hOne))
    simp only [hAll, if_neg hLength, Option.isSome_some]

theorem frameLine?_number {indent : List Char} (hIndent : Blanks indent) (hNumber : IsNumber number)
    (rest : List Char) : frameLine? (indent ++ (number ++ ':' :: rest)) = functionName? rest := by
  have hHead : ∀ c ∈ (number ++ ':' :: rest).head?, ¬ isBlank c := by
    rw [List.head?_append_of_ne_nil _ hNumber.1]
    exact fun c hc hBlank => not_digit_of_blank hBlank (hNumber.2 c (List.mem_of_mem_head? hc))
  have hColon : ∀ c ∈ (':' :: rest).head?, ¬ isDigit c :=
    fun c hc => Option.some.inj hc ▸ not_digit_colon
  rw [frameLine?, dropWhile_stop hIndent hHead, skipDigits?_number hNumber hColon]
  rfl

theorem frameLine?_isSome_iff : (frameLine? line).isSome ↔ IsFrameLine line := by
  refine ⟨fun h => ?_, fun h => ?_⟩
  · obtain ⟨name, hName⟩ := Option.isSome_iff_exists.mp h
    exact frameLine?_sound hName
  · obtain @⟨indent, number, name, gap, hIndent, hNumber, hGap, hName⟩ := h
    rw [frameLine?_number hIndent hNumber]
    exact functionName?_isSome hGap hName

instance (line : List Char) : Decidable (IsFrameLine line) :=
  decidable_of_iff _ frameLine?_isSome_iff

theorem frameLine?_eq_none_iff : frameLine? line = none ↔ ¬ IsFrameLine line := by
  rw [← frameLine?_isSome_iff, Option.not_isSome_iff_eq_none]

theorem functionName?_printed {gap : List Char} (hGapped : gap ≠ []) (hGap : Blanks gap)
    (hName : name ≠ []) (hEnds : Text.Ends name) : functionName? (gap ++ name) = some name := by
  have hTrim : Text.trimRightChars name = name := Text.trimRightChars_eq_self_iff.mpr hEnds.2
  rw [functionName?, takeWhile_stop hGap hEnds.1, dropWhile_stop hGap hEnds.1]
  obtain ⟨b, gap, rfl⟩ := List.exists_cons_of_ne_nil hGapped
  obtain ⟨c, name, rfl⟩ := List.exists_cons_of_ne_nil hName
  exact congrArg some hTrim

theorem frameLine?_printed {indent gap : List Char} (hIndent : Blanks indent)
    (hNumber : IsNumber number) (hGapped : gap ≠ []) (hGap : Blanks gap) (hName : name ≠ [])
    (hEnds : Text.Ends name) :
    frameLine? (indent ++ (number ++ ':' :: (gap ++ name))) = some name := by
  rw [frameLine?_number hIndent hNumber]
  exact functionName?_printed hGapped hGap hName hEnds

/-- A line with a place starts with a letter, so it has no number of a frame. -/
theorem frameLine?_at {indent : List Char} (hIndent : Blanks indent) (rest : List Char) :
    frameLine? (indent ++ 'a' :: rest) = none := by
  have hLetter : ¬ isDigit 'a' := by decide
  rw [frameLine?, dropWhile_at hIndent, skipDigits?, if_neg hLetter]

/-! ## Numbers and names in full -/

theorem isNumber_toDigits (n : Nat) : IsNumber (Nat.toDigits 10 n) := by
  refine ⟨Nat.toDigits_ne_nil, fun c hc => ?_⟩
  have hDigit := Json.isDigit_toDigits hc
  have hBounds := Json.isDigit_bounds hDigit
  rw [isDigit, if_pos (by omega), hDigit]

theorem lineOf?_toDigits (n : Nat) :
    lineOf? (Nat.toDigits 10 n) = if n < 2 ^ 32 then some n else none := by
  have hAll : (Nat.toDigits 10 n).all Char.isDigit = true :=
    List.all_eq_true.mpr fun _ hc => Json.isDigit_toDigits hc
  have hValue : (Nat.toDigits 10 n).foldl (fun n c => n * 10 + (c.toNat - 48)) 0 = n := by
    have hRead := Nat.ofDigitChars_ten_toDigits (n := n)
    simp only [Nat.ofDigitChars, Nat.mul_comm 10] at hRead
    exact hRead
  simp only [lineOf?, hAll, hValue, if_true, Nat.pow_eq]

/-- A mark and sixteen digits, as they stand behind a name. -/
def IsHash (cs : List Char) : Prop :=
  ∃ hash, cs = ':' :: ':' :: 'h' :: hash ∧ hash.length = 16 ∧ ∀ c ∈ hash, isHashDigit c

theorem IsHash.length_eq {cs : List Char} (h : IsHash cs) : cs.length = hashLength := by
  obtain ⟨hash, rfl, hLength, -⟩ := h
  simp [hLength, hashLength]

/-- A name without the hash at its end, if it has one. -/
inductive Unhashed : List Char → List Char → Prop
  | hash {name hash : List Char} : IsHash hash → Unhashed (name ++ hash) name
  | plain {name : List Char} : (∀ before hash, name = before ++ hash → ¬ IsHash hash) →
      Unhashed name name

theorem dropHash_append {hash : List Char} (h : IsHash hash) (name : List Char) :
    dropHash (name ++ hash) = name := by
  have hStart : (name ++ hash).length - hashLength = name.length := by
    rw [List.length_append, h.length_eq, Nat.add_sub_cancel]
  obtain ⟨digits, rfl, hLength, hDigits⟩ := h
  unfold dropHash
  rw [hStart, List.drop_left]
  exact (if_pos ⟨hLength, List.all_eq_true.mpr hDigits⟩).trans List.take_left

theorem dropHash_of_plain (h : ∀ before hash, name = before ++ hash → ¬ IsHash hash) :
    dropHash name = name := by
  have hSplit := List.take_append_drop (name.length - hashLength) name
  unfold dropHash
  split
  next digits hDrop =>
    refine if_neg fun ⟨hLength, hDigits⟩ => h _ _ hSplit.symm ?_
    exact ⟨digits, hDrop, hLength, List.all_eq_true.mp hDigits⟩
  next => rfl

theorem unhashed_dropHash (name : List Char) : Unhashed name (dropHash name) := by
  by_cases h : ∃ before hash, name = before ++ hash ∧ IsHash hash
  · obtain ⟨before, hash, rfl, hHash⟩ := h
    rw [dropHash_append hHash]
    exact .hash hHash
  · have hPlain : ∀ before hash, name = before ++ hash → ¬ IsHash hash :=
      fun before hash hName hHash => h ⟨before, hash, hName, hHash⟩
    rw [dropHash_of_plain hPlain]
    exact .plain hPlain

end Logline.Backtrace
