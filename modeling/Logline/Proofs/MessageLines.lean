import Logline.Proofs.Utf8Text
import Logline.Render.TextPainter
import Mathlib.Data.List.TakeWhile

/-! # Lines of a message

The first line of a message ends at its first line feed and loses the carriage returns before it.
What is below is split again, by the rule for the lines of a text, where one carriage return belongs
to the end of a line.
-/

namespace Logline

namespace Text

theorem mem_toList_of_mem_utf8 {s : String} {b : UInt8} (hb : b < 0x80) (h : b ∈ utf8 s) :
    Char.ofNat b.toNat ∈ s.toList := by
  have hChar := mem_lossyChars hb h
  have hText : String.ofList (lossyChars (utf8 s)) = s := lossy_utf8 s
  rwa [← hText, String.toList_ofList]

theorem notMem_utf8 {s : String} (h : '\n' ∉ s.toList) : 0x0a ∉ utf8 s :=
  fun hMem => h (mem_toList_of_mem_utf8 (by decide) hMem)

/-! ## Splitting at line feeds -/

theorem splitLines_cons {c : Char} {cs : List Char} (hc : c ≠ '\n')
    (hEnd : ∀ rest, c = '\r' → cs ≠ '\n' :: rest) :
    splitLines (c :: cs) = match splitLines cs with
      | [] => [[c]]
      | line :: lines => (c :: line) :: lines :=
  splitLines.eq_4 c cs hc hEnd

theorem splitLines_of_notMem {cs : List Char} (h : '\n' ∉ cs) :
    splitLines cs = if cs = [] then [] else [cs] := by
  induction cs with
  | nil => rfl
  | cons c r ih =>
    have hc : c ≠ '\n' := fun hc => h (hc ▸ List.mem_cons_self)
    have hr : '\n' ∉ r := fun hr => h (List.mem_cons_of_mem _ hr)
    have hEnd : ∀ rest, c = '\r' → r ≠ '\n' :: rest :=
      fun rest _ hr' => hr (hr' ▸ List.mem_cons_self)
    rw [splitLines_cons hc hEnd, ih hr, if_neg (List.cons_ne_nil c r)]
    by_cases hEmpty : r = []
    · rw [if_pos hEmpty, hEmpty]
    · rw [if_neg hEmpty]

/-- A line without the carriage return at its end. -/
def dropReturn (line : List Char) : List Char :=
  if line.getLast? = some '\r' then line.dropLast else line

theorem dropReturn_cons {c : Char} {line : List Char} (h : c ≠ '\r' ∨ line ≠ []) :
    dropReturn (c :: line) = c :: dropReturn line := by
  unfold dropReturn
  cases line with
  | nil =>
    have hc : c ≠ '\r' := h.resolve_right fun hNil => hNil rfl
    simp [hc]
  | cons d r =>
    rw [List.getLast?_cons_cons, List.dropLast_cons_cons]
    split <;> rfl

theorem splitLines_break {line : List Char} (h : '\n' ∉ line) (rest : List Char) :
    splitLines (line ++ '\n' :: rest) = dropReturn line :: splitLines rest := by
  induction line with
  | nil => rfl
  | cons c r ih =>
    have hc : c ≠ '\n' := fun hc => h (hc ▸ List.mem_cons_self)
    have hr : '\n' ∉ r := fun hr => h (List.mem_cons_of_mem _ hr)
    -- A carriage return goes with the line feed only where it stands right before it.
    by_cases hEnd : c = '\r' ∧ r = []
    · obtain ⟨rfl, rfl⟩ := hEnd
      rfl
    · have hApart : ∀ after, c = '\r' → r ++ '\n' :: rest ≠ '\n' :: after := by
        rintro after hReturn hHead
        cases r with
        | nil => exact hEnd ⟨hReturn, rfl⟩
        | cons d r' => exact hr ((List.cons.inj hHead).1 ▸ List.mem_cons_self)
      rw [List.cons_append, splitLines_cons hc hApart, ih hr,
        dropReturn_cons (not_and_or.mp hEnd)]

/-- Lines end at a line feed, with the carriage return before it. The last one may have no end. -/
inductive IsLines : List Char → List (List Char) → Prop
  | nil : IsLines [] []
  | last {line : List Char} : line ≠ [] → '\n' ∉ line → IsLines line [line]
  | cons {line rest : List Char} {lines : List (List Char)} : '\n' ∉ line → IsLines rest lines →
      IsLines (line ++ '\n' :: rest) (dropReturn line :: lines)

theorem isLines_splitLines (cs : List Char) : IsLines cs (splitLines cs) := by
  by_cases h : '\n' ∈ cs
  · obtain ⟨line, rest, hSplit, hLine⟩ := List.eq_append_cons_of_mem h
    have hShorter : rest.length < cs.length := by
      rw [hSplit, List.length_append, List.length_cons]
      omega
    rw [hSplit, splitLines_break hLine]
    exact .cons hLine (isLines_splitLines rest)
  · rw [splitLines_of_notMem h]
    by_cases hEmpty : cs = []
    · rw [if_pos hEmpty, hEmpty]
      exact .nil
    · rw [if_neg hEmpty]
      exact .last hEmpty h
termination_by cs.length

namespace IsLines

variable {cs : List Char} {lines : List (List Char)}

theorem notMem (h : IsLines cs lines) : ∀ line ∈ lines, '\n' ∉ line := by
  induction h with
  | nil => exact List.forall_mem_nil _
  | last _ hLine => exact List.forall_mem_singleton.mpr hLine
  | @cons line rest lines hLine _ ih =>
    refine List.forall_mem_cons.mpr ⟨?_, ih⟩
    unfold dropReturn
    split
    · exact fun hMem => hLine (List.dropLast_subset line hMem)
    · exact hLine

/-- There is one line for each line feed and the one before the text, apart from one at the end. -/
theorem length_add (h : IsLines cs lines) :
    lines.length + (if ('\n' :: cs).getLast? = some '\n' then 1 else 0) =
      ('\n' :: cs).count '\n' := by
  induction h with
  | nil => rfl
  | @last line hNonempty hLine =>
    have hLast : ('\n' :: line).getLast? ≠ some '\n' := by
      obtain ⟨c, r, rfl⟩ := List.exists_cons_of_ne_nil hNonempty
      rw [List.getLast?_cons_cons]
      exact fun hLast => hLine (List.mem_of_getLast? hLast)
    rw [if_neg hLast, List.count_cons_self, List.count_eq_zero.mpr hLine]
    rfl
  | @cons line rest lines hLine _ ih =>
    have hLast : ('\n' :: (line ++ '\n' :: rest)).getLast? = ('\n' :: rest).getLast? := by
      rw [← List.cons_append, List.getLast?_append_cons]
    have hCount : ('\n' :: (line ++ '\n' :: rest)).count '\n' = ('\n' :: rest).count '\n' + 1 := by
      rw [List.count_cons_self, List.count_append, List.count_eq_zero.mpr hLine, Nat.zero_add]
    rw [hLast, hCount, ← ih, List.length_cons]
    omega

end IsLines

end Text

namespace TextPainter

open Text (splitLines)

theorem splitMessage_of_notMem {message : String} (h : '\n' ∉ message.toList) :
    splitMessage message = (message, none) := by
  have hNone : message.toList.dropWhile (· != '\n') = [] := by
    rw [List.dropWhile_eq_nil_iff]
    intro c hc
    exact bne_iff_ne.mpr fun hEq => h (hEq ▸ hc)
  rw [splitMessage, hNone]

theorem splitMessage_break {message : String} {before rest : List Char}
    (hMessage : message.toList = before ++ '\n' :: rest) (h : '\n' ∉ before) :
    splitMessage message = (String.ofList (before.reverse.dropWhile (· == '\r')).reverse,
      some (String.ofList rest)) := by
  have hBefore : ∀ c ∈ before, (c != '\n') = true := by
    intro c hc
    exact bne_iff_ne.mpr fun hEq => h (hEq ▸ hc)
  have hDrop : message.toList.dropWhile (· != '\n') = '\n' :: rest := by
    rw [hMessage, List.dropWhile_append_of_pos hBefore]
    rfl
  have hTake : message.toList.takeWhile (· != '\n') = before := by
    rw [hMessage, List.takeWhile_append_of_pos hBefore]
    exact List.append_nil before
  rw [splitMessage, hDrop, hTake]

/-- What is left when the carriage returns at the end are removed. -/
theorem exists_returns (cs : List Char) : ∃ n,
    cs = (cs.reverse.dropWhile (· == '\r')).reverse ++ List.replicate n '\r' ∧
      (cs.reverse.dropWhile (· == '\r')).reverse.getLast? ≠ some '\r' := by
  have hReturns : cs.reverse.takeWhile (· == '\r') =
      List.replicate (cs.reverse.takeWhile (· == '\r')).length '\r' := by
    refine List.eq_replicate_of_mem fun c hc => ?_
    have hReturn := List.mem_takeWhile_imp hc
    exact beq_iff_eq.mp hReturn
  refine ⟨(cs.reverse.takeWhile (· == '\r')).length, ?_, ?_⟩
  · calc
      cs = (cs.reverse.takeWhile (· == '\r') ++ cs.reverse.dropWhile (· == '\r')).reverse := by
        rw [List.takeWhile_append_dropWhile, List.reverse_reverse]
      _ = (cs.reverse.dropWhile (· == '\r')).reverse ++
          List.replicate (cs.reverse.takeWhile (· == '\r')).length '\r' := by
        rw [List.reverse_append, hReturns, List.reverse_replicate, List.length_replicate]
  · rw [List.getLast?_reverse]
    intro hHead
    have hFirst := List.head?_dropWhile_not (· == '\r') cs.reverse
    rw [hHead] at hFirst
    exact Bool.noConfusion hFirst

/-! ## A message -/

def firstLine (message : String) : String := (splitMessage message).1

/-- The lines of a message below the first. -/
def linesBelow (message : String) : List String :=
  Text.lines ((splitMessage message).2.getD "")

/-- A message without line feeds is one line. Otherwise the first line goes to the first line feed,
without the carriage returns at its end, and those below are the lines of the rest. -/
inductive Splits (message : List Char) : List Char → List (List Char) → Prop
  | whole : '\n' ∉ message → Splits message message []
  | broken {first rest : List Char} {below : List (List Char)} (n : Nat) :
      message = first ++ (List.replicate n '\r' ++ '\n' :: rest) → '\n' ∉ first →
      first.getLast? ≠ some '\r' → Text.IsLines rest below → Splits message first below

theorem splits (message : String) : Splits message.toList (firstLine message).toList
    ((linesBelow message).map String.toList) := by
  by_cases h : '\n' ∈ message.toList
  · obtain ⟨before, rest, hMessage, hBefore⟩ := List.eq_append_cons_of_mem h
    obtain ⟨n, hReturns, hLast⟩ := exists_returns before
    have hBelow : (linesBelow message).map String.toList = splitLines rest := by
      rw [linesBelow, splitMessage_break hMessage hBefore, Option.getD_some, Text.lines,
        List.map_map, String.toList_ofList]
      exact List.map_id'' (fun line => String.toList_ofList) _
    rw [hBelow, firstLine, splitMessage_break hMessage hBefore, String.toList_ofList]
    refine .broken n ?_ ?_ hLast (Text.isLines_splitLines rest)
    · rw [hMessage, ← List.append_assoc, ← hReturns]
    · exact fun hMem => hBefore (hReturns ▸ List.mem_append_left _ hMem)
  · rw [firstLine, linesBelow, splitMessage_of_notMem h]
    exact .whole h

namespace Splits

variable {message first : List Char} {below : List (List Char)}

theorem notMem (h : Splits message first below) : ∀ line ∈ first :: below, '\n' ∉ line := by
  cases h with
  | whole h => exact List.forall_mem_singleton.mpr h
  | broken n _ hFirst _ hLines => exact List.forall_mem_cons.mpr ⟨hFirst, hLines.notMem⟩

/-- There is one line below for each line feed of a message but the one at its end. -/
theorem length_add (h : Splits message first below) :
    below.length + (if message.getLast? = some '\n' then 1 else 0) = message.count '\n' := by
  cases h with
  | whole h =>
    have hLast : message.getLast? ≠ some '\n' := fun hLast => h (List.mem_of_getLast? hLast)
    rw [if_neg hLast, List.count_eq_zero.mpr h]
    rfl
  | @broken _ rest _ n hMessage hFirst _ hLines =>
    have hReturns : '\n' ∉ List.replicate n '\r' :=
      fun hMem => absurd (List.eq_of_mem_replicate hMem) (by decide)
    have hLast : message.getLast? = ('\n' :: rest).getLast? := by
      rw [hMessage, ← List.append_assoc, List.getLast?_append_cons]
    have hCount : message.count '\n' = ('\n' :: rest).count '\n' := by
      rw [hMessage, List.count_append, List.count_append, List.count_eq_zero.mpr hFirst,
        List.count_eq_zero.mpr hReturns, Nat.zero_add, Nat.zero_add]
    rw [hLast, hCount]
    exact hLines.length_add

end Splits

end TextPainter

end Logline
