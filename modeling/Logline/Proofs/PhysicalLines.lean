import Logline.Proofs.ReadableLine

/-! # Physical lines

A record for people takes one line for each line of its message. All of its attributes stand in the
first one, since a value with a line feed in it is quoted.
-/

namespace Logline

open Text (utf8)
open TextPainter

/-! ## Texts without line feeds -/

namespace Text

def OneLine (s : String) : Prop := '\n' ∉ s.toList

instance (s : String) : Decidable (OneLine s) := inferInstanceAs (Decidable (_ ∉ _))

theorem OneLine.append {s t : String} (hs : OneLine s) (ht : OneLine t) : OneLine (s ++ t) := by
  rw [OneLine, String.toList_append, List.mem_append]
  exact not_or.mpr ⟨hs, ht⟩

theorem OneLine.utf8 {s : String} (hs : OneLine s) : 0x0a ∉ utf8 s := notMem_utf8 hs

theorem Every.oneLine {s : String} (hs : Plain s) : OneLine s := by
  intro hMem
  exact absurd (hs '\n' hMem) (by decide)

theorem oneLine_nat (n : Nat) : OneLine (toString n) := (bare_nat n).plain.oneLine

end Text

open Text (OneLine oneLine_nat)

theorem oneLine_groupPath {groups : List String} (h : ∀ key ∈ groups, OneLine key) :
    OneLine (groupPath groups) := by
  induction groups using List.reverseRecOn with
  | nil =>
    show OneLine ""
    decide
  | append_singleton groups key ih =>
    have hGroups := ih fun k hk => h k (List.mem_append_left _ hk)
    have hKey := h key (List.mem_append_right _ List.mem_cons_self)
    rw [groupPath_concat]
    exact (hGroups.append hKey).append (by decide)

namespace Color

theorem oneLine_mixed {kind : String} (hKind : OneLine kind) (red green blue : Nat) :
    OneLine (kind ++ ";2;" ++ toString red ++ ";" ++ toString green ++ ";" ++ toString blue) := by
  have hRed := (hKind.append (by decide : OneLine ";2;")).append (oneLine_nat red)
  have hGreen := (hRed.append (by decide : OneLine ";")).append (oneLine_nat green)
  exact (hGreen.append (by decide : OneLine ";")).append (oneLine_nat blue)

theorem oneLine_foreground (color : Color) : OneLine color.foreground := by
  have hKind : OneLine "38" := by decide
  cases color with
  | named hue bright => exact oneLine_nat _
  | mixed red green blue => exact oneLine_mixed hKind red green blue

theorem oneLine_background (color : Color) : OneLine color.background := by
  have hKind : OneLine "48" := by decide
  cases color with
  | named hue bright => exact oneLine_nat _
  | mixed red green blue => exact oneLine_mixed hKind red green blue

theorem notMem_startText (foreground background : Option Color) :
    0x0a ∉ startText foreground background := by
  have hPieces : ∀ piece ∈ colorStart foreground background, OneLine piece := by
    have hFixed : ∀ piece ∈ ["\x1b[", ";", "m"], OneLine piece := by decide
    cases foreground <;> cases background <;>
      simp_all [colorStart, oneLine_foreground, oneLine_background]
  rw [← flatMap_colorStart, List.mem_flatMap]
  rintro ⟨piece, hPiece, hMem⟩
  exact (hPieces piece hPiece).utf8 hMem

theorem notMem_endText (foreground background : Option Color) :
    0x0a ∉ endText foreground background := by
  unfold endText
  split <;> decide

end Color

theorem Leaf.notMem_text {slack : Nat} {mode : FormatMode} {output : Marshal → Marshal.Output}
    {leaf : Leaf} (hGroup : leaf.value.isGroup = false)
    (hv : leaf.value.Leaves (Value.FieldLeaf slack mode output)) (hKey : OneLine leaf.key)
    (hGroups : ∀ key ∈ leaf.groups, OneLine key) : 0x0a ∉ leaf.text false "" output := by
  have hPath : OneLine ("" ++ groupPath leaf.groups ++ leaf.key) := by
    rw [String.empty_append]
    exact (oneLine_groupPath hGroups).append hKey
  intro hMem
  rcases List.mem_append.mp hMem with hMem | hMem
  · exact hPath.utf8 hMem
  · rcases List.mem_cons.mp hMem with hEquals | hMem
    · cases hEquals
    · exact (token_fieldText hGroup hv).oneLine hMem

theorem Caller.notMem_text {caller : Caller} (hFile : OneLine caller.file)
    (hFunction : OneLine caller.function) : 0x0a ∉ caller.text := by
  have hEnd : OneLine (if caller.function.isEmpty then "" else " " ++ caller.function) := by
    split
    · decide
    · exact OneLine.append (by decide) hFunction
  have hLine := (hFile.append (by decide : OneLine ":")).append (oneLine_nat caller.line)
  exact (hLine.append hEnd).utf8

/-! ## Lines of a record -/

/-- The format of lines for people, with colours or without. -/
def FormatMode.readable (colorful : Bool) : FormatMode := if colorful then .colorful else .plain

namespace Job

/-- The lines of a record: the first line of its message between its other fields, and the lines
below it behind four spaces. -/
def physicalLines (j : Job) (colorful : Bool) (output : Marshal → Marshal.Output) :
    List (List UInt8) :=
  lineText colorful (j.firstPieces output) ::
    (linesBelow j.record.message).map fun line => utf8 ("    " ++ line)

/-- No line feeds stand in what a line is put together from, the message and the values apart. -/
structure Unbroken (j : Job) : Prop where
  time : OneLine (j.options.timeLayout.text j.options.home j.record.time j.options.utc)
  logger : OneLine j.record.logger
  tag : OneLine j.tag
  keys : ∀ leaf ∈ Value.flattenAll [] j.given,
    OneLine leaf.key ∧ ∀ key ∈ leaf.groups, OneLine key
  caller : ∀ caller, j.record.caller = some caller →
    OneLine (caller.redacted j.options.redactor).file ∧ OneLine caller.function

theorem lineText_pieces (j : Job) (colorful : Bool) (output : Marshal → Marshal.Output) :
    lineText colorful (j.pieces output) =
      (j.physicalLines colorful output).flatMap (· ++ [0x0a]) := by
  -- Each line below starts with the end of the one before it.
  have hBelow : ∀ lines : List String, belowText lines ++ [0x0a] =
      0x0a :: (lines.map fun line => utf8 ("    " ++ line)).flatMap (· ++ [0x0a]) := by
    intro lines
    induction lines with
    | nil => rfl
    | cons line r ih =>
      have hLine : utf8 ("\n    " ++ line) = 0x0a :: utf8 ("    " ++ line) := by
        rw [Text.utf8_append, Text.utf8_append]
        rfl
      rw [belowText, List.flatMap_cons, List.append_assoc]
      rw [← belowText, ih, hLine]
      simp
  rw [pieces, lineText, List.flatMap_append, List.flatMap_singleton]
  show lineText colorful (j.firstPieces output) ++ (belowText _ ++ [0x0a]) = _
  rw [hBelow, physicalLines, List.flatMap_cons, List.append_assoc]
  rfl

variable {slack : Nat} {mode : FormatMode} {output : Marshal → Marshal.Output} {j : Job}

theorem Unbroken.notMem_lastTexts (hj : j.Unbroken)
    (hLeaves : Value.LeavesOf (Value.FieldLeaf slack mode output) j.given) :
    ∀ text ∈ j.lastTexts output, 0x0a ∉ text := by
  intro text hText
  rcases List.mem_append.mp hText with hAttr | hCaller
  · obtain ⟨leaf, hLeaf, rfl⟩ := List.mem_map.mp hAttr
    obtain ⟨a, ha, hFlat⟩ := Value.mem_flattenAll.mp hLeaf
    have hGiven := Value.mem_flattenAll.mpr ⟨a, Attr.mem_of_mem_resolve ha, hFlat⟩
    obtain ⟨hKey, hGroups⟩ := hj.keys leaf hGiven
    obtain ⟨hGroup, hValue⟩ := Value.isLeaf_of_mem_flattenAll _ hGiven
    exact Leaf.notMem_text hGroup (hValue hLeaves) hKey hGroups
  · cases hRecord : j.record.caller with
    | none =>
      rw [hRecord] at hCaller
      cases hCaller
    | some caller =>
      obtain ⟨hFile, hFunction⟩ := hj.caller caller hRecord
      rw [hRecord] at hCaller
      rw [List.mem_singleton.mp hCaller]
      refine Caller.notMem_text hFile ?_
      rwa [Caller.function_redacted]

theorem notMem_lineText {pieces : List Piece} (h : ∀ piece ∈ pieces, 0x0a ∉ piece.text true)
    (colorful : Bool) : 0x0a ∉ lineText colorful pieces := by
  rw [lineText, List.mem_flatMap]
  rintro ⟨piece, hPiece, hMem⟩
  cases piece with
  | kept text => exact h _ hPiece hMem
  | added text =>
    cases colorful with
    | false => cases hMem
    | true => exact h _ hPiece hMem

theorem notMem_coloredPieces (j : Job) {text : List UInt8} (h : 0x0a ∉ text) :
    ∀ piece ∈ j.coloredPieces text, 0x0a ∉ piece.text true := by
  simp [coloredPieces, Piece.text, h, Color.notMem_startText, Color.notMem_endText]

theorem Unbroken.notMem_firstPieces (hj : j.Unbroken)
    (hLeaves : Value.LeavesOf (Value.FieldLeaf slack mode output) j.given) :
    ∀ piece ∈ j.firstPieces output, 0x0a ∉ piece.text true := by
  have hSpaces : ∀ n, 0x0a ∉ spaces n :=
    fun n hMem => absurd (List.eq_of_mem_replicate hMem) (by decide)
  have hName : ∀ piece ∈ j.namePieces, 0x0a ∉ piece.text true := by
    have hLogger := hj.logger.utf8
    unfold namePieces
    split
    · split <;> simp [Piece.text, hSpaces]
    · simp [Piece.text, hLogger, hSpaces]
  have hTag : 0x0a ∉ tagText j.tag :=
    ((OneLine.append (by decide) hj.tag).append (by decide)).utf8
  have hFirst : OneLine (firstLine j.record.message) :=
    (splits j.record.message).notMem _ List.mem_cons_self
  have hLast : 0x0a ∉ (j.lastTexts output).flatMap (0x20 :: ·) := by
    rw [← joined_false]
    exact notMem_joined (by decide) (hj.notMem_lastTexts hLeaves) false
  refine List.forall_mem_cons.mpr ⟨hj.time.utf8, ?_⟩
  simp only [List.forall_mem_append]
  exact ⟨hName, j.notMem_coloredPieces hTag, j.notMem_coloredPieces hFirst.utf8,
    List.forall_mem_cons.mpr ⟨hSpaces _, List.forall_mem_singleton.mpr hLast⟩⟩

theorem Unbroken.notMem_physicalLines (hj : j.Unbroken)
    (hLeaves : Value.LeavesOf (Value.FieldLeaf slack mode output) j.given) (colorful : Bool) :
    ∀ line ∈ j.physicalLines colorful output, 0x0a ∉ line := by
  refine List.forall_mem_cons.mpr ⟨notMem_lineText (hj.notMem_firstPieces hLeaves) colorful,
    fun text hText => ?_⟩
  obtain ⟨line, hLine, rfl⟩ := List.mem_map.mp hText
  have hBelow : OneLine line := (splits j.record.message).notMem _
    (List.mem_cons_of_mem _ (List.mem_map_of_mem hLine))
  exact (OneLine.append (by decide) hBelow).utf8

/-- A record takes the lines of its message, in their order and with nothing between them: the first
one with all of its attributes, and one for each line feed but one at the end of the message. -/
theorem run_physicalLines (j : Job) (c : Canvas) (colorful : Bool) (hj : j.Unbroken)
    (hLeaves : Value.LeavesOf (Value.FieldLeaf slack (.readable colorful) output) j.given) :
    Delivers slack ((j.physicalLines colorful output).flatMap (· ++ [0x0a]))
        ((j.inFormat (.readable colorful)).run c) ∧
      (∀ line ∈ j.physicalLines colorful output, 0x0a ∉ line) ∧
      Splits j.record.message.toList (firstLine j.record.message).toList
        ((linesBelow j.record.message).map String.toList) ∧
      (j.physicalLines colorful output).length +
          (if j.record.message.toList.getLast? = some '\n' then 1 else 0) =
        1 + j.record.message.toList.count '\n' := by
  refine ⟨?_, hj.notMem_physicalLines hLeaves colorful, splits j.record.message, ?_⟩
  · rw [← lineText_pieces]
    cases colorful with
    | false => exact j.plain_line c hLeaves
    | true => exact j.colorful_line c hLeaves
  · rw [← (splits j.record.message).length_add, Job.physicalLines, List.length_cons,
      List.length_map, List.length_map]
    omega

theorem unbroken_ofLines : ofLines.Unbroken where
  time := by decide +kernel
  logger := by decide
  tag := by decide +kernel
  keys := by
    intro leaf hLeaf
    rcases List.mem_cons.mp hLeaf with rfl | hRest
    · decide
    · rw [List.mem_singleton.mp hRest]
      decide
  caller := by
    rintro _ ⟨⟩
    decide +kernel

theorem run_physicalLines_of_lines :
    ofLines.Unbroken ∧
      Value.LeavesOf (Value.FieldLeaf 5 (.readable false) fun _ => .pair) ofLines.given ∧
      Delivers 5 ([utf8 ("1970-01-01T00:00:00Z api [INF] ok" ++
        " request.at=\"1970-01-01T00:00:00.000000000Z\" request.size=[3,4] ~/lib.rs:3 main"),
        utf8 "    ", utf8 "    then"].flatMap (· ++ [0x0a]))
        ((ofLines.inFormat .plain).run .new) := by
  have hLines := run_physicalLines ofLines .new false unbroken_ofLines (leavesOf_lines .plain)
  refine ⟨unbroken_ofLines, leavesOf_lines .plain, ?_⟩
  refine (congrArg (Delivers 5 · _) ?_).mp hLines.1
  decide +kernel

end Job

end Logline
