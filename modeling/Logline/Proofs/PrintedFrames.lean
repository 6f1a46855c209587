import Logline.Proofs.FrameLines
import Logline.Proofs.MessageLines
import Mathlib.Data.List.Forall2

/-! # Printed backtraces

Backtraces as they are printed: every frame has a line with its index and its name, and below it a
line for each of its places and any lines that have neither shape. What is read from such a text are
the frames that were printed, each with the first of its places whose line number fits.
-/

namespace Logline.Backtrace

open Text (isBlank splitLines dropReturn splitLines_break splitLines_of_notMem)

structure Location where
  indent : String
  file : String
  line : Nat
  column : Nat

namespace Location

variable (l : Location)

def text : String :=
  l.indent ++ "at " ++ l.file ++ ":" ++ toString l.line ++ ":" ++ toString l.column

structure Printable : Prop where
  indented : l.indent ≠ ""
  blanks : Blanks l.indent.toList
  file : l.file ≠ ""
  solid : ∀ c ∈ l.file.toList.head?, ¬ isBlank c

/-- The place, if its line number fits. -/
def place? : Option (String × Nat) := if l.line < 2 ^ 32 then some (l.file, l.line) else none

theorem toList_text : l.text.toList = l.indent.toList ++ 'a' :: 't' :: ' ' :: (l.file.toList ++
    ':' :: (Nat.toDigits 10 l.line ++ ':' :: Nat.toDigits 10 l.column)) := by
  simp [text]

end Location

/-- A line below that of a frame. -/
inductive Item where
  | location (l : Location)
  | other (line : String)

namespace Item

def text : Item → String
  | location l => l.text
  | other line => line

inductive Printable : Item → Prop
  | location {l : Location} : l.Printable → Printable (location l)
  | other {line : String} : ¬ IsFrameLine line.toList → ¬ IsPlaceLine line.toList →
      Printable (other line)

def place? : Item → Option (String × Nat)
  | location l => l.place?
  | other _ => none

end Item

structure PrintedFrame where
  indent : String
  index : Nat
  gap : String
  name : String
  items : List Item

namespace PrintedFrame

variable (p : PrintedFrame)

def header : String := p.indent ++ toString p.index ++ ":" ++ p.gap ++ p.name

def lines : List String := p.header :: p.items.map Item.text

structure Printable : Prop where
  indent : Blanks p.indent.toList
  gapped : p.gap ≠ ""
  gap : Blanks p.gap.toList
  name : p.name ≠ ""
  ends : Text.Ends p.name.toList
  items : ∀ item ∈ p.items, item.Printable

def place? : Option (String × Nat) := p.items.findSome? Item.place?

/-- The frame has the printed name, without a hash at its end, and the first place that fits. -/
def Shows (f : Frame) : Prop := Unhashed p.name.toList f.function.toList ∧ f.place = p.place?

theorem toList_header : p.header.toList = p.indent.toList ++ (Nat.toDigits 10 p.index ++
    ':' :: (p.gap.toList ++ p.name.toList)) := by
  simp [header]

end PrintedFrame

/-- The text has these lines: each ends in a line feed, with a carriage return or without one, and
the last one may have no end. -/
inductive Spells : List String → String → Prop
  | nil : Spells [] ""
  | last {line : String} : line ≠ "" → '\n' ∉ line.toList → Spells [line] line
  | lineFeed {line text : String} {lines : List String} : '\n' ∉ line.toList →
      line.toList.getLast? ≠ some '\r' → Spells lines text →
      Spells (line :: lines) (line ++ "\n" ++ text)
  | carriageReturn {line text : String} {lines : List String} : '\n' ∉ line.toList →
      Spells lines text → Spells (line :: lines) (line ++ "\r\n" ++ text)

theorem Spells.splitLines {lines : List String} {text : String} (h : Spells lines text) :
    splitLines text.toList = lines.map String.toList := by
  induction h with
  | nil => rfl
  | @last line hNonempty hLine =>
    have hChars : line.toList ≠ [] := fun hNil => hNonempty (String.toList_inj.mp hNil)
    rw [splitLines_of_notMem hLine, if_neg hChars, List.map_singleton]
  | @lineFeed line text lines hLine hReturn _ ih =>
    have hText : (line ++ "\n" ++ text).toList = line.toList ++ '\n' :: text.toList := by simp
    rw [hText, splitLines_break hLine, dropReturn, if_neg hReturn, ih, List.map_cons]
  | @carriageReturn line text lines hLine _ ih =>
    have hText : (line ++ "\r\n" ++ text).toList =
        (line.toList ++ ['\r']) ++ '\n' :: text.toList := by simp
    have hWhole : '\n' ∉ line.toList ++ ['\r'] := by simpa using hLine
    rw [hText, splitLines_break hWhole, dropReturn, if_pos (List.getLast?_concat ..),
      List.dropLast_concat, ih, List.map_cons]

/-! ## One line -/

variable {line name : List Char}

theorem addLine_of_frame (h : frameLine? line = some name) (frames : List Frame) :
    addLine frames line = ⟨String.ofList (dropHash name), none⟩ :: frames := by
  unfold addLine
  rw [h]

theorem addLine_of_place {file digits : List Char} (hFrame : frameLine? line = none)
    (hPlace : placeLine? line = some (file, digits)) (function : String)
    (place : Option (String × Nat)) (rest : List Frame) :
    addLine (⟨function, place⟩ :: rest) line =
      ⟨function, place.or ((lineOf? digits).map fun n => (String.ofList file, n))⟩ :: rest := by
  unfold addLine
  split
  next hName => cases hFrame.symm.trans hName
  next => cases place <;> simp [hPlace]

theorem addLine_unchanged {frames : List Frame} (hFrame : ¬ IsFrameLine line)
    (h : frames = [] ∨ ¬ IsPlaceLine line) : addLine frames line = frames := by
  rw [← frameLine?_eq_none_iff] at hFrame
  rw [← placeLine?_eq_none_iff] at h
  unfold addLine
  split
  next hName => cases hFrame.symm.trans hName
  next =>
    split
    next hPlace =>
      rcases h with hFrames | hNowhere
      · cases hFrames
      · cases hNowhere.symm.trans hPlace
    next => rfl

theorem frameLine?_header {p : PrintedFrame} (hp : p.Printable) :
    frameLine? p.header.toList = some p.name.toList := by
  have hGapped : p.gap.toList ≠ [] := fun hNil => hp.gapped (String.toList_inj.mp hNil)
  have hName : p.name.toList ≠ [] := fun hNil => hp.name (String.toList_inj.mp hNil)
  rw [p.toList_header]
  exact frameLine?_printed hp.indent (isNumber_toDigits _) hGapped hp.gap hName hp.ends

theorem addLine_location {l : Location} (hl : l.Printable) (function : String)
    (place : Option (String × Nat)) (rest : List Frame) :
    addLine (⟨function, place⟩ :: rest) l.text.toList =
      ⟨function, place.or l.place?⟩ :: rest := by
  have hIndented : l.indent.toList ≠ [] := fun hNil => hl.indented (String.toList_inj.mp hNil)
  have hFile : l.file.toList ≠ [] := fun hNil => hl.file (String.toList_inj.mp hNil)
  have hPlace := placeLine?_printed hIndented hl.blanks hFile hl.solid (isNumber_toDigits l.line)
    (isNumber_toDigits l.column)
  have hFits : l.place? = (lineOf? (Nat.toDigits 10 l.line)).map fun n =>
      (String.ofList l.file.toList, n) := by
    rw [lineOf?_toDigits, Location.place?]
    split <;> simp
  rw [l.toList_text, hFits]
  exact addLine_of_place (frameLine?_at hl.blanks _) hPlace function place rest

theorem addLine_item {item : Item} (h : item.Printable) (function : String)
    (place : Option (String × Nat)) (rest : List Frame) :
    addLine (⟨function, place⟩ :: rest) item.text.toList =
      ⟨function, place.or item.place?⟩ :: rest := by
  cases h with
  | location hl => exact addLine_location hl function place rest
  | other hFrame hPlace =>
    rw [Item.text, addLine_unchanged hFrame (.inr hPlace), Item.place?, Option.or_none]

/-! ## All lines -/

/-- The frames after more lines. -/
def addLines (frames : List Frame) (lines : List String) : List Frame :=
  (lines.map String.toList).foldl addLine frames

theorem addLines_append (frames : List Frame) (lines more : List String) :
    addLines frames (lines ++ more) = addLines (addLines frames lines) more := by
  rw [addLines, List.map_append, List.foldl_append, addLines, addLines]

theorem addLines_first {before : List String} (h : ∀ line ∈ before, ¬ IsFrameLine line.toList) :
    addLines [] before = [] := by
  induction before with
  | nil => rfl
  | cons line before ih =>
    obtain ⟨hLine, hBefore⟩ := List.forall_mem_cons.mp h
    rw [addLines, List.map_cons, List.foldl_cons, addLine_unchanged hLine (.inl rfl)]
    exact ih hBefore

theorem addLines_items {items : List Item} (h : ∀ item ∈ items, item.Printable)
    (function : String) (place : Option (String × Nat)) (rest : List Frame) :
    addLines (⟨function, place⟩ :: rest) (items.map Item.text) =
      ⟨function, place.or (items.findSome? Item.place?)⟩ :: rest := by
  induction items generalizing place with
  | nil => rw [List.findSome?_nil, Option.or_none]; rfl
  | cons item items ih =>
    obtain ⟨hItem, hItems⟩ := List.forall_mem_cons.mp h
    rw [List.map_cons, addLines, List.map_cons, List.foldl_cons, addLine_item hItem,
      List.findSome?_cons]
    refine (ih hItems _).trans ?_
    cases item.place? <;> simp

theorem addLines_frame {p : PrintedFrame} (hp : p.Printable) (frames : List Frame) :
    addLines frames p.lines = ⟨String.ofList (dropHash p.name.toList), p.place?⟩ :: frames := by
  have hItems := addLines_items hp.items (String.ofList (dropHash p.name.toList)) none frames
  rw [Option.none_or] at hItems
  rw [PrintedFrame.lines, addLines, List.map_cons, List.foldl_cons,
    addLine_of_frame (frameLine?_header hp)]
  exact hItems

theorem addLines_frames {printed : List PrintedFrame} (h : ∀ p ∈ printed, p.Printable)
    (frames : List Frame) : addLines frames (printed.flatMap PrintedFrame.lines) =
      (printed.map fun p => ⟨String.ofList (dropHash p.name.toList), p.place?⟩).reverse ++
        frames := by
  induction printed generalizing frames with
  | nil => rfl
  | cons p printed ih =>
    obtain ⟨hp, hPrinted⟩ := List.forall_mem_cons.mp h
    rw [List.flatMap_cons, addLines_append, addLines_frame hp, ih hPrinted]
    simp

/-- A printed backtrace is read back: its frames in their order, each with the name that was
printed, without a hash, and with the first place whose line number fits. Lines before the first
frame, and below a frame lines of neither shape, change nothing. -/
theorem frames_printed {before : List String} {printed : List PrintedFrame} {text : String}
    (hBefore : ∀ line ∈ before, ¬ IsFrameLine line.toList)
    (hPrinted : ∀ p ∈ printed, p.Printable)
    (hText : Spells (before ++ printed.flatMap PrintedFrame.lines) text) :
    List.Forall₂ PrintedFrame.Shows printed (frames text) := by
  have hFrames : frames text =
      printed.map fun p => ⟨String.ofList (dropHash p.name.toList), p.place?⟩ := by
    rw [frames, hText.splitLines, ← addLines, addLines_append, addLines_first hBefore,
      addLines_frames hPrinted, List.append_nil, List.reverse_reverse]
  rw [hFrames, List.forall₂_map_right_iff, List.forall₂_same]
  intro p _
  exact ⟨by rw [String.toList_ofList]; exact unhashed_dropHash _, rfl⟩

/-- A hash, a file with colons and numbers, a line number that does not fit, both ends of lines. -/
theorem frames_printed_of_colons :
    let p : PrintedFrame := ⟨"  ", 0, " ", "f::h0123456789abcdef",
      [.location ⟨" ", "a:1", 4294967296, 1⟩, .other "note", .location ⟨"\t", "C:7:9 b", 17, 5⟩]⟩
    let text := " at a:1:2" ++ "\n" ++ ("  0: f::h0123456789abcdef" ++ "\r\n" ++
      (" at a:1:4294967296:1" ++ "\n" ++ ("note" ++ "\r\n" ++ "\tat C:7:9 b:17:5")))
    (¬ IsFrameLine " at a:1:2".toList ∧ p.Printable ∧ Spells ([" at a:1:2"] ++ p.lines) text) ∧
      List.Forall₂ PrintedFrame.Shows [p] (frames text) ∧
      frames text = [⟨"f", some ("C:7:9 b", 17)⟩] := by
  intro p text
  have hBefore : ¬ IsFrameLine " at a:1:2".toList := by decide
  have hItems : ∀ item ∈ p.items, item.Printable := by
    have hHuge : Location.Printable ⟨" ", "a:1", 4294967296, 1⟩ :=
      ⟨by decide, by decide, by decide, fun c hc => Option.some.inj hc ▸ by decide⟩
    have hFits : Location.Printable ⟨"\t", "C:7:9 b", 17, 5⟩ :=
      ⟨by decide, by decide, by decide, fun c hc => Option.some.inj hc ▸ by decide⟩
    refine List.forall_mem_cons.mpr ⟨.location hHuge, List.forall_mem_cons.mpr ⟨?_, ?_⟩⟩
    · exact .other (by decide) (by decide)
    · exact List.forall_mem_singleton.mpr (.location hFits)
  have hPrinted : p.Printable :=
    ⟨by decide, by decide, by decide, by decide, by decide, hItems⟩
  have hText : Spells ([" at a:1:2"] ++ p.lines) text := by
    have hLines : [" at a:1:2"] ++ p.lines = [" at a:1:2", "  0: f::h0123456789abcdef",
        " at a:1:4294967296:1", "note", "\tat C:7:9 b:17:5"] := by decide +kernel
    rw [hLines]
    exact .lineFeed (by decide) (by decide) (.carriageReturn (by decide) (.lineFeed (by decide)
      (by decide) (.carriageReturn (by decide) (.last (by decide) (by decide)))))
  have hLines : p.lines = [p].flatMap PrintedFrame.lines := by simp
  refine ⟨⟨hBefore, hPrinted, hText⟩, ?_, by decide +kernel⟩
  rw [hLines] at hText
  exact frames_printed (List.forall_mem_singleton.mpr hBefore)
    (List.forall_mem_singleton.mpr hPrinted) hText

/-- A place without a column has none of the printed shapes, and is the place of its frame. -/
theorem frames_of_missing_column :
    (∀ l : Location, l.text ≠ " at a:5") ∧
      (∀ p : PrintedFrame, p.Printable → p.header ≠ " at a:5") ∧
      frames "0: f\n at a:5\n" = [⟨"f", some ("a", 5)⟩] := by
  refine ⟨fun l hText => ?_, fun p hp hHeader => ?_, by decide +kernel⟩
  · have hTwo : 2 ≤ l.text.toList.count ':' := by
      rw [l.toList_text]
      simp only [List.count_append, List.count_cons_self, List.count_cons]
      omega
    have hOne : " at a:5".toList.count ':' = 1 := by decide
    rw [hText, hOne] at hTwo
    exact absurd hTwo (by decide)
  · have hName := frameLine?_header hp
    have hNone : frameLine? " at a:5".toList = none := by decide
    rw [hHeader, hNone] at hName
    cases hName

end Logline.Backtrace
