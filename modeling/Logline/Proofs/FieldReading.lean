import Logline.Proofs.QuotedText

/-! # Reading fields

A reader for lines of `key=value` fields that knows nothing of how they are written. Its grammar
tells where every value ends, so what stands in a value cannot start a field.
-/

namespace Logline.Fields

open Buffer (quotedText)

/-- A byte of a key: a letter, a digit, an underscore, a point or a minus. -/
def isWord (b : UInt8) : Bool :=
  (Char.ofNat b.toNat).isAlphanum || b == 0x5f || b == 0x2e || b == 0x2d

/-- A byte of a value without quotes: no space, no control byte, no equals sign, no quote and no
backslash. -/
def isBare (b : UInt8) : Bool := 0x20 < b && b != 0x7f && b != 0x3d && b != 0x22 && b != 0x5c

/-- A quoted string, or at least one byte without quotes. -/
def readValue : List UInt8 → Option (List UInt8 × List UInt8)
  | 0x22 :: r => do
    let (units, rest) ← Json.readString r
    let bytes ← Json.unitBytes units
    some (bytes, rest)
  | s =>
    match s.takeWhile isBare with
    | [] => none
    | b :: r => some (b :: r, s.dropWhile isBare)

/-- A key that is not empty, an equals sign and a value. -/
def readField (s : List UInt8) : Option ((List UInt8 × List UInt8) × List UInt8) :=
  match s.takeWhile isWord, s.dropWhile isWord with
  | b :: r, 0x3d :: s => (readValue s).map fun (value, rest) => ((b :: r, value), rest)
  | _, _ => none

/-- At least one field up to the end of the line, with one space between two fields and `n` bounding
their number. -/
def readFields : Nat → List UInt8 → Option (List (List UInt8 × List UInt8))
  | 0, _ => none
  | n + 1, s => do
    let (field, r) ← readField s
    match r with
    | [] => some [field]
    | 0x20 :: r => (readFields n r).map (field :: ·)
    | _ => none

def fields? (line : List UInt8) : Option (List (List UInt8 × List UInt8)) :=
  readFields line.length line

/-- A value on a line: its bytes as they are, or quoted. -/
inductive Token : List UInt8 → List UInt8 → Prop
  | bare {bytes : List UInt8} : bytes ≠ [] → (∀ b ∈ bytes, isBare b = true) → Token bytes bytes
  | quoted (bytes : List UInt8) : Token (quotedText bytes) bytes

inductive SpellsField : List UInt8 → List UInt8 × List UInt8 → Prop
  | mk {key text value : List UInt8} : key ≠ [] → (∀ b ∈ key, isWord b = true) → Token text value →
      SpellsField (key ++ 0x3d :: text) (key, value)

inductive Behind : List UInt8 → Prop
  | nothing : Behind []
  | space (r : List UInt8) : Behind (0x20 :: r)

theorem takeWhile_exact {p : UInt8 → Bool} {xs rest : List UInt8} (h : ∀ b ∈ xs, p b = true)
    (hRest : rest.takeWhile p = []) : (xs ++ rest).takeWhile p = xs := by
  rw [List.takeWhile_append_of_pos h, hRest, List.append_nil]

theorem dropWhile_exact {p : UInt8 → Bool} {xs rest : List UInt8} (h : ∀ b ∈ xs, p b = true)
    (hRest : rest.dropWhile p = rest) : (xs ++ rest).dropWhile p = rest := by
  rw [List.dropWhile_append_of_pos h, hRest]

theorem Token.read {text bytes rest : List UInt8} (h : Token text bytes) (hRest : Behind rest) :
    readValue (text ++ rest) = some (bytes, rest) := by
  cases h with
  | quoted =>
    obtain ⟨units, hInside⟩ := ReadsInside.ofEscaped bytes
    obtain ⟨hBytes, hRead⟩ := hInside.close
    have hText : quotedText bytes ++ rest = 0x22 :: (Buffer.escaped bytes ++ 0x22 :: rest) := by
      simp [quotedText]
    rw [hText, readValue, hRead rest]
    simp [hBytes]
  | bare hNonempty hBare =>
    have hTake : rest.takeWhile isBare = [] := by cases hRest <;> rfl
    have hDrop : rest.dropWhile isBare = rest := by cases hRest <;> rfl
    have hTake := takeWhile_exact hBare hTake
    have hDrop := dropWhile_exact hBare hDrop
    obtain ⟨b, r, rfl⟩ := List.exists_cons_of_ne_nil hNonempty
    have hQuote : b ≠ 0x22 := by
      rintro rfl
      exact absurd (hBare 0x22 List.mem_cons_self) (by decide)
    rw [readValue, hTake, hDrop]
    exact fun _ hb => hQuote (List.cons.inj hb).1

theorem Token.oneLine {text bytes : List UInt8} (h : Token text bytes) : 0x0a ∉ text := by
  cases h with
  | quoted => exact Buffer.feed_notMem_quotedText bytes
  | bare _ hBare => exact fun hMem => absurd (hBare _ hMem) (by decide)

theorem SpellsField.read {text rest : List UInt8} {field : List UInt8 × List UInt8}
    (h : SpellsField text field) (hRest : Behind rest) :
    readField (text ++ rest) = some (field, rest) := by
  obtain ⟨hNonempty, hWord, hToken⟩ := h
  rename_i key text value
  have hTake : (key ++ 0x3d :: (text ++ rest)).takeWhile isWord = key := takeWhile_exact hWord rfl
  have hDrop : (key ++ 0x3d :: (text ++ rest)).dropWhile isWord = 0x3d :: (text ++ rest) :=
    dropWhile_exact hWord rfl
  rw [List.append_assoc, List.cons_append, readField, hTake, hDrop]
  obtain ⟨b, r, rfl⟩ := List.exists_cons_of_ne_nil hNonempty
  simp [hToken.read hRest]

theorem SpellsField.oneLine {text : List UInt8} {field : List UInt8 × List UInt8}
    (h : SpellsField text field) : 0x0a ∉ text := by
  obtain ⟨-, hWord, hToken⟩ := h
  intro hMem
  rcases List.mem_append.mp hMem with hKey | hRest
  · exact absurd (hWord _ hKey) (by decide)
  rcases List.mem_cons.mp hRest with hEquals | hText
  · cases hEquals
  · exact hToken.oneLine hText

theorem joined_cons (text : List UInt8) (texts : List (List UInt8)) :
    joined 0x20 true (text :: texts) = text ++ joined 0x20 false texts := rfl

/-- A reader finds its way from each field to the next one. -/
theorem readFields_joined {texts : List (List UInt8)} {fields : List (List UInt8 × List UInt8)}
    (h : List.Forall₂ SpellsField texts fields) (hNonempty : texts ≠ []) {n : Nat}
    (hn : texts.length ≤ n) : readFields n (joined 0x20 true texts) = some fields := by
  induction h generalizing n with
  | nil => exact absurd rfl hNonempty
  | @cons text field texts fields hField hFields ih =>
    obtain ⟨k, rfl⟩ : ∃ k, n = k + 1 := ⟨n - 1, by rw [List.length_cons] at hn; omega⟩
    cases texts with
    | nil =>
      cases hFields
      rw [joined_cons, readFields, joined, hField.read .nothing]
      rfl
    | cons next r =>
      have hNext := ih (List.cons_ne_nil _ _) (Nat.le_of_succ_le_succ hn)
      rw [joined_cons, readFields]
      show (readField (text ++ 0x20 :: joined 0x20 true (next :: r))).bind _ = _
      rw [hField.read (.space _), Option.bind_some]
      show (readFields k (joined 0x20 true (next :: r))).map (field :: ·) = _
      rw [hNext]
      rfl

theorem length_le_joined {texts : List (List UInt8)} {fields : List (List UInt8 × List UInt8)}
    (h : List.Forall₂ SpellsField texts fields) (first : Bool) :
    texts.length ≤ (joined 0x20 first texts).length := by
  induction h generalizing first with
  | nil => exact Nat.zero_le _
  | @cons text field texts fields hField _ ih =>
    have hRest := ih false
    have hText : 1 ≤ text.length := by
      obtain ⟨-, -, -⟩ := hField
      rw [List.length_append, List.length_cons]
      omega
    cases first with
    | true =>
      rw [joined, if_pos rfl, List.length_append, List.length_cons]
      omega
    | false =>
      rw [joined, if_neg Bool.false_ne_true, List.length_append, List.length_cons, List.length_cons]
      omega

theorem fields?_joined {texts : List (List UInt8)} {fields : List (List UInt8 × List UInt8)}
    (h : List.Forall₂ SpellsField texts fields) (hNonempty : texts ≠ []) :
    fields? (joined 0x20 true texts) = some fields :=
  readFields_joined h hNonempty (length_le_joined h true)

theorem oneLine_joined {texts : List (List UInt8)} {fields : List (List UInt8 × List UInt8)}
    (h : List.Forall₂ SpellsField texts fields) : 0x0a ∉ joined 0x20 true texts :=
  notMem_joined (by decide) (forall_of_forall₂ h fun _ _ h => h.oneLine) true

end Logline.Fields
