import Logline.Proofs.QuotedText
import Mathlib.Data.List.DropRight

/-! # Reading JSON texts

What a text of a value reads as does not depend on what follows it, as long as that is a comma or a
closing bracket. Texts of arrays and objects are put together from those of their items and
members, and so is what they read as.
-/

namespace Logline.Json

/-- What may follow a value. -/
def Stops : List UInt8 → Prop
  | [] => True
  | b :: _ => b = 0x2c ∨ b = 0x5d ∨ b = 0x7d

/-- A text reads as `raw`, with blanks left at most. -/
def Reads (text : List UInt8) (raw : Raw) : Prop :=
  ∀ (rest : List UInt8) (n : Nat), Stops rest → text.length < n →
    ∃ blanks, (∀ b ∈ blanks, isSpace b = true) ∧
      readValue n (text ++ rest) = some (raw, blanks ++ rest)

def ReadsString (text : List UInt8) (units : List CodeUnit) : Prop :=
  ∃ inside, text = 0x22 :: (inside ++ [0x22]) ∧
    ∀ rest, readString (inside ++ 0x22 :: rest) = some (units, rest)

def ReadsMember (text : List UInt8) (member : List CodeUnit × Raw) : Prop :=
  ∃ key value, text = key ++ 0x3a :: value ∧ ReadsString key member.1 ∧ Reads value member.2

theorem skipSpaces_blanks {blanks rest : List UInt8} (hBlanks : ∀ b ∈ blanks, isSpace b = true)
    (hRest : Stops rest) : skipSpaces (blanks ++ rest) = rest := by
  induction blanks with
  | nil =>
    cases rest with
    | nil => rfl
    | cons b r => rcases hRest with rfl | rfl | rfl <;> rfl
  | cons b r ih =>
    have hSpace : isSpace b = true := hBlanks b List.mem_cons_self
    rw [List.cons_append, skipSpaces, List.dropWhile_cons_of_pos hSpace]
    exact ih fun d hd => hBlanks d (List.mem_cons_of_mem _ hd)

/-- A reader that leaves nothing, in the form in which values are read. -/
theorem reads_of_readValue {text : List UInt8} {raw : Raw}
    (h : ∀ rest n, Stops rest → text.length ≤ n →
      readValue (n + 1) (text ++ rest) = some (raw, rest)) :
    Reads text raw := by
  intro rest n hRest hLength
  obtain ⟨m, rfl⟩ : ∃ m, n = m + 1 := ⟨n - 1, by omega⟩
  exact ⟨[], by simp, h rest m hRest (by omega)⟩

theorem reads_null : Reads [0x6e, 0x75, 0x6c, 0x6c] .null :=
  reads_of_readValue fun _ _ _ _ => rfl

theorem reads_true : Reads [0x74, 0x72, 0x75, 0x65] (.bool true) :=
  reads_of_readValue fun _ _ _ _ => rfl

theorem reads_false : Reads [0x66, 0x61, 0x6c, 0x73, 0x65] (.bool false) :=
  reads_of_readValue fun _ _ _ _ => rfl

theorem reads_string {text : List UInt8} {units : List CodeUnit} (h : ReadsString text units) :
    Reads text (.string units) := by
  obtain ⟨inside, rfl, hInside⟩ := h
  refine reads_of_readValue fun rest n _ _ => ?_
  have hRead := hInside rest
  rw [List.cons_append, List.append_assoc, List.singleton_append]
  show (readString (inside ++ 0x22 :: rest)).map _ = _
  rw [hRead]
  rfl

theorem readItems_last {text : List UInt8} {raw : Raw} (hItem : Reads text raw) {n : Nat}
    (hLength : text.length < n) (rest : List UInt8) :
    readItems (n + 1) (text ++ 0x5d :: rest) = some ([raw], rest) := by
  have hStops : Stops (0x5d :: rest) := .inr (.inl rfl)
  obtain ⟨blanks, hBlanks, hRead⟩ := hItem (0x5d :: rest) n hStops hLength
  rw [readItems, hRead]
  simp [skipSpaces_blanks hBlanks hStops]

theorem readItems_more {text : List UInt8} {raw : Raw} (hItem : Reads text raw) {n : Nat}
    (hLength : text.length < n) {r rest : List UInt8} {raws : List Raw}
    (hRest : readItems n r = some (raws, rest)) :
    readItems (n + 1) (text ++ 0x2c :: r) = some (raw :: raws, rest) := by
  have hStops : Stops (0x2c :: r) := .inl rfl
  obtain ⟨blanks, hBlanks, hRead⟩ := hItem (0x2c :: r) n hStops hLength
  rw [readItems, hRead]
  simp [skipSpaces_blanks hBlanks hStops, hRest]

theorem readItems_joined {texts : List (List UInt8)} {raws : List Raw}
    (hItems : List.Forall₂ Reads texts raws) (hNonempty : texts ≠ []) {n : Nat}
    (hLength : (joined 0x2c true texts).length + 1 < n) (rest : List UInt8) :
    readItems n (joined 0x2c true texts ++ 0x5d :: rest) = some (raws, rest) := by
  induction hItems generalizing n with
  | nil => exact absurd rfl hNonempty
  | @cons text raw texts raws hItem hItems ih =>
    obtain ⟨m, rfl⟩ : ∃ m, n = m + 1 := ⟨n - 1, by omega⟩
    cases hItems with
    | nil =>
      have hText : joined 0x2c true [text] = text := by simp [joined]
      rw [hText] at hLength ⊢
      exact readItems_last hItem (by omega) rest
    | @cons next _ more _ =>
      have hText : joined 0x2c true (text :: next :: more) =
          text ++ 0x2c :: joined 0x2c true (next :: more) := rfl
      rw [hText] at hLength ⊢
      rw [List.length_append, List.length_cons] at hLength
      rw [List.append_assoc, List.cons_append]
      exact readItems_more hItem (by omega) (ih (by simp) (by omega))

/-- No value starts with a closing bracket. -/
theorem readValue_close (n : Nat) {s r : List UInt8} (hSpaces : skipSpaces s = 0x5d :: r) :
    readValue n s = none := by
  cases n with
  | zero => rw [readValue]
  | succ n =>
    rw [readValue, hSpaces]
    rfl

theorem skipSpaces_skipSpaces (s : List UInt8) : skipSpaces (skipSpaces s) = skipSpaces s :=
  List.dropWhile_idempotent isSpace s

theorem readValue_skipSpaces (n : Nat) (s : List UInt8) :
    readValue n (skipSpaces s) = readValue n s := by
  cases n with
  | zero => rw [readValue, readValue]
  | succ n => rw [readValue, readValue, skipSpaces_skipSpaces]

theorem readItems_skipSpaces (n : Nat) (s : List UInt8) :
    readItems n (skipSpaces s) = readItems n s := by
  cases n with
  | zero => rw [readItems, readItems]
  | succ n => rw [readItems, readItems, readValue_skipSpaces]

theorem readMembers_skipSpaces (n : Nat) (s : List UInt8) :
    readMembers n (skipSpaces s) = readMembers n s := by
  cases n with
  | zero => rw [readMembers, readMembers]
  | succ n => rw [readMembers, readMembers, skipSpaces_skipSpaces]

theorem readValue_array {n : Nat} {s rest : List UInt8} {raws : List Raw}
    (h : readItems n s = some (raws, rest)) :
    readValue (n + 1) (0x5b :: s) = some (.array raws, rest) := by
  have hOpen : skipSpaces (0x5b :: s) = 0x5b :: s := rfl
  rw [readValue, hOpen]
  simp only
  split
  · rename_i r hClose
    have hNone : readItems n s = none := by
      cases n with
      | zero => rw [readItems]
      | succ n => rw [readItems, readValue_close n hClose]; rfl
    rw [hNone] at h
    cases h
  · rw [readItems_skipSpaces, h]
    rfl

theorem readValue_object {n : Nat} {s rest : List UInt8} {members : List (List CodeUnit × Raw)}
    (h : readMembers n s = some (members, rest)) :
    readValue (n + 1) (0x7b :: s) = some (.object members, rest) := by
  have hOpen : skipSpaces (0x7b :: s) = 0x7b :: s := rfl
  rw [readValue, hOpen]
  simp only
  split
  · rename_i r hClose
    have hNone : readMembers n s = none := by
      cases n with
      | zero => rw [readMembers]
      | succ n => rw [readMembers, hClose]; rfl
    rw [hNone] at h
    cases h
  · rw [readMembers_skipSpaces, h]
    rfl

theorem reads_array {texts : List (List UInt8)} {raws : List Raw}
    (hItems : List.Forall₂ Reads texts raws) :
    Reads (0x5b :: (joined 0x2c true texts ++ [0x5d])) (.array raws) := by
  refine reads_of_readValue fun rest n _ hLength => ?_
  rw [List.length_cons, List.length_append, List.length_singleton] at hLength
  rw [List.cons_append, List.append_assoc, List.singleton_append]
  cases hItems with
  | nil => rfl
  | cons hItem hItems =>
    exact readValue_array (readItems_joined (.cons hItem hItems) (by simp) (by omega) rest)

/-- A member is read up to its end, and what follows says whether there is another. -/
theorem readMembers_member {text : List UInt8} {member : List CodeUnit × Raw}
    (hMember : ReadsMember text member) {n : Nat} (hLength : text.length < n) {r : List UInt8} :
    Stops r → readMembers (n + 1) (text ++ r) =
      match r with
      | 0x2c :: r => (readMembers n r).map fun (members, rest) => (member :: members, rest)
      | 0x7d :: rest => some ([member], rest)
      | _ => none := by
  intro hStops
  obtain ⟨_, value, rfl, ⟨inside, rfl, hKey⟩, hValue⟩ := hMember
  simp only [List.length_append, List.length_cons] at hLength
  obtain ⟨blanks, hBlanks, hRead⟩ := hValue r n hStops (by omega)
  have hText : 0x22 :: (inside ++ [0x22]) ++ 0x3a :: value ++ r =
      0x22 :: (inside ++ 0x22 :: 0x3a :: (value ++ r)) := by simp
  have hOpen : ∀ r, skipSpaces (0x22 :: r) = 0x22 :: r := fun _ => rfl
  have hColon : ∀ r, skipSpaces (0x3a :: r) = 0x3a :: r := fun _ => rfl
  rw [hText, readMembers, hOpen]
  simp only [hKey, hColon, hRead, skipSpaces_blanks hBlanks hStops, Option.bind_eq_bind,
    Option.bind_some]
  split
  · exact Option.map_eq_bind.symm
  · rfl
  · simp

theorem readMembers_last {text : List UInt8} {member : List CodeUnit × Raw}
    (hMember : ReadsMember text member) {n : Nat} (hLength : text.length < n) (rest : List UInt8) :
    readMembers (n + 1) (text ++ 0x7d :: rest) = some ([member], rest) := by
  have hStops : Stops (0x7d :: rest) := .inr (.inr rfl)
  simp [readMembers_member hMember hLength hStops]

theorem readMembers_more {text : List UInt8} {member : List CodeUnit × Raw}
    (hMember : ReadsMember text member) {n : Nat} (hLength : text.length < n) {r rest : List UInt8}
    {members : List (List CodeUnit × Raw)} (hRest : readMembers n r = some (members, rest)) :
    readMembers (n + 1) (text ++ 0x2c :: r) = some (member :: members, rest) := by
  have hStops : Stops (0x2c :: r) := .inl rfl
  simp [readMembers_member hMember hLength hStops, hRest]

theorem readMembers_joined {texts : List (List UInt8)} {members : List (List CodeUnit × Raw)}
    (hMembers : List.Forall₂ ReadsMember texts members) (hNonempty : texts ≠ []) {n : Nat}
    (hLength : (joined 0x2c true texts).length + 1 < n) (rest : List UInt8) :
    readMembers n (joined 0x2c true texts ++ 0x7d :: rest) = some (members, rest) := by
  induction hMembers generalizing n with
  | nil => exact absurd rfl hNonempty
  | @cons text member texts members hMember hMembers ih =>
    obtain ⟨m, rfl⟩ : ∃ m, n = m + 1 := ⟨n - 1, by omega⟩
    cases hMembers with
    | nil =>
      have hText : joined 0x2c true [text] = text := by simp [joined]
      rw [hText] at hLength ⊢
      exact readMembers_last hMember (by omega) rest
    | @cons next _ more _ =>
      have hText : joined 0x2c true (text :: next :: more) =
          text ++ 0x2c :: joined 0x2c true (next :: more) := rfl
      rw [hText] at hLength ⊢
      rw [List.length_append, List.length_cons] at hLength
      rw [List.append_assoc, List.cons_append]
      exact readMembers_more hMember (by omega) (ih (by simp) (by omega))

theorem reads_object {texts : List (List UInt8)} {members : List (List CodeUnit × Raw)}
    (hMembers : List.Forall₂ ReadsMember texts members) :
    Reads (0x7b :: (joined 0x2c true texts ++ [0x7d])) (.object members) := by
  refine reads_of_readValue fun rest n _ hLength => ?_
  rw [List.length_cons, List.length_append, List.length_singleton] at hLength
  rw [List.cons_append, List.append_assoc, List.singleton_append]
  cases hMembers with
  | nil => rfl
  | cons hMember hMembers =>
    exact readValue_object (readMembers_joined (.cons hMember hMembers) (by simp) (by omega) rest)

theorem Reads.readDocument {text : List UInt8} {raw : Raw} (h : Reads text raw) :
    readDocument text = some raw := by
  obtain ⟨blanks, hBlanks, hRead⟩ := h [] (text.length + 1) trivial (Nat.lt_succ_self _)
  have hRest := skipSpaces_blanks hBlanks (show Stops [] from trivial)
  rw [List.append_nil] at hRead hRest
  rw [Json.readDocument, hRead]
  simp [hRest]

end Logline.Json
