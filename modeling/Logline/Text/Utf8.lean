/-! # Text and its bytes

The UTF-8 form of a text as a list of bytes, and the lossy way back: every maximal piece that is
no character becomes one replacement character.
-/

namespace Logline.Text

def utf8 (s : String) : List UInt8 := s.toByteArray.data.toList

theorem utf8_append (s t : String) : utf8 (s ++ t) = utf8 s ++ utf8 t := by
  simp [utf8, String.toByteArray_append]

@[simp] theorem utf8_empty : utf8 "" = [] := rfl

/-- The first `n` bytes of a text, which end with a character. -/
def firstBytes (n : Nat) (s : String) : String :=
  (String.fromUTF8? (s.toByteArray.extract 0 n)).getD s

theorem firstBytes_append (s t : String) : firstBytes s.utf8ByteSize (s ++ t) = s := by
  have hBytes : (s ++ t).toByteArray.extract 0 s.utf8ByteSize = s.toByteArray := by
    rw [String.toByteArray_append]
    exact ByteArray.extract_append_eq_left rfl
  rw [firstBytes, hBytes, String.fromUTF8?, dif_pos s.isValidUTF8]
  rfl

/-- What a lead byte announces: the number of continuation bytes, the range of the first of
them, and the bits that the lead byte itself carries. -/
structure Lead where
  rest : Nat
  low : UInt8
  high : UInt8
  bits : Nat

def Lead.ofByte? (b : UInt8) : Option Lead :=
  if b < 0x80 then some ⟨0, 0x80, 0xbf, b.toNat⟩
  else if b < 0xc2 then none
  else if b < 0xe0 then some ⟨1, 0x80, 0xbf, b.toNat % 32⟩
  else if b = 0xe0 then some ⟨2, 0xa0, 0xbf, 0⟩
  else if b = 0xed then some ⟨2, 0x80, 0x9f, 13⟩
  else if b < 0xf0 then some ⟨2, 0x80, 0xbf, b.toNat % 16⟩
  else if b = 0xf0 then some ⟨3, 0x90, 0xbf, 0⟩
  else if b < 0xf4 then some ⟨3, 0x80, 0xbf, b.toNat % 8⟩
  else if b = 0xf4 then some ⟨3, 0x80, 0x8f, 4⟩
  else none

/-- Reads `n` continuation bytes, the first one within `low` and `high`, and stops before the
first byte that is none. -/
def continuation : Nat → UInt8 → UInt8 → Nat → List UInt8 → Option Nat × List UInt8
  | 0, _, _, acc, r => (some acc, r)
  | _ + 1, _, _, _, [] => (none, [])
  | n + 1, low, high, acc, b :: r =>
    if low ≤ b ∧ b ≤ high then continuation n 0x80 0xbf (acc * 64 + b.toNat % 64) r
    else (none, b :: r)

theorem continuation_length (n : Nat) (low high : UInt8) (acc : Nat) (r : List UInt8) :
    (continuation n low high acc r).2.length ≤ r.length := by
  fun_induction continuation n low high acc r with
  | case1 => exact Nat.le_refl _
  | case2 => exact Nat.le_refl _
  | case3 n low high acc b r h ih => exact Nat.le_succ_of_le ih
  | case4 => exact Nat.le_refl _

/-- The characters of `bytes`, with one replacement character for each maximal piece that
is no character. -/
def lossyChars : List UInt8 → List Char
  | [] => []
  | b :: r =>
    match Lead.ofByte? b with
    | none => '\ufffd' :: lossyChars r
    | some lead =>
      let read := continuation lead.rest lead.low lead.high lead.bits r
      ((read.1.map Char.ofNat).getD '\ufffd') :: lossyChars read.2
termination_by bytes => bytes.length
decreasing_by
  · simp
  · exact Nat.lt_succ_of_le (continuation_length _ _ _ _ _)

def lossy (bytes : List UInt8) : String := String.ofList (lossyChars bytes)

end Logline.Text
