import Logline.Text.Utf8
import Mathlib.Data.List.Basic

/-! # Encoding and decoding texts

What is encoded comes back: the lossy decoder gives every text back from its bytes, and so does the
strict one. A byte below 128 stands for itself in both directions.
-/

namespace Logline.Text

theorem utf8_ofList (cs : List Char) :
    utf8 (String.ofList cs) = cs.flatMap String.utf8EncodeChar := by
  simp [utf8, List.utf8Encode]

theorem utf8_eq_flatMap (s : String) : utf8 s = s.toList.flatMap String.utf8EncodeChar := by
  rw [← utf8_ofList, String.ofList_toList]

theorem utf8EncodeChar_ascii {c : Char} (hc : c.toNat < 128) :
    String.utf8EncodeChar c = [UInt8.ofNat c.toNat] := by
  have hVal : c.val.toNat ≤ 127 := Nat.le_of_lt_succ hc
  simp only [String.utf8EncodeChar, hVal, if_true]
  rfl

theorem toNat_charOfNat {n : Nat} (hn : n < 128) : (Char.ofNat n).toNat = n := by
  rw [Char.ofNat, dif_pos (Or.inl (by omega))]
  rfl

def asciiBytes (cs : List Char) : List UInt8 := cs.map fun c => UInt8.ofNat c.toNat

theorem utf8_ascii {cs : List Char} (hAscii : ∀ c ∈ cs, c.toNat < 128) :
    utf8 (String.ofList cs) = asciiBytes cs := by
  rw [utf8_ofList]
  induction cs with
  | nil => rfl
  | cons c r ih =>
    rw [List.flatMap_cons, utf8EncodeChar_ascii (hAscii c (by simp)),
      ih fun d hd => hAscii d (List.mem_cons_of_mem _ hd)]
    rfl

theorem toNat_ofNat {n : Nat} (hn : n < 256) : (UInt8.ofNat n).toNat = n :=
  UInt8.toNat_ofNat_of_lt' hn

/-- The bytes of a character outside of the first 128 are all above them. -/
theorem le_of_mem_utf8EncodeChar {c : Char} (hc : 128 ≤ c.toNat) {b : UInt8}
    (hb : b ∈ String.utf8EncodeChar c) : 0x80 ≤ b := by
  have hVal : ¬ c.val.toNat ≤ 127 := Nat.not_le_of_gt hc
  have hByte : ∀ n, 128 ≤ n → n < 256 → 0x80 ≤ UInt8.ofNat n := by
    intro n hLow hHigh
    rw [UInt8.le_iff_toNat_le, toNat_ofNat hHigh]
    exact hLow
  simp only [String.utf8EncodeChar, hVal, if_false] at hb
  split at hb
  · simp only [List.mem_cons, List.not_mem_nil, or_false] at hb
    rcases hb with rfl | rfl <;> exact hByte _ (by omega) (by omega)
  · split at hb
    · simp only [List.mem_cons, List.not_mem_nil, or_false] at hb
      rcases hb with rfl | rfl | rfl <;> exact hByte _ (by omega) (by omega)
    · simp only [List.mem_cons, List.not_mem_nil, or_false] at hb
      rcases hb with rfl | rfl | rfl | rfl <;> exact hByte _ (by omega) (by omega)

/-! ## The lossy decoder -/

theorem ofByte?_ofNat {n : Nat} (hn : n < 256) :
    Lead.ofByte? (UInt8.ofNat n) =
      if n < 0x80 then some ⟨0, 0x80, 0xbf, n⟩
      else if n < 0xc2 then none
      else if n < 0xe0 then some ⟨1, 0x80, 0xbf, n % 32⟩
      else if n = 0xe0 then some ⟨2, 0xa0, 0xbf, 0⟩
      else if n = 0xed then some ⟨2, 0x80, 0x9f, 13⟩
      else if n < 0xf0 then some ⟨2, 0x80, 0xbf, n % 16⟩
      else if n = 0xf0 then some ⟨3, 0x90, 0xbf, 0⟩
      else if n < 0xf4 then some ⟨3, 0x80, 0xbf, n % 8⟩
      else if n = 0xf4 then some ⟨3, 0x80, 0x8f, 4⟩
      else none := by
  simp only [Lead.ofByte?, UInt8.lt_iff_toNat_lt, ← UInt8.toNat_inj, toNat_ofNat hn,
    UInt8.reduceToNat]

theorem continuation_ofNat {n k : Nat} (hn : n < 64) (low high : UInt8)
    (hLow : low.toNat ≤ n + 128) (hHigh : n + 128 ≤ high.toNat) (acc : Nat) (r : List UInt8) :
    continuation (k + 1) low high acc (UInt8.ofNat (n + 128) :: r) =
      continuation k 0x80 0xbf (acc * 64 + n) r := by
  have hNat : (UInt8.ofNat (n + 128)).toNat = n + 128 := toNat_ofNat (by omega)
  have hMod : (n + 128) % 64 = n := by omega
  rw [continuation, if_pos, hNat, hMod]
  rw [UInt8.le_iff_toNat_le, UInt8.le_iff_toNat_le, hNat]
  exact ⟨hLow, hHigh⟩

theorem continuation_any {n k : Nat} (hn : n < 64) (acc : Nat) (r : List UInt8) :
    continuation (k + 1) 0x80 0xbf acc (UInt8.ofNat (n + 128) :: r) =
      continuation k 0x80 0xbf (acc * 64 + n) r :=
  continuation_ofNat hn 0x80 0xbf (Nat.le_add_left _ _) (show n + 128 ≤ 191 by omega) acc r

theorem lossyChars_of_lead {b : UInt8} (lead : Lead) {v n : Nat} {r rest : List UInt8}
    (hLead : Lead.ofByte? b = some lead)
    (hRest : continuation lead.rest lead.low lead.high lead.bits r = (some n, rest)) (hv : n = v) :
    lossyChars (b :: r) = Char.ofNat v :: lossyChars rest := by
  rw [lossyChars, hLead]
  simp only [hRest, ← hv]
  rfl

theorem lossyChars_three {v : Nat} (lead : Lead)
    (hLead : Lead.ofByte? (UInt8.ofNat (v / 4096 % 16 + 224)) = some lead) (hRest : lead.rest = 2)
    (hBits : lead.bits = v / 4096) (hMin : lead.low.toNat ≤ v / 64 % 64 + 128)
    (hMax : v / 64 % 64 + 128 ≤ lead.high.toNat) (r : List UInt8) :
    lossyChars (UInt8.ofNat (v / 4096 % 16 + 224) :: UInt8.ofNat (v / 64 % 64 + 128) ::
      UInt8.ofNat (v % 64 + 128) :: r) = Char.ofNat v :: lossyChars r := by
  refine lossyChars_of_lead _ hLead (n := (v / 4096 * 64 + v / 64 % 64) * 64 + v % 64) ?_ (by omega)
  rw [hRest, hBits, continuation_ofNat (Nat.mod_lt _ (by decide)) _ _ hMin hMax,
    continuation_any (Nat.mod_lt _ (by decide))]
  rfl

theorem lossyChars_four {v : Nat} (lead : Lead)
    (hLead : Lead.ofByte? (UInt8.ofNat (v / 262144 % 8 + 240)) = some lead) (hRest : lead.rest = 3)
    (hBits : lead.bits = v / 262144) (hMin : lead.low.toNat ≤ v / 4096 % 64 + 128)
    (hMax : v / 4096 % 64 + 128 ≤ lead.high.toNat) (r : List UInt8) :
    lossyChars (UInt8.ofNat (v / 262144 % 8 + 240) :: UInt8.ofNat (v / 4096 % 64 + 128) ::
      UInt8.ofNat (v / 64 % 64 + 128) :: UInt8.ofNat (v % 64 + 128) :: r) =
      Char.ofNat v :: lossyChars r := by
  refine lossyChars_of_lead _ hLead
    (n := ((v / 262144 * 64 + v / 4096 % 64) * 64 + v / 64 % 64) * 64 + v % 64) ?_ (by omega)
  rw [hRest, hBits, continuation_ofNat (Nat.mod_lt _ (by decide)) _ _ hMin hMax,
    continuation_any (Nat.mod_lt _ (by decide)), continuation_any (Nat.mod_lt _ (by decide))]
  rfl

/-- The cases are those of the encoder, and within three and four bytes those of the lead bytes
whose second byte is restricted. -/
theorem lossyChars_encode (c : Char) (r : List UInt8) :
    lossyChars (String.utf8EncodeChar c ++ r) = c :: lossyChars r := by
  have hBound : c.val.toNat < 0xd800 ∨ 0xdfff < c.val.toNat ∧ c.val.toNat < 0x110000 := c.valid
  have hChar : Char.ofNat c.val.toNat = c := Char.ofNat_toNat c
  simp only [String.utf8EncodeChar]
  generalize c.val.toNat = v at hBound hChar
  rw [← hChar]
  split
  · refine lossyChars_of_lead ⟨0, 0x80, 0xbf, v⟩ ?_ rfl rfl
    rw [ofByte?_ofNat (by omega), if_pos (by omega)]
  split
  · refine lossyChars_of_lead ⟨1, 0x80, 0xbf, v / 64⟩ (n := v / 64 * 64 + v % 64) ?_ ?_
      (by omega)
    · rw [ofByte?_ofNat (by omega), if_neg (by omega), if_neg (by omega), if_pos (by omega)]
      congr 2
      omega
    · exact continuation_any (Nat.mod_lt _ (by decide)) _ _
  split
  · rcases Nat.eq_zero_or_pos (v / 4096) with hZero | hPos
    · refine lossyChars_three ⟨2, 0xa0, 0xbf, 0⟩ ?_ rfl hZero.symm
        (show 160 ≤ _ by omega) (show _ ≤ 191 by omega) r
      rw [hZero]
      rfl
    · by_cases hThirteen : v / 4096 = 13
      · refine lossyChars_three ⟨2, 0x80, 0x9f, 13⟩ ?_ rfl
          hThirteen.symm (show 128 ≤ _ by omega) (show _ ≤ 159 by omega) r
        rw [hThirteen]
        rfl
      · refine lossyChars_three ⟨2, 0x80, 0xbf, v / 4096⟩ ?_ rfl rfl
          (show 128 ≤ _ by omega) (show _ ≤ 191 by omega) r
        rw [ofByte?_ofNat (by omega), if_neg (by omega), if_neg (by omega), if_neg (by omega),
          if_neg (by omega), if_neg (by omega), if_pos (by omega)]
        congr 2
        omega
  · rcases Nat.eq_zero_or_pos (v / 262144) with hZero | hPos
    · refine lossyChars_four ⟨3, 0x90, 0xbf, 0⟩ ?_ rfl hZero.symm
        (show 144 ≤ _ by omega) (show _ ≤ 191 by omega) r
      rw [hZero]
      rfl
    · by_cases hFour : v / 262144 = 4
      · refine lossyChars_four ⟨3, 0x80, 0x8f, 4⟩ ?_ rfl hFour.symm
          (show 128 ≤ _ by omega) (show _ ≤ 143 by omega) r
        rw [hFour]
        rfl
      · refine lossyChars_four ⟨3, 0x80, 0xbf, v / 262144⟩ ?_ rfl rfl
          (show 128 ≤ _ by omega) (show _ ≤ 191 by omega) r
        rw [ofByte?_ofNat (by omega), if_neg (by omega), if_neg (by omega), if_neg (by omega),
          if_neg (by omega), if_neg (by omega), if_neg (by omega), if_neg (by omega),
          if_pos (by omega)]
        congr 2
        omega

theorem lossy_utf8 (s : String) : lossy (utf8 s) = s := by
  have hChars : ∀ cs : List Char, lossyChars (cs.flatMap String.utf8EncodeChar) = cs := by
    intro cs
    induction cs with
    | nil => rw [List.flatMap_nil, lossyChars]
    | cons c r ih => rw [List.flatMap_cons, lossyChars_encode, ih]
  rw [lossy, utf8_eq_flatMap, hChars, String.ofList_toList]

/-- Continuation bytes are none of the first 128, so such a byte is never swallowed. -/
theorem mem_of_continuation {n : Nat} {low high : UInt8} (hLow : 0x80 ≤ low) {acc : Nat}
    {r : List UInt8} {b : UInt8} (hb : b < 0x80) (hMem : b ∈ r) :
    b ∈ (continuation n low high acc r).2 := by
  fun_induction continuation n low high acc r with
  | case1 => exact hMem
  | case2 => exact hMem
  | case3 n low high acc d r hIn ih =>
    rcases List.mem_cons.mp hMem with rfl | hRest
    · exact absurd (UInt8.lt_of_lt_of_le hb (UInt8.le_trans hLow hIn.1)) (UInt8.lt_irrefl _)
    · exact ih (UInt8.le_refl _) hRest
  | case4 => exact hMem

theorem Lead.le_low {b : UInt8} {lead : Lead} (h : Lead.ofByte? b = some lead) :
    0x80 ≤ lead.low := by
  unfold Lead.ofByte? at h
  split_ifs at h <;> cases h <;> simp

theorem mem_lossyChars {bytes : List UInt8} {b : UInt8} (hb : b < 0x80) (hMem : b ∈ bytes) :
    Char.ofNat b.toNat ∈ lossyChars bytes := by
  have hLead : Lead.ofByte? b = some ⟨0, 0x80, 0xbf, b.toNat⟩ := by
    rw [Lead.ofByte?, if_pos hb]
  fun_induction lossyChars bytes with
  | case1 => cases hMem
  | case2 d r hNone ih =>
    rcases List.mem_cons.mp hMem with rfl | hRest
    · rw [hLead] at hNone
      cases hNone
    · exact List.mem_cons_of_mem _ (ih hRest)
  | case3 d r lead hSome read ih =>
    rcases List.mem_cons.mp hMem with rfl | hRest
    · obtain rfl := Option.some.inj (hLead.symm.trans hSome)
      exact List.mem_cons_self
    · exact List.mem_cons_of_mem _ (ih (mem_of_continuation (Lead.le_low hSome) hb hRest))

theorem mem_utf8_lossy {bytes : List UInt8} {b : UInt8} (hb : b < 0x80) (hMem : b ∈ bytes) :
    b ∈ utf8 (lossy bytes) := by
  have hNat : b.toNat < 128 := UInt8.lt_iff_toNat_lt.mp hb
  have hChar := toNat_charOfNat hNat
  rw [lossy, utf8_ofList, List.mem_flatMap]
  refine ⟨_, mem_lossyChars hb hMem, ?_⟩
  rw [utf8EncodeChar_ascii (by omega), hChar, UInt8.ofNat_toNat]
  exact List.mem_singleton_self b

theorem utf8_lossy_eq_nil {bytes : List UInt8} : utf8 (lossy bytes) = [] ↔ bytes = [] := by
  rw [lossy, utf8_ofList]
  cases bytes with
  | nil => simp [lossyChars]
  | cons b r => 
    unfold lossyChars
    cases Lead.ofByte? b <;> simp [String.utf8EncodeChar_ne_nil]

/-! ## The strict decoder -/

def strict? (bytes : List UInt8) : Option String := String.fromUTF8? ⟨bytes.toArray⟩

theorem strict?_utf8 (s : String) : strict? (utf8 s) = some s := by
  have hBytes : (⟨(utf8 s).toArray⟩ : ByteArray) = s.toByteArray := ByteArray.ext (by simp [utf8])
  rw [strict?, hBytes, String.fromUTF8?, dif_pos s.isValidUTF8]
  exact congrArg some (String.toByteArray_inj.mp rfl)

theorem strict?_eq_some {bytes : List UInt8} {s : String} :
    strict? bytes = some s ↔ bytes = utf8 s := by
  constructor
  · intro h
    rw [strict?, String.fromUTF8?] at h
    split at h
    · cases h
      rfl
    · cases h
  · rintro rfl
    exact strict?_utf8 s

end Logline.Text
