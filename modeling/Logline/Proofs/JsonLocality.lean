import Logline.Proofs.JsonReading

/-! # Documents as values

A text that is a document of its own reads the same inside of a longer one: every reader stops where
it stopped before, unless it stopped at the end, and there nothing that may follow a value goes on
with it.
-/

namespace Logline.Json

variable {rest : List UInt8}

theorem digit?_of_stops {b : UInt8} {r : List UInt8} (h : Stops (b :: r)) : digit? b = none := by
  rcases h with rfl | rfl | rfl <;> rfl

theorem readDigits_append (hRest : Stops rest) (s : List UInt8) :
    readDigits (s ++ rest) = ((readDigits s).1, (readDigits s).2 ++ rest) := by
  induction s with
  | nil =>
    cases rest with
    | nil => rfl
    | cons b r => simp [readDigits, digit?_of_stops hRest]
  | cons b r ih =>
    rw [List.cons_append, readDigits, readDigits]
    cases digit? b with
    | none => rfl
    | some d => simp [ih]

theorem someDigits_append {α : Type} (hRest : Stops rest) {s r : List UInt8} {x : α}
    {f : List Nat → α}
    (h : (match readDigits s with
      | ([], _) => none
      | (ds, r) => some (f ds, r)) = some (x, r)) :
    (match readDigits (s ++ rest) with
      | ([], _) => none
      | (ds, r) => some (f ds, r)) = some (x, r ++ rest) := by
  rw [readDigits_append hRest]
  generalize readDigits s = digits at h ⊢
  obtain ⟨_ | ⟨d, ds⟩, t⟩ := digits
  · cases h
  · cases h
    rfl

theorem readFraction_plain {s : List UInt8} (hs : ∀ t, s ≠ 0x2e :: t) :
    readFraction s = some (none, s) := by
  rw [readFraction]
  exact hs

theorem readFraction_append (hRest : Stops rest) {s r : List UInt8} {fraction : Option (List Nat)}
    (h : readFraction s = some (fraction, r)) :
    readFraction (s ++ rest) = some (fraction, r ++ rest) := by
  cases s with
  | nil =>
    cases h
    refine readFraction_plain ?_
    rintro t rfl
    rcases hRest with h | h | h <;> cases h
  | cons b t =>
    by_cases hPoint : b = 0x2e
    · subst hPoint
      exact someDigits_append (f := some) hRest h
    · have hPlain : ∀ u v, b :: u ≠ 0x2e :: v := fun _ _ hCons => hPoint (List.cons.inj hCons).1
      rw [readFraction_plain (hPlain t)] at h
      cases h
      exact readFraction_plain (hPlain _)

theorem readSign_append {b : UInt8} (t : List UInt8) :
    readSign (b :: t ++ rest) = ((readSign (b :: t)).1, (readSign (b :: t)).2 ++ rest) := by
  by_cases hPlus : b = 0x2b
  · subst hPlus
    rfl
  by_cases hMinus : b = 0x2d
  · subst hMinus
    rfl
  have hPlain : ∀ u, readSign (b :: u) = (false, b :: u) := by
    intro u
    rw [readSign]
    · exact fun v hCons => hPlus (List.cons.inj hCons).1
    · exact fun v hCons => hMinus (List.cons.inj hCons).1
  rw [List.cons_append, hPlain, hPlain]
  rfl

theorem readExponent_append (hRest : Stops rest) {s r : List UInt8}
    {exponent : Option (Bool × List Nat)} (h : readExponent s = some (exponent, r)) :
    readExponent (s ++ rest) = some (exponent, r ++ rest) := by
  cases s with
  | nil =>
    cases h
    cases rest with
    | nil => rfl
    | cons b t => rcases hRest with rfl | rfl | rfl <;> rfl
  | cons b t =>
    rw [List.cons_append]
    by_cases hMark : b = 0x65 ∨ b = 0x45
    · simp only [readExponent, if_pos hMark] at h ⊢
      cases t with
      | nil => cases h
      | cons c u =>
        rw [readSign_append]
        exact someDigits_append (f := fun ds => some ((readSign (c :: u)).1, ds)) hRest h
    · simp only [readExponent, if_neg hMark] at h ⊢
      cases h
      rfl

theorem tail_append {α : Type} (hRest : Stops rest) {t r : List UInt8} {x : α}
    {f : Option (List Nat) → Option (Bool × List Nat) → α}
    (h : (do
      let (fraction, u) ← readFraction t
      let (exponent, u) ← readExponent u
      some (f fraction exponent, u)) = some (x, r)) :
    (do
      let (fraction, u) ← readFraction (t ++ rest)
      let (exponent, u) ← readExponent u
      some (f fraction exponent, u)) = some (x, r ++ rest) := by
  simp only [Option.bind_eq_bind, Option.bind_eq_some_iff, Prod.exists] at h
  obtain ⟨fraction, u, hFraction, exponent, v, hExponent, hx⟩ := h
  obtain ⟨rfl, rfl⟩ := Prod.mk.inj (Option.some.inj hx)
  simp [readFraction_append hRest hFraction, readExponent_append hRest hExponent]

theorem readNumeral_append (hRest : Stops rest) {negative : Bool} {s r : List UInt8} {x : Numeral}
    (h : readNumeral negative s = some (x, r)) :
    readNumeral negative (s ++ rest) = some (x, r ++ rest) := by
  unfold readNumeral at h ⊢
  rw [readDigits_append hRest]
  generalize readDigits s = digits at h ⊢
  obtain ⟨_ | ⟨d, _ | ⟨e, ds⟩⟩, t⟩ := digits
  · cases h
  · cases d <;> exact tail_append (f := Numeral.mk negative [_]) hRest h
  · cases d with
    | zero => cases h
    | succ d =>
      exact tail_append (f := Numeral.mk negative ((d + 1) :: e :: ds)) hRest h

theorem readString_append {s r : List UInt8} {units : List CodeUnit}
    (h : readString s = some (units, r)) : readString (s ++ rest) = some (units, r ++ rest) := by
  fun_induction readString s generalizing units with
  | case1 => cases h
  | case2 t =>
    cases h
    rfl
  | case3 a b c d t ih =>
    simp only [Option.bind_eq_bind, Option.bind_eq_some_iff, Prod.exists] at h
    obtain ⟨x, hx, y, hy, z, hz, w, hw, us, u, hUnits, hEq⟩ := h
    obtain ⟨rfl, rfl⟩ := Prod.mk.inj (Option.some.inj hEq)
    simp [readString, hx, hy, hz, hw, ih hUnits]
  | case4 e t hNotHex ih =>
    simp only [Option.bind_eq_bind, Option.bind_eq_some_iff, Prod.exists] at h
    obtain ⟨b, hb, us, u, hUnits, hEq⟩ := h
    obtain ⟨rfl, rfl⟩ := Prod.mk.inj (Option.some.inj hEq)
    rw [List.cons_append, List.cons_append, readString]
    · simp [hb, ih hUnits]
    · rintro _ _ _ _ _ rfl
      cases hb
  | case5 => cases h
  | case6 b t hQuote hHex hLetter hPlain ih =>
    push Not at hPlain
    simp only [Option.bind_eq_bind, Option.bind_eq_some_iff, Prod.exists] at h
    obtain ⟨us, u, hUnits, hEq⟩ := h
    obtain ⟨rfl, rfl⟩ := Prod.mk.inj (Option.some.inj hEq)
    rw [List.cons_append, readString]
    · simp [hPlain, ih hUnits]
    · exact hQuote
    · exact fun _ _ _ _ _ hSlash _ => hPlain.2 hSlash
    · exact fun _ _ hSlash _ => hPlain.2 hSlash

theorem expect_append {word s r : List UInt8} (h : expect word s = some r) :
    expect word (s ++ rest) = some (r ++ rest) := by
  unfold expect at h ⊢
  split at h
  · rename_i hTake
    cases h
    have hLength : word.length ≤ s.length := by
      rw [← hTake, List.length_take]
      omega
    rw [List.take_append_of_le_length hLength, if_pos hTake, List.drop_append_of_le_length hLength]
  · cases h

theorem skipSpaces_append {s : List UInt8} (hs : skipSpaces s ≠ []) :
    skipSpaces (s ++ rest) = skipSpaces s ++ rest := by
  induction s with
  | nil => exact absurd rfl hs
  | cons b r ih =>
    cases hSpace : isSpace b with
    | true =>
      have hSkip : ∀ t, skipSpaces (b :: t) = skipSpaces t := fun t =>
        List.dropWhile_cons_of_pos hSpace
      rw [hSkip] at hs
      rw [List.cons_append, hSkip, hSkip, ih hs]
    | false =>
      have hKept : ∀ t, skipSpaces (b :: t) = b :: t := fun t =>
        List.dropWhile_cons_of_neg (by simp [hSpace])
      rw [List.cons_append, hKept, hKept]
      rfl

/-- What the readers with bound `n` give, they give for longer inputs and larger bounds. -/
structure Local (n : Nat) : Prop where
  value : ∀ {s r rest : List UInt8} {raw : Raw} {m : Nat}, readValue n s = some (raw, r) →
    n ≤ m → Stops rest → readValue m (s ++ rest) = some (raw, r ++ rest)
  items : ∀ {s r rest : List UInt8} {raws : List Raw} {m : Nat}, readItems n s = some (raws, r) →
    n ≤ m → Stops rest → readItems m (s ++ rest) = some (raws, r ++ rest)
  members : ∀ {s r rest : List UInt8} {members : List (List CodeUnit × Raw)} {m : Nat},
    readMembers n s = some (members, r) → n ≤ m → Stops rest →
      readMembers m (s ++ rest) = some (members, r ++ rest)

theorem local_zero : Local 0 := by
  constructor
  · intro s r rest raw m h
    rw [readValue] at h
    cases h
  · intro s r rest raw m h
    rw [readItems] at h
    cases h
  · intro s r rest raw m h
    rw [readMembers] at h
    cases h

theorem Local.items_succ {n : Nat} (h : Local n) {s r rest : List UInt8} {raws : List Raw} {m : Nat}
    (hRead : readItems (n + 1) s = some (raws, r)) (hm : n ≤ m) (hRest : Stops rest) :
    readItems (m + 1) (s ++ rest) = some (raws, r ++ rest) := by
  rw [readItems] at hRead ⊢
  simp only [Option.bind_eq_bind, Option.bind_eq_some_iff, Prod.exists] at hRead
  obtain ⟨item, t, hItem, hNext⟩ := hRead
  rw [h.value hItem hm hRest]
  have hSkip : skipSpaces t ≠ [] := by
    intro hNil
    rw [hNil] at hNext
    cases hNext
  simp only [Option.bind_eq_bind, Option.bind_some, skipSpaces_append hSkip]
  split at hNext
  · rename_i u hComma
    simp only [Option.bind_eq_some_iff, Prod.exists] at hNext
    obtain ⟨items, v, hItems, hEq⟩ := hNext
    obtain ⟨rfl, rfl⟩ := Prod.mk.inj (Option.some.inj hEq)
    rw [hComma]
    simp [h.items hItems hm hRest]
  · rename_i u hClose
    obtain ⟨rfl, rfl⟩ := Prod.mk.inj (Option.some.inj hNext)
    rw [hClose]
    rfl
  · cases hNext

theorem Local.members_succ {n : Nat} (h : Local n) {s r rest : List UInt8}
    {members : List (List CodeUnit × Raw)} {m : Nat}
    (hRead : readMembers (n + 1) s = some (members, r)) (hm : n ≤ m) (hRest : Stops rest) :
    readMembers (m + 1) (s ++ rest) = some (members, r ++ rest) := by
  rw [readMembers] at hRead ⊢
  have hSkip : ∀ {t u : List UInt8} {b : UInt8}, skipSpaces t = b :: u →
      skipSpaces (t ++ rest) = b :: (u ++ rest) := by
    intro t u b hSkip
    rw [skipSpaces_append (by simp [hSkip]), hSkip]
    rfl
  split at hRead
  · rename_i t hQuote
    simp only [Option.bind_eq_bind, Option.bind_eq_some_iff, Prod.exists] at hRead
    obtain ⟨key, u, hKey, hRead⟩ := hRead
    split at hRead
    · rename_i v hColon
      simp only [Option.bind_eq_some_iff, Prod.exists] at hRead
      obtain ⟨value, w, hValue, hRead⟩ := hRead
      split at hRead
      · rename_i x hComma
        simp only [Option.bind_eq_some_iff, Prod.exists] at hRead
        obtain ⟨more, y, hMore, hEq⟩ := hRead
        obtain ⟨rfl, rfl⟩ := Prod.mk.inj (Option.some.inj hEq)
        simp [hSkip hQuote, readString_append hKey, hSkip hColon, h.value hValue hm hRest,
          hSkip hComma, h.members hMore hm hRest]
      · rename_i x hClose
        obtain ⟨rfl, rfl⟩ := Prod.mk.inj (Option.some.inj hRead)
        simp [hSkip hQuote, readString_append hKey, hSkip hColon, h.value hValue hm hRest,
          hSkip hClose]
      · cases hRead
    · cases hRead
  · cases hRead

theorem readValue_emptyArray {n : Nat} {s rest : List UInt8} (h : skipSpaces s = 0x5d :: rest) :
    readValue (n + 1) (0x5b :: s) = some (.array [], rest) := by
  have hOpen : skipSpaces (0x5b :: s) = 0x5b :: s := rfl
  rw [readValue, hOpen]
  simp only [h]

theorem readValue_emptyObject {n : Nat} {s rest : List UInt8} (h : skipSpaces s = 0x7d :: rest) :
    readValue (n + 1) (0x7b :: s) = some (.object [], rest) := by
  have hOpen : skipSpaces (0x7b :: s) = 0x7b :: s := rfl
  rw [readValue, hOpen]
  simp only [h]

/-- The last of the cases of a value, where none of the others applies. -/
theorem readValue_numeral {n : Nat} {b : UInt8} {t : List UInt8} {x : Numeral × List UInt8}
    (h : readNumeral false (b :: t) = some x) :
    readValue (n + 1) (b :: t) = some (.number x.1, x.2) := by
  have hDigit : digit? b ≠ none := by
    intro hNone
    rw [readNumeral, readDigits, hNone] at h
    cases h
  have hNe : ∀ k : UInt8, digit? k = none → b ≠ k := by
    rintro k hk rfl
    exact hDigit hk
  have hSpace : ¬ isSpace b = true := by
    intro hSpace
    simp only [isSpace, Bool.or_eq_true, beq_iff_eq] at hSpace
    rcases hSpace with ((rfl | rfl) | rfl) | rfl <;> exact hDigit rfl
  have hKept : skipSpaces (b :: t) = b :: t := List.dropWhile_cons_of_neg hSpace
  rw [readValue, hKept]
  split
  · rename_i hCons
    cases hCons
  all_goals
    try
      rename_i hCons
      exact absurd (List.cons.inj hCons).1 (hNe _ rfl)
  rw [h]
  rfl

/-- What is made of the result of a reader that goes on in the same way on a longer input. -/
theorem map_append {α : Type} {read : List UInt8 → Option (α × List UInt8)} {f : α → Raw}
    {t r : List UInt8} {raw : Raw}
    (hAppend : ∀ {x u}, read t = some (x, u) → read (t ++ rest) = some (x, u ++ rest))
    (h : ((read t).map fun (x, u) => (f x, u)) = some (raw, r)) :
    ((read (t ++ rest)).map fun (x, u) => (f x, u)) = some (raw, r ++ rest) := by
  obtain ⟨⟨x, u⟩, hRead, hEq⟩ := Option.map_eq_some_iff.mp h
  obtain ⟨rfl, rfl⟩ := Prod.mk.inj hEq
  rw [hAppend hRead]
  rfl

theorem word_append {word t r : List UInt8} {value raw : Raw}
    (h : ((expect word t).map (value, ·)) = some (raw, r)) :
    ((expect word (t ++ rest)).map (value, ·)) = some (raw, r ++ rest) := by
  obtain ⟨u, hWord, hEq⟩ := Option.map_eq_some_iff.mp h
  obtain ⟨rfl, rfl⟩ := Prod.mk.inj hEq
  rw [expect_append hWord]
  rfl

theorem Local.value_succ {n : Nat} (h : Local n) {s r rest : List UInt8} {raw : Raw} {m : Nat}
    (hRead : readValue (n + 1) s = some (raw, r)) (hm : n ≤ m) (hRest : Stops rest) :
    readValue (m + 1) (s ++ rest) = some (raw, r ++ rest) := by
  have hSkip : ∀ {t u : List UInt8} {b : UInt8}, skipSpaces t = b :: u →
      skipSpaces (t ++ rest) = b :: (u ++ rest) := by
    intro t u b hSkip
    rw [skipSpaces_append (by simp [hSkip]), hSkip]
    rfl
  rw [readValue] at hRead
  rw [← readValue_skipSpaces]
  split at hRead
  · cases hRead
  · rename_i t hOpen
    rw [hSkip hOpen]
    exact map_append readString_append hRead
  · rename_i t hOpen
    rw [hSkip hOpen]
    exact map_append (readNumeral_append hRest) hRead
  · rename_i t hOpen
    rw [hSkip hOpen]
    split at hRead
    · rename_i u hClose
      obtain ⟨rfl, rfl⟩ := Prod.mk.inj (Option.some.inj hRead)
      exact readValue_emptyArray (hSkip hClose)
    · obtain ⟨⟨items, u⟩, hItems, hEq⟩ := Option.map_eq_some_iff.mp hRead
      obtain ⟨rfl, rfl⟩ := Prod.mk.inj hEq
      rw [readItems_skipSpaces] at hItems
      exact readValue_array (h.items hItems hm hRest)
  · rename_i t hOpen
    rw [hSkip hOpen]
    split at hRead
    · rename_i u hClose
      obtain ⟨rfl, rfl⟩ := Prod.mk.inj (Option.some.inj hRead)
      exact readValue_emptyObject (hSkip hClose)
    · obtain ⟨⟨members, u⟩, hMembers, hEq⟩ := Option.map_eq_some_iff.mp hRead
      obtain ⟨rfl, rfl⟩ := Prod.mk.inj hEq
      rw [readMembers_skipSpaces] at hMembers
      exact readValue_object (h.members hMembers hm hRest)
  · rename_i t hOpen
    rw [hSkip hOpen]
    exact word_append hRead
  · rename_i t hOpen
    rw [hSkip hOpen]
    exact word_append hRead
  · rename_i t hOpen
    rw [hSkip hOpen]
    exact word_append hRead
  · rename_i hNil _ _ _ _ _ _ _
    obtain ⟨⟨x, u⟩, hNumeral, hEq⟩ := Option.map_eq_some_iff.mp hRead
    obtain ⟨rfl, rfl⟩ := Prod.mk.inj hEq
    cases hStart : skipSpaces s with
    | nil => exact absurd hStart hNil
    | cons b t =>
      rw [hStart] at hNumeral
      rw [hSkip hStart]
      exact readValue_numeral (readNumeral_append hRest hNumeral)

theorem local_all (n : Nat) : Local n := by
  induction n with
  | zero => exact local_zero
  | succ n ih =>
    have hSucc : ∀ {m}, n + 1 ≤ m → ∃ k, m = k + 1 ∧ n ≤ k := fun {m} hm => ⟨m - 1, by omega⟩
    constructor
    · intro s r rest raw m hRead hm hRest
      obtain ⟨k, rfl, hk⟩ := hSucc hm
      exact ih.value_succ hRead hk hRest
    · intro s r rest raws m hRead hm hRest
      obtain ⟨k, rfl, hk⟩ := hSucc hm
      exact ih.items_succ hRead hk hRest
    · intro s r rest members m hRead hm hRest
      obtain ⟨k, rfl, hk⟩ := hSucc hm
      exact ih.members_succ hRead hk hRest

/-- A document can stand wherever a value can. -/
theorem reads_of_readDocument {text : List UInt8} {raw : Raw} (h : readDocument text = some raw) :
    Reads text raw := by
  simp only [readDocument, Option.bind_eq_bind, Option.bind_eq_some_iff, Prod.exists] at h
  obtain ⟨value, blanks, hRead, hRest⟩ := h
  split at hRest
  · rename_i hBlanks
    obtain rfl := Option.some.inj hRest
    intro rest n hStops hLength
    refine ⟨blanks, ?_, (local_all _).value hRead hLength hStops⟩
    exact fun b hb => List.dropWhile_eq_nil_iff.mp hBlanks b hb
  · cases hRest

end Logline.Json
