import Logline.Json.Decode
import Logline.Proofs.ValueText

/-! # Records in documents

The members of an object make settings of a record, each setting at most once and in any order.
Members that the record has no field for may stand between them and may be anything.
-/

namespace Logline.Json

open Text (utf8)

/-! ## Plain values -/

/-- A string literal of a text. -/
def Raw.IsText (raw : Raw) (s : String) : Prop :=
  ∃ units, raw = .string units ∧ unitString? units = some s

/-- An alternative without a value: its name, or an object that has null for it. -/
def Raw.IsName (raw : Raw) (name : String) : Prop :=
  raw.IsText name ∨ ∃ key, raw = .object [(key, .null)] ∧ unitString? key = some name

/-- A whole number of one word, in digits. -/
def Raw.IsWord (raw : Raw) (n : Nat) : Prop :=
  n < 2 ^ 64 ∧ ∃ digits, raw = .number ⟨false, digits, none, none⟩ ∧ digitsValue digits = n

namespace Raw

variable {raw : Raw}

theorem IsText.text? {s : String} (h : raw.IsText s) : raw.text? = some s := by
  obtain ⟨units, rfl, hUnits⟩ := h
  exact unitText_eq hUnits

theorem IsText.choice? {s : String} (h : raw.IsText s) : raw.choice? = some (s, none) := by
  obtain ⟨units, rfl, hUnits⟩ := h
  rw [Raw.choice?, unitText_eq hUnits, Option.map_some]

theorem IsName.choice? {name : String} (h : raw.IsName name) :
    raw.choice? = some (name, none) ∨ raw.choice? = some (name, some .null) := by
  obtain hText | ⟨key, rfl, hKey⟩ := h
  · exact .inl hText.choice?
  · exact .inr (by rw [Raw.choice?, unitText_eq hKey, Option.map_some])

theorem IsName.name? {name : String} (h : raw.IsName name) : raw.name? = some name := by
  obtain hChoice | hChoice := h.choice? <;> rw [Raw.name?, hChoice]

end Raw

theorem le_digitsValue_foldl (digits : List Nat) (n : Nat) :
    n ≤ digits.foldl (fun n d => n * 10 + d) n := by
  induction digits generalizing n with
  | nil => exact Nat.le_refl n
  | cons d r ih => exact Nat.le_trans (by omega) (ih (n * 10 + d))

theorem accumulate_eq {digits : List Nat} {n : Nat}
    (h : digits.foldl (fun n d => n * 10 + d) n < significandBound) :
    accumulate n digits = (digits.foldl (fun n d => n * 10 + d) n, []) := by
  induction digits generalizing n with
  | nil => rfl
  | cons d r ih =>
    have hFirst := Nat.lt_of_le_of_lt (le_digitsValue_foldl r (n * 10 + d)) h
    rw [accumulate, if_pos hFirst, ih h]
    rfl

theorem Raw.IsWord.natural? {raw : Raw} {n : Nat} (h : raw.IsWord n) : raw.natural? = some n := by
  obtain ⟨hBound, digits, rfl, rfl⟩ := h
  have hAll : accumulate 0 digits = (digitsValue digits, []) := accumulate_eq hBound
  simp [Raw.natural?, ofNumeral, hAll]

/-! ## Members -/

section Records

variable {α σ : Type}

/-- What the members of an object make of a record whose settings have names and are given by
values in some way. -/
inductive Assigns (name : σ → String) (given : σ → Raw → Prop) :
    List (List CodeUnit × Raw) → List σ → Prop where
  | nil : Assigns name given [] []
  | unknown {key : List CodeUnit} {text : String} {value : Raw}
      {members : List (List CodeUnit × Raw)} {settings : List σ}
      (hKey : unitString? key = some text) (hUnknown : ∀ x, name x ≠ text)
      (rest : Assigns name given members settings) :
      Assigns name given ((key, value) :: members) settings
  | setting {key : List CodeUnit} {value : Raw} {members : List (List CodeUnit × Raw)}
      {settings : List σ} (x : σ) (hKey : unitString? key = some (name x))
      (hValue : given x value) (hOnce : ∀ y ∈ settings, name y ≠ name x)
      (rest : Assigns name given members settings) :
      Assigns name given ((key, value) :: members) (x :: settings)

/-- Fields that store the settings of a record as they are given. -/
structure Realizes (fields : List (Field α)) (name : σ → String) (given : σ → Raw → Prop)
    (apply : σ → α → α) : Prop where
  known : ∀ field ∈ fields, ∃ x, name x = field.name
  stores : ∀ {x raw} (a : α), given x raw →
    ∃ field, fields.find? (·.name == name x) = some field ∧ field.store a raw = some (apply x a)

variable {fields : List (Field α)} {name : σ → String} {given : σ → Raw → Prop}
  {apply : σ → α → α} {members : List (List CodeUnit × Raw)} {settings : List σ}

theorem Assigns.pairwise (h : Assigns name given members settings) :
    settings.Pairwise fun x y => name y ≠ name x := by
  induction h with
  | nil => exact .nil
  | unknown _ _ _ ih => exact ih
  | setting _ _ _ hOnce _ ih => exact .cons hOnce ih

/-- The members are stored in their order, and the fields that were there are known. -/
theorem Realizes.storeMembers (h : Realizes fields name given apply)
    (hAssigns : Assigns name given members settings) {found : List String}
    (hFound : ∀ x ∈ settings, name x ∉ found) (a : α) :
    Json.storeMembers fields found a members =
      some (settings.foldl (fun a x => apply x a) a, (settings.map name).reverse ++ found) := by
  induction hAssigns generalizing found a with
  | nil => rfl
  | @unknown key text value members settings hKey hUnknown rest ih =>
    have hNone : fields.find? (·.name == text) = none := by
      rw [List.find?_eq_none]
      intro field hField hSame
      obtain ⟨x, hx⟩ := h.known field hField
      exact hUnknown x (hx.trans (beq_iff_eq.mp hSame))
    simp only [Json.storeMembers, unitText_eq hKey, Option.bind_eq_bind, Option.bind_some, hNone]
    exact ih hFound a
  | @setting key value members settings x hKey hValue hOnce rest ih =>
    obtain ⟨field, hFind, hStore⟩ := h.stores a hValue
    obtain ⟨hFirst, hOthers⟩ := List.forall_mem_cons.mp hFound
    have hRest : ∀ y ∈ settings, name y ∉ name x :: found := fun y hy =>
      not_or.mpr ⟨hOnce y hy, hOthers y hy⟩ ∘ List.mem_cons.mp
    simp only [Json.storeMembers, unitText_eq hKey, Option.bind_eq_bind, Option.bind_some, hFind,
      if_neg hFirst, hStore]
    rw [ih hRest, List.foldl_cons, List.map_cons, List.reverse_cons, List.append_assoc]
    rfl

theorem Realizes.storeRecord (h : Realizes fields name given apply)
    (hAssigns : Assigns name given members settings) (start : α) :
    Json.storeRecord fields start (.object members) =
      some (settings.foldl (fun a x => apply x a) start, (settings.map name).reverse) := by
  have hNone : ∀ x ∈ settings, name x ∉ ([] : List String) := fun _ _ => List.not_mem_nil
  rw [Json.storeRecord, h.storeMembers hAssigns hNone start, List.append_nil]

theorem Realizes.partialRecord (h : Realizes fields name given apply)
    (hAssigns : Assigns name given members settings) (start : α) :
    Json.partialRecord fields start (.object members) =
      some (settings.foldl (fun a x => apply x a) start) := by
  rw [Json.partialRecord, h.storeRecord hAssigns start, Option.map_some]

theorem Realizes.wholeRecord (h : Realizes fields name given apply)
    (hAssigns : Assigns name given members settings) (hAll : settings.length = fields.length)
    (start : α) :
    Json.wholeRecord fields start (.object members) =
      some (settings.foldl (fun a x => apply x a) start) := by
  rw [Json.wholeRecord, h.storeRecord hAssigns start]
  exact if_pos (by simpa using hAll)

end Records

theorem list?_eq {α : Type} {item : Raw → Option α} {given : α → Raw → Prop}
    (h : ∀ a raw, given a raw → item raw = some a) {as : List α} {raws : List Raw}
    (hItems : List.Forall₂ given as raws) : list? item (.array raws) = some as := by
  rw [list?]
  induction hItems with
  | nil => rfl
  | cons hItem _ ih => simp [h _ _ hItem, ih]

/-! ## Texts -/

theorem utf8_intercalate (texts : List String) :
    utf8 (String.intercalate "," texts) = joined 0x2c true (texts.map utf8) := by
  induction texts with
  | nil => rfl
  | cons text r ih =>
    cases r with
    | nil => simp [joined]
    | cons next r =>
      rw [String.intercalate_cons_cons, Text.utf8_append, Text.utf8_append, ih]
      simp [joined, show utf8 "," = [0x2c] from rfl]

theorem reads_isText (s : String) : ∃ raw, Reads (stringText s) raw ∧ raw.IsText s := by
  obtain ⟨units, hUnits, hReads⟩ := (spellsString_stringText s).reads
  exact ⟨.string units, reads_string hReads, units, rfl, hUnits⟩

theorem reads_bool (b : Bool) : Reads (utf8 (if b then "true" else "false")) (.bool b) := by
  cases b with
  | true => exact reads_true
  | false => exact reads_false

theorem reads_isWord {n : Nat} (h : n < 2 ^ 64) :
    ∃ raw, Reads (utf8 (toString n)) raw ∧ raw.IsWord n := by
  have hText : numberChars (Nat.toDigits 10 n) [] none = Nat.toDigits 10 n := by simp [numberChars]
  have hAscii : ∀ c ∈ Nat.toDigits 10 n, c.toNat < 128 := fun c hc =>
    (IsNumberChar.bounds (.inl (isDigit_toDigits hc))).2
  refine ⟨.number (numeralOf false (Nat.toDigits 10 n) [] none), ?_, h, _, rfl, ?_⟩
  · rw [Nat.toString_eq_ofList_toDigits, Text.utf8_ascii hAscii]
    refine reads_of_readValue fun rest m hRest _ => ?_
    have hRead : readNumeral false
        (Text.asciiBytes (numberChars (Nat.toDigits 10 n) [] none) ++ rest) =
          some (numeralOf false (Nat.toDigits 10 n) [] none, rest) :=
      readNumeral_text (whole_toDigits n) (by simp) (by simp) hRest
    obtain ⟨c, r, hDigits⟩ := List.exists_cons_of_ne_nil (Nat.toDigits_ne_nil (b := 10) (n := n))
    have hStart : Text.asciiBytes (Nat.toDigits 10 n) =
        UInt8.ofNat c.toNat :: Text.asciiBytes r := by
      rw [hDigits]
      rfl
    rw [hText, hStart] at hRead
    rw [hStart]
    exact readValue_numeral hRead
  · rw [digitsValue_digits]
    exact Nat.ofDigitChars_ten_toDigits

section Records

variable {σ : Type} {name : σ → String} {given : σ → Raw → Prop} {settings : List σ}

/-- The text of a member that makes a setting. -/
def SpellsSetting (name : σ → String) (given : σ → Raw → Prop) (text : List UInt8) (x : σ) :
    Prop :=
  ∃ value raw, text = stringText (name x) ++ 0x3a :: value ∧ Reads value raw ∧ given x raw

theorem reads_settings {texts : List (List UInt8)}
    (h : List.Forall₂ (SpellsSetting name given) texts settings)
    (hDistinct : settings.Pairwise fun x y => name y ≠ name x) :
    ∃ members, Reads (0x7b :: (joined 0x2c true texts ++ [0x7d])) (.object members) ∧
      Assigns name given members settings := by
  have hMembers : ∃ members, List.Forall₂ ReadsMember texts members ∧
      Assigns name given members settings := by
    induction h with
    | nil => exact ⟨[], .nil, .nil⟩
    | @cons text x texts settings hFirst _ ih =>
      obtain ⟨hOnce, hRest⟩ := List.pairwise_cons.mp hDistinct
      obtain ⟨members, hTexts, hAssigns⟩ := ih hRest
      obtain ⟨value, raw, rfl, hReads, hGiven⟩ := hFirst
      obtain ⟨units, hUnits, hKey⟩ := (spellsString_stringText (name x)).reads
      exact ⟨(units, raw) :: members, .cons ⟨_, _, rfl, hKey, hReads⟩ hTexts,
        .setting x hUnits hGiven hOnce hAssigns⟩
  obtain ⟨members, hTexts, hAssigns⟩ := hMembers
  exact ⟨members, reads_object hTexts, hAssigns⟩

end Records

end Logline.Json
