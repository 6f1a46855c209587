import Logline.Proofs.Leaves
import Mathlib.Data.List.Forall2

/-! # Equal values

Equality of values is symmetric and transitive, but it is no equivalence: a number that is not a
number equals nothing, so a value equals itself only if there is none in it. What comes from
outside is equal by identity, inside of groups as well.
-/

namespace Logline

/-- A comparison that is an equivalence, but for values that differ from themselves. -/
structure PartialEquivalence {α : Type} (eq : α → α → Bool) : Prop where
  symm : ∀ {a b : α}, eq a b = true → eq b a = true
  trans : ∀ {a b c : α}, eq a b = true → eq b c = true → eq a c = true

/-! ## Lists that are compared item by item -/

section Lists

variable {α : Type} {R : α → α → Prop} {as bs cs : List α}

theorem forall₂_symm (h : ∀ a ∈ as, ∀ b, R a b → R b a) (hR : List.Forall₂ R as bs) :
    List.Forall₂ R bs as :=
  ((List.forall₂_and_left _ _).mpr ⟨h, hR⟩).imp (fun _ _ hBoth => hBoth.1 _ hBoth.2) |>.flip

theorem forall₂_trans (h : ∀ a ∈ as, ∀ b c, R a b → R b c → R a c) (hAB : List.Forall₂ R as bs)
    (hBC : List.Forall₂ R bs cs) : List.Forall₂ R as cs := by
  induction hAB generalizing cs with
  | nil => exact hBC
  | cons hHead _ ih =>
    cases hBC with
    | cons hHead' hTail' =>
      obtain ⟨hFirst, hRest⟩ := List.forall_mem_cons.mp h
      exact .cons (hFirst _ _ hHead hHead') (ih hRest hTail')

theorem forall₂_getElem? {β : Type} {R : α → β → Prop} {bs : List β} (h : List.Forall₂ R as bs)
    {i : Nat} {a : α} (ha : as[i]? = some a) : ∃ b, bs[i]? = some b ∧ R a b := by
  induction h generalizing i with
  | nil => cases ha
  | cons hHead _ ih =>
    cases i with
    | zero => cases ha; exact ⟨_, rfl, hHead⟩
    | succ i => exact ih ha

end Lists

/-! ## Numbers -/

namespace FloatFormat

variable {f : FloatFormat} {a b : Nat}

/-- The bits of one of the two zeros. -/
def IsZero (f : FloatFormat) (bits : Nat) : Prop := ∃ q, f.decode bits = .finite 0 q

theorem equal_iff : f.equal a b = true ↔
    f.decode a ≠ .nan ∧ f.decode b ≠ .nan ∧ (a = b ∨ f.IsZero a ∧ f.IsZero b) := by
  rw [equal]
  split
  · next hA => simp [hA]
  · next hB _ => simp [hB]
  · next hA hB => simp [IsZero, hA, hB]
  · next hA hB hZero =>
    have hNot : ¬ (f.IsZero a ∧ f.IsZero b) := fun ⟨⟨q, ha⟩, ⟨p, hb⟩⟩ => hZero q p ha hb
    simp [hNot, show f.decode a ≠ .nan from hA, show f.decode b ≠ .nan from hB]

theorem partialEquivalence (f : FloatFormat) : PartialEquivalence f.equal where
  symm h := by
    obtain ⟨ha, hb, hSame⟩ := equal_iff.mp h
    exact equal_iff.mpr ⟨hb, ha, hSame.imp Eq.symm And.symm⟩
  trans hab hbc := by
    obtain ⟨ha, -, hSame⟩ := equal_iff.mp hab
    obtain ⟨-, hc, hSame'⟩ := equal_iff.mp hbc
    refine equal_iff.mpr ⟨ha, hc, ?_⟩
    obtain rfl | ⟨haZero, hbZero⟩ := hSame
    · exact hSame'
    · obtain rfl | ⟨-, hcZero⟩ := hSame'
      · exact .inr ⟨haZero, hbZero⟩
      · exact .inr ⟨haZero, hcZero⟩

theorem equal_self : f.equal a a = true ↔ f.decode a ≠ .nan := by
  simp [equal_iff]

end FloatFormat

theorem Binary64.partialEquivalence : PartialEquivalence Binary64.equal :=
  ⟨FloatFormat.double.partialEquivalence.symm, FloatFormat.double.partialEquivalence.trans⟩

theorem Binary32.partialEquivalence : PartialEquivalence Binary32.equal :=
  ⟨FloatFormat.single.partialEquivalence.symm, FloatFormat.single.partialEquivalence.trans⟩

theorem Binary64.equal_self {x : Binary64} : x.equal x = true ↔ x.isNaN = false := by
  rw [equal, FloatFormat.equal_self, isNaN, beq_eq_false_iff_ne, magnitude]

theorem Binary32.equal_self {x : Binary32} : x.equal x = true ↔ x.isNaN = false := by
  rw [equal, FloatFormat.equal_self, isNaN, beq_eq_false_iff_ne, magnitude]

/-! ## Documents -/

namespace Json

theorem equalItems_iff {xs ys : List Json} :
    equalItems xs ys = true ↔ List.Forall₂ (fun x y => x.equal y = true) xs ys := by
  induction xs generalizing ys with
  | nil => cases ys <;> simp [equalItems]
  | cons x xs ih => cases ys <;> simp [equalItems, ih]

theorem equalMembers_iff {xs ys : List (String × Json)} :
    equalMembers xs ys = true ↔
      List.Forall₂ (fun x y => x.1 = y.1 ∧ x.2.equal y.2 = true) xs ys := by
  induction xs generalizing ys with
  | nil => cases ys <;> simp [equalMembers]
  | cons x xs ih => cases ys <;> simp [equalMembers, ih]

/-- What is compared in two equal documents. -/
inductive Alike : Json → Json → Prop where
  | null : Alike .null .null
  | bool (b : Bool) : Alike (.bool b) (.bool b)
  | natural (n : Nat) : Alike (.natural n) (.natural n)
  | negative (n : Int) : Alike (.negative n) (.negative n)
  | float {x y : Binary64} (h : x.equal y = true) : Alike (.float x) (.float y)
  | string (s : String) : Alike (.string s) (.string s)
  | array {xs ys : List Json} (h : List.Forall₂ (fun x y => x.equal y = true) xs ys) :
      Alike (.array xs) (.array ys)
  | object {xs ys : List (String × Json)}
      (h : List.Forall₂ (fun x y => x.1 = y.1 ∧ x.2.equal y.2 = true) xs ys) :
      Alike (.object xs) (.object ys)

theorem equal_iff {a b : Json} : a.equal b = true ↔ Alike a b := by
  constructor
  · intro h
    unfold equal at h
    split at h
    · exact .null
    · exact beq_iff_eq.mp h ▸ .bool _
    · exact beq_iff_eq.mp h ▸ .natural _
    · exact beq_iff_eq.mp h ▸ .negative _
    · exact .float h
    · exact beq_iff_eq.mp h ▸ .string _
    · exact .array (equalItems_iff.mp h)
    · exact .object (equalMembers_iff.mp h)
    · cases h
  · intro h
    cases h with
    | null => rfl
    | bool | natural | negative | string => simp [equal]
    | float h => rwa [equal]
    | array h => rwa [equal, equalItems_iff]
    | object h => rwa [equal, equalMembers_iff]

/-- Induction over a document and all that it holds. -/
theorem inside {P : Json → Prop}
    (plain : ∀ j, (∀ items, j ≠ .array items) → (∀ members, j ≠ .object members) → P j)
    (array : ∀ items, (∀ x ∈ items, P x) → P (.array items))
    (object : ∀ members : List (String × Json), (∀ x ∈ members, P x.2) → P (.object members))
    (j : Json) : P j := by
  cases j with
  | array items => exact array items fun x hx => inside plain array object x
  | object members => exact object members fun x hx => inside plain array object x.2
  | _ => exact plain _ nofun nofun
termination_by j
decreasing_by
  · have hSize := List.sizeOf_lt_of_mem hx
    simp only [Json.array.sizeOf_spec]
    omega
  · have hSize := List.sizeOf_lt_of_mem hx
    obtain ⟨key, value⟩ := x
    simp only [Json.object.sizeOf_spec, Prod.mk.sizeOf_spec] at hSize ⊢
    omega

theorem partialEquivalence : PartialEquivalence equal where
  symm {a} := by
    induction a using inside with
    | plain a hItems hMembers =>
      intro b h
      cases equal_iff.mp h with
      | float hSame => exact equal_iff.mpr (.float (Binary64.partialEquivalence.symm hSame))
      | array => exact absurd rfl (hItems _)
      | object => exact absurd rfl (hMembers _)
      | _ => exact h
    | array items ih =>
      intro b h
      cases equal_iff.mp h with
      | array hItems =>
        exact equal_iff.mpr (.array (forall₂_symm (fun x hx _ => ih x hx) hItems))
    | object members ih =>
      intro b h
      cases equal_iff.mp h with
      | object hMembers =>
        refine equal_iff.mpr (.object (forall₂_symm (fun x hx _ hBoth => ?_) hMembers))
        exact ⟨hBoth.1.symm, ih x hx hBoth.2⟩
  trans {a} := by
    induction a using inside with
    | plain a hItems hMembers =>
      intro b c hab hbc
      cases equal_iff.mp hab with
      | float h =>
        cases equal_iff.mp hbc with
        | float h' => exact equal_iff.mpr (.float (Binary64.partialEquivalence.trans h h'))
      | array => exact absurd rfl (hItems _)
      | object => exact absurd rfl (hMembers _)
      | _ => exact hbc
    | array items ih =>
      intro b c hab hbc
      cases equal_iff.mp hab with
      | array h =>
        cases equal_iff.mp hbc with
        | array h' =>
          exact equal_iff.mpr (.array (forall₂_trans (fun x hx _ _ => ih x hx) h h'))
    | object members ih =>
      intro b c hab hbc
      cases equal_iff.mp hab with
      | object h =>
        cases equal_iff.mp hbc with
        | object h' =>
          refine equal_iff.mpr (.object (forall₂_trans (fun x hx _ _ hxy hyz => ?_) h h'))
          exact ⟨hxy.1.trans hyz.1, ih x hx hxy.2 hyz.2⟩

mutual

/-- A document in which every number is one. -/
def Numeric : Json → Prop
  | .float x => x.isNaN = false
  | .array items => NumericItems items
  | .object members => NumericMembers members
  | _ => True

def NumericItems : List Json → Prop
  | [] => True
  | x :: r => x.Numeric ∧ NumericItems r

def NumericMembers : List (String × Json) → Prop
  | [] => True
  | (_, x) :: r => x.Numeric ∧ NumericMembers r

end

theorem numericItems_iff {items : List Json} : NumericItems items ↔ ∀ x ∈ items, x.Numeric := by
  induction items with
  | nil => simp [NumericItems]
  | cons x r ih => simp [NumericItems, ih]

theorem numericMembers_iff {members : List (String × Json)} :
    NumericMembers members ↔ ∀ x ∈ members, x.2.Numeric := by
  induction members with
  | nil => simp [NumericMembers]
  | cons x r ih => simp [NumericMembers, ih]

theorem equal_self (j : Json) : j.equal j = true ↔ j.Numeric := by
  induction j using inside with
  | plain j hItems hMembers =>
    cases j with
    | float x => rw [equal, Binary64.equal_self, Numeric]
    | array items => exact absurd rfl (hItems items)
    | object members => exact absurd rfl (hMembers members)
    | _ => simp [equal, Numeric]
  | array items ih =>
    rw [equal, equalItems_iff, List.forall₂_same, Numeric, numericItems_iff]
    exact forall₂_congr ih
  | object members ih =>
    rw [equal, equalMembers_iff, List.forall₂_same, Numeric, numericMembers_iff]
    exact forall₂_congr fun x hx => (and_iff_right rfl).trans (ih x hx)

end Json

/-! ## Values -/

namespace Value

theorem equalFloats_iff {xs ys : List Binary64} :
    equalFloats xs ys = true ↔ List.Forall₂ (fun x y => x.equal y = true) xs ys := by
  induction xs generalizing ys with
  | nil => cases ys <;> simp [equalFloats]
  | cons x xs ih => cases ys <;> simp [equalFloats, ih]

/-- Attributes with one key and equal values. -/
def SameAttr (a b : Attr) : Prop := a.key = b.key ∧ a.value.equal b.value = true

theorem equalAttrs_iff {as bs : List Attr} :
    equalAttrs as bs = true ↔ List.Forall₂ SameAttr as bs := by
  induction as generalizing bs with
  | nil => cases bs <;> simp [equalAttrs]
  | cons a as ih => cases bs <;> simp [equalAttrs, SameAttr, ih]

/-- What is compared in two equal values. -/
inductive Alike : Value → Value → Prop where
  | null : Alike .null .null
  | bool (b : Bool) : Alike (.bool b) (.bool b)
  | int (n : Int) : Alike (.int n) (.int n)
  | uint (n : Nat) : Alike (.uint n) (.uint n)
  | float {x y : Binary64} (h : x.equal y = true) : Alike (.float x) (.float y)
  | float32 {x y : Binary32} (h : x.equal y = true) : Alike (.float32 x) (.float32 y)
  | complex {a b c d : Binary64} (hRe : a.equal c = true) (hIm : b.equal d = true) :
      Alike (.complex a b) (.complex c d)
  | complex32 {a b c d : Binary32} (hRe : a.equal c = true) (hIm : b.equal d = true) :
      Alike (.complex32 a b) (.complex32 c d)
  | string (s : String) : Alike (.string s) (.string s)
  | bytes (bytes : List UInt8) : Alike (.bytes bytes) (.bytes bytes)
  | duration (d : Duration) : Alike (.duration d) (.duration d)
  | time (t : Instant) : Alike (.time t) (.time t)
  | strings (items : List String) : Alike (.strings items) (.strings items)
  | bools (items : List Bool) : Alike (.bools items) (.bools items)
  | ints (items : List Int) : Alike (.ints items) (.ints items)
  | floats {xs ys : List Binary64} (h : List.Forall₂ (fun x y => x.equal y = true) xs ys) :
      Alike (.floats xs) (.floats ys)
  | json {a b : Json} (h : a.equal b = true) : Alike (.json a) (.json b)
  | marshal {a b : Marshal} (h : a.id = b.id) : Alike (.marshal a) (.marshal b)
  | foreign {a b : Foreign} (h : a.id = b.id) : Alike (.foreign a) (.foreign b)
  | group {as bs : List Attr} (h : List.Forall₂ SameAttr as bs) : Alike (.group as) (.group bs)

theorem equal_iff {a b : Value} : a.equal b = true ↔ Alike a b := by
  constructor
  · intro h
    unfold equal at h
    split at h
    · exact .null
    · exact beq_iff_eq.mp h ▸ .bool _
    · exact beq_iff_eq.mp h ▸ .int _
    · exact beq_iff_eq.mp h ▸ .uint _
    · exact .float h
    · exact .float32 h
    · obtain ⟨hRe, hIm⟩ := Bool.and_eq_true_iff.mp h
      exact .complex hRe hIm
    · obtain ⟨hRe, hIm⟩ := Bool.and_eq_true_iff.mp h
      exact .complex32 hRe hIm
    · exact beq_iff_eq.mp h ▸ .string _
    · exact beq_iff_eq.mp h ▸ .bytes _
    · exact beq_iff_eq.mp h ▸ .duration _
    · exact beq_iff_eq.mp h ▸ .time _
    · exact beq_iff_eq.mp h ▸ .strings _
    · exact beq_iff_eq.mp h ▸ .bools _
    · exact beq_iff_eq.mp h ▸ .ints _
    · exact .floats (equalFloats_iff.mp h)
    · exact .json h
    · exact .marshal (beq_iff_eq.mp h)
    · exact .foreign (beq_iff_eq.mp h)
    · exact .group (equalAttrs_iff.mp h)
    · cases h
  · intro h
    cases h with
    | float h | float32 h | json h => rwa [equal]
    | complex hRe hIm | complex32 hRe hIm => rw [equal, hRe, hIm]; rfl
    | floats h => rwa [equal, equalFloats_iff]
    | marshal h | foreign h => rwa [equal, beq_iff_eq]
    | group h => rwa [equal, equalAttrs_iff]
    | _ => simp [equal]

theorem inside {P : Value → Prop} (leaf : ∀ v, (∀ attrs, v ≠ .group attrs) → P v)
    (group : ∀ attrs : List Attr, (∀ a ∈ attrs, P a.value) → P (.group attrs)) (v : Value) :
    P v := by
  cases v with
  | group attrs => exact group attrs fun a ha => inside leaf group a.value
  | _ => exact leaf _ nofun
termination_by v
decreasing_by
  have hSize := List.sizeOf_lt_of_mem ha
  obtain ⟨key, value⟩ := a
  simp only [Value.group.sizeOf_spec, Entry.mk.sizeOf_spec] at hSize ⊢
  omega

theorem partialEquivalence : PartialEquivalence equal where
  symm {a} := by
    induction a using inside with
    | leaf a hLeaf =>
      intro b h
      cases equal_iff.mp h with
      | float hSame => exact equal_iff.mpr (.float (Binary64.partialEquivalence.symm hSame))
      | float32 hSame => exact equal_iff.mpr (.float32 (Binary32.partialEquivalence.symm hSame))
      | complex hRe hIm =>
        exact equal_iff.mpr (.complex (Binary64.partialEquivalence.symm hRe)
          (Binary64.partialEquivalence.symm hIm))
      | complex32 hRe hIm =>
        exact equal_iff.mpr (.complex32 (Binary32.partialEquivalence.symm hRe)
          (Binary32.partialEquivalence.symm hIm))
      | floats hItems =>
        exact equal_iff.mpr (.floats
          (forall₂_symm (fun _ _ _ => Binary64.partialEquivalence.symm) hItems))
      | json hSame => exact equal_iff.mpr (.json (Json.partialEquivalence.symm hSame))
      | marshal hId => exact equal_iff.mpr (.marshal hId.symm)
      | foreign hId => exact equal_iff.mpr (.foreign hId.symm)
      | group => exact absurd rfl (hLeaf _)
      | _ => exact h
    | group attrs ih =>
      intro b h
      cases equal_iff.mp h with
      | group hAttrs =>
        refine equal_iff.mpr (.group (forall₂_symm (fun a ha _ hBoth => ?_) hAttrs))
        exact ⟨hBoth.1.symm, ih a ha hBoth.2⟩
  trans {a} := by
    induction a using inside with
    | leaf a hLeaf =>
      intro b c hab hbc
      cases equal_iff.mp hab with
      | float h =>
        cases equal_iff.mp hbc with
        | float h' => exact equal_iff.mpr (.float (Binary64.partialEquivalence.trans h h'))
      | float32 h =>
        cases equal_iff.mp hbc with
        | float32 h' => exact equal_iff.mpr (.float32 (Binary32.partialEquivalence.trans h h'))
      | complex hRe hIm =>
        cases equal_iff.mp hbc with
        | complex hRe' hIm' =>
          exact equal_iff.mpr (.complex (Binary64.partialEquivalence.trans hRe hRe')
            (Binary64.partialEquivalence.trans hIm hIm'))
      | complex32 hRe hIm =>
        cases equal_iff.mp hbc with
        | complex32 hRe' hIm' =>
          exact equal_iff.mpr (.complex32 (Binary32.partialEquivalence.trans hRe hRe')
            (Binary32.partialEquivalence.trans hIm hIm'))
      | floats h =>
        cases equal_iff.mp hbc with
        | floats h' =>
          exact equal_iff.mpr (.floats
            (forall₂_trans (fun _ _ _ _ => Binary64.partialEquivalence.trans) h h'))
      | json h =>
        cases equal_iff.mp hbc with
        | json h' => exact equal_iff.mpr (.json (Json.partialEquivalence.trans h h'))
      | marshal h =>
        cases equal_iff.mp hbc with
        | marshal h' => exact equal_iff.mpr (.marshal (h.trans h'))
      | foreign h =>
        cases equal_iff.mp hbc with
        | foreign h' => exact equal_iff.mpr (.foreign (h.trans h'))
      | group => exact absurd rfl (hLeaf _)
      | _ => exact hbc
    | group attrs ih =>
      intro b c hab hbc
      cases equal_iff.mp hab with
      | group hAttrs =>
        cases equal_iff.mp hbc with
        | group hAttrs' =>
          refine equal_iff.mpr (.group (forall₂_trans (fun a ha _ _ hxy hyz => ?_) hAttrs hAttrs'))
          exact ⟨hxy.1.trans hyz.1, ih a ha hxy.2 hyz.2⟩

theorem kind_eq {a b : Value} (h : a.equal b = true) : a.kind = b.kind := by
  cases equal_iff.mp h <;> rfl

/-! ## Values that equal themselves -/

/-- A leaf with a number that is not a number. -/
def HoldsNaN : Value → Prop
  | .float x => x.isNaN = true
  | .float32 x => x.isNaN = true
  | .complex re im => re.isNaN = true ∨ im.isNaN = true
  | .complex32 re im => re.isNaN = true ∨ im.isNaN = true
  | .floats items => ∃ x ∈ items, x.isNaN = true
  | _ => False

/-- The numbers of a document are numbers, by the library that makes it. -/
def HasNumericDocument : Value → Prop
  | .json j => j.Numeric
  | _ => True

theorem leaves_of_leaf {P : Value → Prop} {v : Value} (h : ∀ attrs, v ≠ .group attrs) :
    v.Leaves P ↔ P v := by
  cases v with
  | group attrs => exact absurd rfl (h attrs)
  | _ => rfl

theorem equal_self_iff (v : Value) (hDocuments : v.Leaves HasNumericDocument) :
    v.equal v = true ↔ v.Leaves fun leaf => ¬ leaf.HoldsNaN := by
  induction v using inside with
  | leaf v hLeaf =>
    rw [leaves_of_leaf hLeaf] at hDocuments ⊢
    cases v with
    | float x => simp [equal, Binary64.equal_self, HoldsNaN]
    | float32 x => simp [equal, Binary32.equal_self, HoldsNaN]
    | complex re im => simp [equal, Binary64.equal_self, HoldsNaN]
    | complex32 re im => simp [equal, Binary32.equal_self, HoldsNaN]
    | floats items => simp [equal, equalFloats_iff, Binary64.equal_self, HoldsNaN]
    | json j => exact iff_of_true ((j.equal_self).mpr hDocuments) not_false
    | group attrs => exact absurd rfl (hLeaf attrs)
    | _ => simp [equal, HoldsNaN]
  | group attrs ih =>
    rw [equal, equalAttrs_iff, List.forall₂_same, Leaves, leavesOf_iff]
    have hAttrs := leavesOf_iff.mp hDocuments
    exact forall₂_congr fun a ha => (and_iff_right rfl).trans (ih a ha (hAttrs a ha))

/-! ## Places in a value -/

/-- The value at a place, given by the positions on the way through groups. -/
def at? (v : Value) : List Nat → Option Value
  | [] => some v
  | i :: path => (v.children?.bind (·[i]?)).bind fun a => a.value.at? path

/-- Equal values have the same places, with equal values there. -/
theorem equal_at {a b v : Value} (h : a.equal b = true) {path : List Nat}
    (hAt : a.at? path = some v) : ∃ w, b.at? path = some w ∧ v.equal w = true := by
  induction path generalizing a b with
  | nil =>
    cases hAt
    exact ⟨b, rfl, h⟩
  | cons i path ih =>
    obtain ⟨x, hChild, hBelow⟩ := Option.bind_eq_some_iff.mp hAt
    obtain ⟨as, hChildren, hx⟩ := Option.bind_eq_some_iff.mp hChild
    cases equal_iff.mp h with
    | group hAttrs =>
      cases hChildren
      obtain ⟨y, hy, -, hEqual⟩ := forall₂_getElem? hAttrs hx
      obtain ⟨w, hw, hSame⟩ := ih hEqual hBelow
      exact ⟨w, Option.bind_eq_some_iff.mpr ⟨y, hy, hw⟩, hSame⟩
    | _ => cases hChildren

/-- Equality of values is a partial equivalence within each kind. A value equals itself exactly if
none of its numbers is NaN, what comes from outside is equal by identity wherever it stands, and
groups are equal attribute by attribute. -/
theorem equal_partially (a b c : Value) :
    (a.equal b = true → b.equal a = true) ∧
    (a.equal b = true → b.equal c = true → a.equal c = true) ∧
    (a.equal b = true → a.kind = b.kind) ∧
    (a.Leaves HasNumericDocument →
      (a.equal a = true ↔ a.Leaves fun leaf => ¬ leaf.HoldsNaN)) ∧
    (a.equal b = true → ∀ path,
      (∀ m, a.at? path = some (.marshal m) →
        ∃ n, b.at? path = some (.marshal n) ∧ m.id = n.id) ∧
      ∀ f, a.at? path = some (.foreign f) →
        ∃ g, b.at? path = some (.foreign g) ∧ f.id = g.id) ∧
    (∀ m n, (marshal m).equal (marshal n) = true ↔ m.id = n.id) ∧
    (∀ f g, (foreign f).equal (foreign g) = true ↔ f.id = g.id) ∧
    ∀ as bs, (group as).equal (group bs) = true ↔
      List.Forall₂ (fun x y => x.key = y.key ∧ x.value.equal y.value = true) as bs := by
  refine ⟨partialEquivalence.symm, partialEquivalence.trans, kind_eq,
    equal_self_iff a, fun h path => ⟨fun m hAt => ?_, fun f hAt => ?_⟩,
    fun m n => beq_iff_eq, fun f g => beq_iff_eq, fun as bs => equalAttrs_iff⟩
  · obtain ⟨w, hw, hSame⟩ := equal_at h hAt
    cases equal_iff.mp hSame with
    | marshal hId => exact ⟨_, hw, hId⟩
  · obtain ⟨w, hw, hSame⟩ := equal_at h hAt
    cases equal_iff.mp hSame with
    | foreign hId => exact ⟨_, hw, hId⟩

theorem equal_partially_of_zeros :
    let m : Marshal := ⟨3, fun _ b => .ok (b, none), "m"⟩
    let a : Value := .group [⟨"x", .float ⟨0⟩⟩, ⟨"j", .json (.float ⟨0⟩)⟩, ⟨"m", .marshal m⟩]
    let b : Value := .group [⟨"x", .float ⟨0x8000000000000000⟩⟩,
      ⟨"j", .json (.float ⟨0x8000000000000000⟩)⟩, ⟨"m", .marshal m⟩]
    a.Leaves HasNumericDocument ∧ a.equal b = true ∧ b.equal a = true ∧ a.equal a = true ∧
      ∃ n, b.at? [2] = some (.marshal n) ∧ m.id = n.id := by
  intro m a b
  have hDocuments : a.Leaves HasNumericDocument := ⟨trivial, rfl, trivial, trivial⟩
  have hLeaves : a.Leaves fun leaf => ¬ leaf.HoldsNaN :=
    ⟨(show Binary64.isNaN ⟨0⟩ ≠ true by decide), not_false, not_false, trivial⟩
  have hEqual : a.equal b = true := by decide +kernel
  obtain ⟨hSymm, -, -, hSelf, hPlaces, -⟩ := equal_partially a b a
  exact ⟨hDocuments, hEqual, hSymm hEqual, (hSelf hDocuments).mpr hLeaves,
    (hPlaces hEqual [2]).1 m rfl⟩

end Value

end Logline
