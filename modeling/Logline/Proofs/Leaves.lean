import Logline.Proofs.ArgumentLists

/-! # Leaves

The values in an attribute that are no groups. A property of all of them goes through groups, and
neither merging nor reading arguments brings in a leaf that was not there.
-/

namespace Logline

namespace Value

mutual

/-- A property of every leaf of a value. -/
def Leaves (P : Value → Prop) : Value → Prop
  | .group attrs => LeavesOf P attrs
  | value => P value

def LeavesOf (P : Value → Prop) : List (Entry Value) → Prop
  | [] => True
  | ⟨_, value⟩ :: r => value.Leaves P ∧ LeavesOf P r

end

mutual

theorem Leaves.imp {P Q : Value → Prop} (h : ∀ v, P v → Q v) {v : Value} (hv : v.Leaves P) :
    v.Leaves Q := by
  cases v with
  | group attrs => exact LeavesOf.imp h hv
  | _ => exact h _ hv

theorem LeavesOf.imp {P Q : Value → Prop} (h : ∀ v, P v → Q v) {attrs : List (Entry Value)}
    (hAttrs : LeavesOf P attrs) : LeavesOf Q attrs := by
  cases attrs with
  | nil => trivial
  | cons a r => exact ⟨hAttrs.1.imp h, hAttrs.2.imp h⟩

end

theorem leavesOf_iff {P : Value → Prop} {attrs : List Attr} :
    LeavesOf P attrs ↔ ∀ a ∈ attrs, a.value.Leaves P := by
  induction attrs with
  | nil => simp [LeavesOf]
  | cons a r ih => simp [LeavesOf, ih]

theorem leavesOf_append {P : Value → Prop} {as bs : List Attr} :
    LeavesOf P (as ++ bs) ↔ LeavesOf P as ∧ LeavesOf P bs := by
  simp only [leavesOf_iff, List.mem_append]
  constructor
  · intro h
    exact ⟨fun a ha => h a (.inl ha), fun a ha => h a (.inr ha)⟩
  · rintro ⟨hAs, hBs⟩ a (ha | ha)
    · exact hAs a ha
    · exact hBs a ha

end Value

open Value

def Arg.Leaves (P : Value → Prop) : Arg → Prop
  | .value v => v.Leaves P
  | .attr a => a.value.Leaves P
  | .attrs as => LeavesOf P as

theorem Arg.Part.leavesOf_attrs {P : Value → Prop} {p : Part} (h : p.arg.Leaves P) :
    LeavesOf P p.attrs := by
  obtain ⟨key?, arg⟩ := p
  cases key? with
  | some key =>
    cases arg with
    | value v => exact ⟨h, trivial⟩
    | attr a => exact ⟨⟨h, trivial⟩, trivial⟩
    | attrs as => exact ⟨h, trivial⟩
  | none =>
    cases arg with
    | value v => exact ⟨h, trivial⟩
    | attr a => exact ⟨h, trivial⟩
    | attrs as => exact h

theorem Arg.leavesOf_toAttrs {P : Value → Prop} {args : List Arg}
    (hArgs : ∀ a ∈ args, a.Leaves P) : LeavesOf P (toAttrs args) := by
  rw [toAttrs_eq, leavesOf_iff]
  intro a ha
  obtain ⟨p, hp, ha⟩ := List.mem_flatMap.mp ha
  have hArg : p.arg ∈ args := by
    rw [← (cut_parts args).whole]
    exact List.mem_flatMap.mpr ⟨p, hp, List.mem_append_right _ List.mem_cons_self⟩
  exact leavesOf_iff.mp (Part.leavesOf_attrs (hArgs _ hArg)) a ha

theorem AttrTable.leavesOf_put {P : Value → Prop} {t : AttrTable} {a : Attr}
    (hTable : LeavesOf P t.attrs) (ha : a.value.Leaves P) : LeavesOf P (t.put a).attrs := by
  unfold put
  cases t.index.get? a.key with
  | none => exact leavesOf_append.mpr ⟨hTable, ha, trivial⟩
  | some i =>
    rw [leavesOf_iff] at hTable ⊢
    intro b hb
    obtain ⟨j, hj⟩ := List.mem_iff_getElem?.mp hb
    rw [List.getElem?_modify] at hj
    cases hOld : t.attrs[j]? with
    | none => simp [hOld] at hj
    | some old =>
      have hMem : old ∈ t.attrs := List.mem_of_getElem? hOld
      rw [hOld] at hj
      obtain rfl := Option.some.inj hj
      split
      · exact ha
      · exact hTable old hMem

theorem AttrTable.leavesOf_merge {P : Value → Prop} {t : AttrTable} {attrs : List Attr}
    (hTable : LeavesOf P t.attrs) (hAttrs : LeavesOf P attrs) :
    LeavesOf P (t.merge attrs).attrs := by
  induction attrs generalizing t with
  | nil => exact hTable
  | cons a r ih => exact ih (leavesOf_put hTable hAttrs.1) hAttrs.2

end Logline
