import Logline.Attr
import Mathlib.Data.List.Basic
import Mathlib.Data.List.Induction

/-! # Merged attributes

A merge puts one attribute after the other into a table: the first attribute with its key takes the
new value, and a new key goes to the end. As long as the index gives the first position of each
key, the position it finds is that of the attribute to be overwritten. What a merge leaves of a
list is one attribute for each key, where the key stands first, with the value it has last.
-/

namespace Logline

theorem nodup_eraseDups {α : Type} [BEq α] [LawfulBEq α] (items : List α) :
    items.eraseDups.Nodup := by
  cases items with
  | nil => simp
  | cons a r =>
    rw [List.eraseDups_cons, List.nodup_cons]
    constructor
    · simp [List.mem_eraseDups]
    · exact nodup_eraseDups _
termination_by items.length
decreasing_by exact Nat.lt_succ_of_le (List.length_filter_le ..)

/-! ## First positions -/

namespace KeyIndex

theorem get?_add (index : KeyIndex) (key : String) (position : Nat) (k : String) :
    (index.add key position).get? k =
      (index.get? k).or (if k == key then some position else none) := by
  unfold add
  split
  · rename_i found
    by_cases h : k = key
    · subst h
      simp [found]
    · simp [h]
  · rw [get?, List.lookup_append, List.lookup_cons, List.lookup_nil]
    cases k == key <;> rfl

theorem get?_addFrom (index : KeyIndex) (position : Nat) (attrs : List Attr) (key : String) :
    (index.addFrom position attrs).get? key =
      (index.get? key).or ((attrs.findIdx? (·.key == key)).map (· + position)) := by
  induction attrs generalizing index position with
  | nil => simp [addFrom]
  | cons a r ih =>
    rw [addFrom, ih, get?_add, List.findIdx?_cons, Option.or_assoc]
    by_cases h : a.key = key
    · simp [h]
    · simp only [beq_iff_eq, Ne.symm h, h, ↓reduceIte, Option.none_or, Option.map_map]
      congr 2
      funext i
      simp only [Function.comp]
      omega

theorem get?_of (attrs : List Attr) (key : String) :
    (of attrs).get? key = attrs.findIdx? (·.key == key) := by
  rw [of, get?_addFrom]
  simp [empty, get?]

theorem addFrom_append (index : KeyIndex) (position : Nat) (as bs : List Attr) :
    index.addFrom position (as ++ bs) =
      (index.addFrom position as).addFrom (position + as.length) bs := by
  induction as generalizing index position with
  | nil => rfl
  | cons a r ih =>
    simp only [List.cons_append, addFrom, ih, List.length_cons]
    congr 1
    omega

theorem addFrom_congr (index : KeyIndex) (position : Nat) {as bs : List Attr}
    (h : as.map (·.key) = bs.map (·.key)) :
    index.addFrom position as = index.addFrom position bs := by
  induction as generalizing index position bs with
  | nil => cases bs <;> simp_all
  | cons a r ih =>
    cases bs with
    | nil => simp at h
    | cons b s =>
      obtain ⟨hKey, hRest⟩ : a.key = b.key ∧ r.map (·.key) = s.map (·.key) := by simpa using h
      simp only [addFrom, hKey, ih _ _ hRest]

end KeyIndex

/-! ## Merging -/

namespace Attr

/-- Overwrites the value of the first attribute with the key, or appends. -/
def put (a : Attr) : List Attr → List Attr
  | [] => [a]
  | b :: r => if b.key = a.key then ⟨b.key, a.value⟩ :: r else b :: put a r

theorem put_of_findIdx?_none {a : Attr} {attrs : List Attr}
    (h : attrs.findIdx? (·.key == a.key) = none) : put a attrs = attrs ++ [a] := by
  induction attrs with
  | nil => rfl
  | cons b r ih =>
    rw [List.findIdx?_cons] at h
    by_cases hb : b.key = a.key
    · simp [hb] at h
    · have hr : r.findIdx? (·.key == a.key) = none := by simpa [hb] using h
      simp [put, hb, ih hr]

theorem put_of_findIdx?_some {a : Attr} {attrs : List Attr} {i : Nat}
    (h : attrs.findIdx? (·.key == a.key) = some i) :
    put a attrs = attrs.modify i fun old => { old with value := a.value } := by
  induction attrs generalizing i with
  | nil => simp at h
  | cons b r ih =>
    rw [List.findIdx?_cons] at h
    by_cases hb : b.key = a.key
    · obtain rfl : i = 0 := by simpa [hb, eq_comm] using h
      simp [put, hb]
    · obtain ⟨j, hj, rfl⟩ : ∃ j, r.findIdx? (·.key == a.key) = some j ∧ j + 1 = i := by
        simpa [hb] using h
      simp [put, hb, ih hj]

theorem keys_put (a : Attr) (attrs : List Attr) : (put a attrs).map (·.key) =
    if a.key ∈ attrs.map (·.key) then attrs.map (·.key) else attrs.map (·.key) ++ [a.key] := by
  induction attrs with
  | nil => rfl
  | cons b r ih =>
    by_cases hb : b.key = a.key
    · simp [put, hb]
    · simp only [put, hb, ↓reduceIte, List.map_cons, ih, List.mem_cons, Ne.symm hb, false_or]
      split <;> simp

/-- One attribute for each key of `s`, where the key stands first, with the value it has last. -/
def resolve (s : List Attr) : List Attr :=
  (s.map (·.key)).eraseDups.filterMap fun key => s.reverse.find? (·.key == key)

theorem find?_reverse_append (s : List Attr) (a : Attr) (key : String) :
    (s ++ [a]).reverse.find? (·.key == key) =
      if a.key == key then some a else s.reverse.find? (·.key == key) := by
  simp [List.find?_cons]
  split <;> simp_all

/-- Overwriting in a list of one attribute a key overwrites in the list it was chosen for. -/
theorem put_filterMap {keys : List String} (hKeys : keys.Nodup) (a : Attr)
    (f : String → Option Attr) (hf : ∀ k ∈ keys, ∃ b, f k = some b ∧ b.key = k) :
    put a (keys.filterMap f) =
      keys.filterMap (fun k => if a.key == k then some a else f k) ++
        if a.key ∈ keys then [] else [a] := by
  induction keys with
  | nil => rfl
  | cons k r ih =>
    obtain ⟨hk, hr⟩ := List.nodup_cons.mp hKeys
    obtain ⟨b, hb, rfl⟩ := hf k List.mem_cons_self
    by_cases h : b.key = a.key
    · have hRest : r.filterMap f = r.filterMap fun k => if a.key == k then some a else f k := by
        apply List.filterMap_congr
        intro k' hk'
        have hne : a.key ≠ k' := by rintro rfl; exact hk (h ▸ hk')
        simp [hne]
      rw [List.filterMap_cons_some hb, List.filterMap_cons_some (b := a) (by simp [h])]
      simp [put, h, hRest]
    · have := ih hr fun k' hk' => hf k' (List.mem_cons_of_mem _ hk')
      simp [hb, put, h, Ne.symm h, this]

theorem exists_last {s : List Attr} {key : String} (hKey : key ∈ (s.map (·.key)).eraseDups) :
    ∃ b, s.reverse.find? (·.key == key) = some b ∧ b.key = key := by
  obtain ⟨b, hb, rfl⟩ := List.mem_map.mp (List.mem_eraseDups.mp hKey)
  cases h : s.reverse.find? (·.key == b.key) with
  | none => simpa using List.find?_eq_none.mp h b (List.mem_reverse.mpr hb)
  | some c => exact ⟨c, rfl, by simpa using List.find?_some h⟩

theorem keys_resolve (s : List Attr) : (resolve s).map (·.key) = (s.map (·.key)).eraseDups := by
  have hKeys : (s.map (·.key)).eraseDups.filterMap
      (fun key => (s.reverse.find? (·.key == key)).map (·.key)) =
        (s.map (·.key)).eraseDups.filterMap some := by
    apply List.filterMap_congr
    intro key hKey
    obtain ⟨b, hLast, rfl⟩ := exists_last hKey
    rw [hLast, Option.map_some]
  rw [resolve, List.map_filterMap, hKeys, List.filterMap_some]

theorem nodup_keys_resolve (s : List Attr) : ((resolve s).map (·.key)).Nodup := by
  rw [keys_resolve]
  exact nodup_eraseDups _

theorem mem_of_mem_resolve {s : List Attr} {a : Attr} (h : a ∈ resolve s) : a ∈ s := by
  obtain ⟨key, -, hLast⟩ := List.mem_filterMap.mp h
  exact List.mem_reverse.mp (List.mem_of_find?_eq_some hLast)

theorem resolve_append (s : List Attr) (a : Attr) : resolve (s ++ [a]) = put a (resolve s) := by
  rw [resolve, resolve, put_filterMap (nodup_eraseDups _) a _ fun _ => exists_last]
  simp only [find?_reverse_append, List.map_append, List.map_cons, List.map_nil,
    List.eraseDups_append, List.filterMap_append]
  by_cases h : a.key ∈ s.map (·.key)
  · simp [List.removeAll, List.mem_eraseDups, List.mem_map.mp h]
  · simp [List.removeAll, List.mem_eraseDups, mt List.mem_map.mpr h, List.eraseDups_cons]

end Attr

namespace AttrTable

/-- The index gives the first position of each key. -/
def Exact (t : AttrTable) : Prop := t.index = .of t.attrs

theorem exact_empty : empty.Exact := rfl

theorem exact_ofList (attrs : List Attr) : (ofList attrs).Exact := rfl

theorem Exact.put_attrs {t : AttrTable} (h : t.Exact) (a : Attr) :
    (t.put a).attrs = a.put t.attrs := by
  rw [AttrTable.put, h, KeyIndex.get?_of]
  split
  · rename_i i found
    exact (Attr.put_of_findIdx?_some found).symm
  · rename_i missing
    exact (Attr.put_of_findIdx?_none missing).symm

theorem Exact.put {t : AttrTable} (h : t.Exact) (a : Attr) : (t.put a).Exact := by
  rw [Exact, h.put_attrs, AttrTable.put, h, KeyIndex.get?_of]
  split
  · rename_i i found
    have hMember : a.key ∈ t.attrs.map (·.key) := by
      obtain ⟨hi, hKey, _⟩ := List.findIdx?_eq_some_iff_getElem.mp found
      exact List.mem_map.mpr ⟨t.attrs[i], List.getElem_mem hi, by simpa using hKey⟩
    exact KeyIndex.addFrom_congr _ _ (by rw [Attr.keys_put, if_pos hMember])
  · rename_i missing
    rw [Attr.put_of_findIdx?_none missing, KeyIndex.of, KeyIndex.of, KeyIndex.addFrom_append]
    simp [KeyIndex.addFrom]

theorem Exact.merge {t : AttrTable} (h : t.Exact) (attrs : List Attr) : (t.merge attrs).Exact := by
  induction attrs generalizing t with
  | nil => exact h
  | cons a r ih => exact ih (h.put a)

theorem Exact.merge_attrs {t : AttrTable} (h : t.Exact) (attrs : List Attr) :
    (t.merge attrs).attrs = attrs.foldl (fun as a => a.put as) t.attrs := by
  induction attrs generalizing t with
  | nil => rfl
  | cons a r ih =>
    rw [List.foldl_cons, ← h.put_attrs]
    exact ih (h.put a)

theorem merge_append (t : AttrTable) (as bs : List Attr) :
    t.merge (as ++ bs) = (t.merge as).merge bs := List.foldl_append

/-- Merging into an empty table leaves one attribute for each key. -/
theorem merge_empty_attrs (s : List Attr) : (empty.merge s).attrs = Attr.resolve s := by
  rw [exact_empty.merge_attrs]
  induction s using List.reverseRecOn with
  | nil => rfl
  | append_singleton s a ih =>
    rw [List.foldl_append, List.foldl_cons, List.foldl_nil, ih, Attr.resolve_append]

end AttrTable

end Logline
