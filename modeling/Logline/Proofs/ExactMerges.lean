import Logline.Proofs.ArgumentLists
import Logline.Proofs.MergedAttrs
import Mathlib.Data.List.Nodup

/-! # Exact merges

Puts, merges of lists and of arguments and overwritten values in any order, from any list on. The
index stays that of the list, also where the list began with a key twice, so it never leads past the
end. Keys that are there keep their positions, and merging what was merged just before changes
nothing: each of its keys is there, and the value it has last is the one it left.
-/

namespace Logline

namespace Attr

theorem keys_overwrite (attrs : List Attr) (i : Nat) (v : Value) :
    (attrs.modify i fun old => { old with value := v }).map (·.key) = attrs.map (·.key) := by
  induction attrs generalizing i with
  | nil => simp
  | cons a r ih =>
    cases i with
    | zero => simp
    | succ i => simp [ih]

/-- The keys that were there, in their places, and then some that were not, each once. -/
def AddsKeys (old new : List String) : Prop :=
  ∃ more, new = old ++ more ∧ more.Nodup ∧ ∀ key ∈ more, key ∉ old

theorem AddsKeys.refl (keys : List String) : AddsKeys keys keys :=
  ⟨[], (List.append_nil keys).symm, List.nodup_nil, nofun⟩

theorem AddsKeys.trans {old new last : List String} (h : AddsKeys old new)
    (h' : AddsKeys new last) : AddsKeys old last := by
  obtain ⟨more, rfl, hNodup, hNew⟩ := h
  obtain ⟨rest, rfl, hNodup', hNew'⟩ := h'
  refine ⟨more ++ rest, List.append_assoc .., ?_, ?_⟩
  · apply List.nodup_append.mpr
    refine ⟨hNodup, hNodup', ?_⟩
    rintro key hKey _ hRest rfl
    exact hNew' key hRest (List.mem_append_right old hKey)
  · intro key hKey hOld
    rcases List.mem_append.mp hKey with hKey | hKey
    · exact hNew key hKey hOld
    · exact hNew' key hKey (List.mem_append_left more hOld)

theorem AddsKeys.subset {old new : List String} (h : AddsKeys old new) : old ⊆ new := by
  obtain ⟨more, rfl, -⟩ := h
  exact List.subset_append_left old more

theorem addsKeys_put (a : Attr) (attrs : List Attr) :
    AddsKeys (attrs.map (·.key)) ((put a attrs).map (·.key)) := by
  rw [keys_put]
  split
  · exact .refl _
  · rename_i hMissing
    exact ⟨[a.key], rfl, List.nodup_singleton _, by simpa using hMissing⟩

theorem key_mem_put (a : Attr) (attrs : List Attr) : a.key ∈ (put a attrs).map (·.key) := by
  rw [keys_put]
  split
  · assumption
  · simp

theorem put_cases (a : Attr) (attrs : List Attr) :
    (∃ before b after, attrs = before ++ b :: after ∧ b.key = a.key ∧
      (∀ c ∈ before, c.key ≠ a.key) ∧ put a attrs = before ++ a :: after) ∨
    (∀ c ∈ attrs, c.key ≠ a.key) ∧ put a attrs = attrs ++ [a] := by
  induction attrs with
  | nil => exact .inr ⟨nofun, rfl⟩
  | cons b r ih =>
    by_cases hb : b.key = a.key
    · refine .inl ⟨[], b, r, rfl, hb, nofun, ?_⟩
      rw [put, if_pos hb, hb]
      rfl
    · rw [put, if_neg hb]
      rcases ih with ⟨before, c, after, rfl, hc, hBefore, hPut⟩ | ⟨hAll, hPut⟩
      · refine .inl ⟨b :: before, c, after, rfl, hc, ?_, by rw [hPut, List.cons_append]⟩
        exact List.forall_mem_cons.mpr ⟨hb, hBefore⟩
      · exact .inr ⟨List.forall_mem_cons.mpr ⟨hb, hAll⟩, by rw [hPut, List.cons_append]⟩

theorem put_put_of_eq {a b : Attr} (h : a.key = b.key) (attrs : List Attr) :
    put a (put b attrs) = put a attrs := by
  induction attrs with
  | nil =>
    rw [put, put, put, if_pos h.symm, ← h]
  | cons c r ih =>
    by_cases hb : c.key = b.key
    · simp [put, hb, h]
    · have ha : c.key ≠ a.key := by rwa [h]
      simp [put, hb, ha, ih]

theorem put_put_of_ne {a b : Attr} (h : a.key ≠ b.key) {attrs : List Attr}
    (hMem : b.key ∈ attrs.map (·.key)) : put b (put a attrs) = put a (put b attrs) := by
  -- Two new keys would stand in the order in which they came, so one of them has to be there.
  induction attrs with
  | nil => cases hMem
  | cons c r ih =>
    by_cases ha : c.key = a.key
    · simp [put, ha, h]
    · by_cases hb : c.key = b.key
      · simp [put, hb, Ne.symm h]
      · have hRest : b.key ∈ r.map (·.key) := by simpa [Ne.symm hb] using hMem
        simp [put, ha, hb, ih hRest]

def putAll (attrs into : List Attr) : List Attr := attrs.foldl (fun into a => put a into) into

theorem addsKeys_putAll (attrs into : List Attr) :
    AddsKeys (into.map (·.key)) ((putAll attrs into).map (·.key)) := by
  induction attrs generalizing into with
  | nil => exact .refl _
  | cons a r ih => exact (addsKeys_put a into).trans (ih (put a into))

theorem key_mem_putAll {a : Attr} {attrs : List Attr} (ha : a ∈ attrs) (into : List Attr) :
    a.key ∈ (putAll attrs into).map (·.key) := by
  induction attrs generalizing into with
  | nil => cases ha
  | cons b r ih =>
    rcases List.mem_cons.mp ha with rfl | ha
    · exact (addsKeys_putAll r (put a into)).subset (key_mem_put a into)
    · exact ih ha (put b into)

/-- What is put in the end need not be put before, if the keys between are there already. -/
theorem put_putAll_put (a : Attr) {attrs into : List Attr}
    (hKeys : ∀ b ∈ attrs, b.key ∈ into.map (·.key)) :
    put a (putAll attrs (put a into)) = put a (putAll attrs into) := by
  induction attrs generalizing into with
  | nil => exact put_put_of_eq rfl into
  | cons b r ih =>
    change put a (putAll r (put b (put a into))) = put a (putAll r (put b into))
    by_cases h : a.key = b.key
    · rw [put_put_of_eq h.symm]
    · rw [put_put_of_ne h (hKeys b List.mem_cons_self)]
      apply ih
      intro c hc
      exact (addsKeys_put b into).subset (hKeys c (List.mem_cons_of_mem b hc))

theorem putAll_putAll (attrs into : List Attr) :
    putAll attrs (putAll attrs into) = putAll attrs into := by
  -- The last attribute is put at the end of both rounds, so the first one of them can be left out.
  induction attrs using List.reverseRecOn with
  | nil => rfl
  | append_singleton s a ih =>
    have hLast : ∀ into, putAll (s ++ [a]) into = put a (putAll s into) := fun into => by
      rw [putAll, putAll, List.foldl_append]
      rfl
    rw [hLast, hLast, put_putAll_put a fun b hb => key_mem_putAll hb into, ih]

end Attr

namespace AttrTable

inductive Edit where
  | put (a : Attr)
  | merge (attrs : List Attr)
  | mergeArgs (args : List Arg)
  | setValue (i : Nat) (v : Value)

def perform (t : AttrTable) : Edit → AttrTable
  | .put a => t.put a
  | .merge attrs => t.merge attrs
  | .mergeArgs args => t.mergeArgs args
  | .setValue i v => t.setValue i v

/-- The table of a list after a row of operations. -/
def ofEdits (start : List Attr) (edits : List Edit) : AttrTable :=
  edits.foldl perform (ofList start)

/-- A put that fails where the index leads past the end. -/
def put? (t : AttrTable) (a : Attr) : Option AttrTable :=
  match t.index.get? a.key with
  | some i => if i < t.attrs.length then some (t.put a) else none
  | none => some (t.put a)

def perform? (t : AttrTable) : Edit → Option AttrTable
  | .put a => t.put? a
  | .merge attrs => attrs.foldl (fun t a => t.bind (·.put? a)) (some t)
  | .mergeArgs args => Arg.feed (fun t a => t.bind (·.put? a)) args (some t)
  | .setValue i v => some (t.setValue i v)

/-- What a put makes of a table: the first attribute with the key is overwritten, or the table gets
one attribute more. -/
inductive Puts (t : AttrTable) (a : Attr) : AttrTable → Prop
  | overwrite {before after : List Attr} {b : Attr} : t.attrs = before ++ b :: after →
    b.key = a.key → (∀ c ∈ before, c.key ≠ a.key) → Puts t a ⟨before ++ a :: after, t.index⟩
  | append : (∀ c ∈ t.attrs, c.key ≠ a.key) → Puts t a ⟨t.attrs ++ [a], .of (t.attrs ++ [a])⟩

/-- The keys of a table are in the later table, at the same positions, and no key comes twice that
did not do so before. -/
structure Keeps (t s : AttrTable) : Prop where
  keys : Attr.AddsKeys (t.attrs.map (·.key)) (s.attrs.map (·.key))
  positions : ∀ key i, t.index.get? key = some i → s.index.get? key = some i

variable {t s : AttrTable}

theorem Exact.eq_of_attrs (ht : t.Exact) (hs : s.Exact) (h : t.attrs = s.attrs) : t = s := by
  have hIndex : t.index = s.index := by rw [ht, hs, h]
  cases t
  cases s
  congr

theorem of_congr {as bs : List Attr} (h : as.map (·.key) = bs.map (·.key)) :
    KeyIndex.of as = KeyIndex.of bs := KeyIndex.addFrom_congr _ _ h

theorem Exact.puts (h : t.Exact) (a : Attr) : t.Puts a (t.put a) := by
  rcases Attr.put_cases a t.attrs with ⟨before, b, after, hAttrs, hb, hBefore, hPut⟩ | ⟨hAll, hPut⟩
  · have hSame : t.put a = ⟨before ++ a :: after, t.index⟩ := by
      apply (h.put a).eq_of_attrs
      · rw [Exact, h, hAttrs]
        apply of_congr
        simp [hb]
      · rw [h.put_attrs, hPut]
    rw [hSame]
    exact .overwrite hAttrs hb hBefore
  · have hMore : t.put a = ⟨t.attrs ++ [a], .of (t.attrs ++ [a])⟩ := by
      apply (h.put a).eq_of_attrs (exact_ofList _)
      rw [h.put_attrs, hPut]
      rfl
    rw [hMore]
    exact .append hAll

theorem Exact.setValue (h : t.Exact) (i : Nat) (v : Value) : (t.setValue i v).Exact :=
  h.trans (of_congr (Attr.keys_overwrite t.attrs i v).symm)

theorem Exact.perform (h : t.Exact) (edit : Edit) : (t.perform edit).Exact := by
  cases edit with
  | put a => exact h.put a
  | merge attrs => exact h.merge attrs
  | mergeArgs args =>
    rw [AttrTable.perform, mergeArgs_eq]
    exact h.merge _
  | setValue i v => exact h.setValue i v

theorem Exact.performAll (h : t.Exact) (edits : List Edit) :
    (edits.foldl AttrTable.perform t).Exact := by
  induction edits generalizing t with
  | nil => exact h
  | cons edit r ih => exact ih (h.perform edit)

/-! ## Within the list -/

theorem Exact.put?_eq (h : t.Exact) (a : Attr) : t.put? a = some (t.put a) := by
  rw [put?, h, KeyIndex.get?_of]
  cases hFound : t.attrs.findIdx? (·.key == a.key) with
  | none => rfl
  | some i =>
    obtain ⟨hi, -⟩ := List.findIdx?_eq_some_iff_getElem.mp hFound
    exact if_pos hi

theorem Exact.merge?_eq (h : t.Exact) (attrs : List Attr) :
    attrs.foldl (fun t a => t.bind (·.put? a)) (some t) = some (t.merge attrs) := by
  induction attrs generalizing t with
  | nil => rfl
  | cons a r ih =>
    rw [List.foldl_cons, Option.bind_some, h.put?_eq]
    exact ih (h.put a)

theorem Exact.perform?_eq (h : t.Exact) (edit : Edit) :
    t.perform? edit = some (t.perform edit) := by
  cases edit with
  | put a => exact h.put?_eq a
  | merge attrs => exact h.merge?_eq attrs
  | mergeArgs args =>
    rw [perform?, Arg.feed_eq_foldl, ← Arg.toAttrs_eq, h.merge?_eq, ← mergeArgs_eq]
    rfl
  | setValue i v => rfl

theorem Exact.performAll?_eq (h : t.Exact) (edits : List Edit) :
    edits.foldlM perform? t = some (edits.foldl AttrTable.perform t) := by
  induction edits generalizing t with
  | nil => rfl
  | cons edit r ih =>
    rw [List.foldlM_cons, h.perform?_eq]
    exact ih (h.perform edit)

/-! ## What stays -/

theorem Exact.keeps_of_keys (ht : t.Exact) (hs : s.Exact)
    (hKeys : Attr.AddsKeys (t.attrs.map (·.key)) (s.attrs.map (·.key))) : t.Keeps s := by
  refine ⟨hKeys, fun key i hFound => ?_⟩
  have hPosition : ∀ attrs : List Attr,
      (KeyIndex.of attrs).get? key = (attrs.map (·.key)).findIdx? (· == key) := fun attrs => by
    rw [KeyIndex.get?_of, List.findIdx?_map]
    rfl
  obtain ⟨more, hMore, -⟩ := hKeys
  rw [ht, hPosition] at hFound
  rw [hs, hPosition, hMore, List.findIdx?_append, hFound]
  rfl

theorem Exact.addsKeys_merge (h : t.Exact) (attrs : List Attr) :
    Attr.AddsKeys (t.attrs.map (·.key)) ((t.merge attrs).attrs.map (·.key)) := by
  rw [h.merge_attrs]
  exact Attr.addsKeys_putAll attrs t.attrs

theorem Exact.addsKeys_perform (h : t.Exact) (edit : Edit) :
    Attr.AddsKeys (t.attrs.map (·.key)) ((t.perform edit).attrs.map (·.key)) := by
  cases edit with
  | put a => exact h.addsKeys_merge [a]
  | merge attrs => exact h.addsKeys_merge attrs
  | mergeArgs args =>
    rw [AttrTable.perform, mergeArgs_eq]
    exact h.addsKeys_merge _
  | setValue i v =>
    rw [AttrTable.perform, AttrTable.setValue, Attr.keys_overwrite]
    exact .refl _

theorem Exact.keeps_performAll (h : t.Exact) (edits : List Edit) :
    t.Keeps (edits.foldl AttrTable.perform t) := by
  apply h.keeps_of_keys (h.performAll edits)
  induction edits generalizing t with
  | nil => exact .refl _
  | cons edit r ih => exact (h.addsKeys_perform edit).trans (ih (h.perform edit))

theorem Exact.merge_merge (h : t.Exact) (attrs : List Attr) :
    (t.merge attrs).merge attrs = t.merge attrs := by
  have hOnce := h.merge attrs
  apply (hOnce.merge attrs).eq_of_attrs hOnce
  rw [hOnce.merge_attrs, h.merge_attrs]
  exact Attr.putAll_putAll attrs t.attrs

theorem Exact.nodup_keys (h : t.Exact) (edits : List Edit) (hStart : t.attrs = []) :
    ((edits.foldl AttrTable.perform t).attrs.map (·.key)).Nodup := by
  obtain ⟨more, hMore, hNodup, -⟩ := (h.keeps_performAll edits).keys
  rw [hMore, hStart]
  exact hNodup

/-- After any row of operations on any list the index is that of the list, and none of them was led
past its end. The next put overwrites one attribute or adds one, and later operations leave every
key in its place. Arguments are merged as the attributes they give, two merges are one of both
lists, and the second merge of one list changes nothing. -/
theorem ofEdits_exact (start : List Attr) (edits : List Edit) :
    (ofEdits start edits).index = .of (ofEdits start edits).attrs ∧
    (∀ key, (ofEdits start edits).index.get? key =
      (ofEdits start edits).attrs.findIdx? (·.key == key)) ∧
    edits.foldlM perform? (ofList start) = some (ofEdits start edits) ∧
    (∀ a, (ofEdits start edits).Puts a ((ofEdits start edits).put a)) ∧
    (∀ more, (ofEdits start edits).Keeps (ofEdits start (edits ++ more))) ∧
    (∀ args, (ofEdits start edits).mergeArgs args =
      (ofEdits start edits).merge (Arg.toAttrs args)) ∧
    (∀ as bs, ((ofEdits start edits).merge as).merge bs = (ofEdits start edits).merge (as ++ bs)) ∧
    (∀ as, ((ofEdits start edits).merge as).merge as = (ofEdits start edits).merge as) ∧
    ((ofEdits [] edits).attrs.map (·.key)).Nodup := by
  have hStart : (ofList start).Exact := exact_ofList start
  have h : (ofEdits start edits).Exact := hStart.performAll edits
  refine ⟨h, ?_, hStart.performAll?_eq edits, h.puts, ?_, mergeArgs_eq _, ?_, h.merge_merge, ?_⟩
  · intro key
    rw [h, KeyIndex.get?_of]
  · intro more
    rw [ofEdits, ofEdits, List.foldl_append]
    exact h.keeps_performAll more
  · intro as bs
    exact (merge_append _ as bs).symm
  · exact (exact_ofList []).nodup_keys edits rfl

end AttrTable

end Logline
