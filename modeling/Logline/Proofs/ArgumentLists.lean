import Logline.Attr
import Mathlib.Data.List.Basic

/-! # Argument lists

An argument list falls into parts. A text starts a part of two arguments, itself as the key and
whatever comes next; any other argument is a part of its own, and so is a text with nothing after
it. The list can be cut in no other way. What is read are the attributes of one part after the
other: an argument under its key, a group of given attributes under the key in front of them, given
attributes as they are, and what has no key under `!BADKEY`.
-/

namespace Logline.Arg

/-- An argument with the key in front of it, if it has one. -/
structure Part where
  key? : Option String
  arg : Arg

namespace Part

def args (p : Part) : List Arg := p.key?.toList.map (fun key => .value (.string key)) ++ [p.arg]

def attrs (p : Part) : List Attr :=
  match p.key?, p.arg with
  | some key, .value v => [⟨key, v⟩]
  | some key, .attr a => [⟨key, .group [a]⟩]
  | some key, .attrs as => [⟨key, .group as⟩]
  | none, .value v => [⟨badKey, v⟩]
  | none, .attr a => [a]
  | none, .attrs as => as

/-- A key without a value. -/
def Lone (p : Part) : Prop := ∃ key, p = ⟨none, .value (.string key)⟩

end Part

def parts : List Arg → List Part
  | .value (.string key) :: arg :: r => ⟨some key, arg⟩ :: parts r
  | arg :: r => ⟨none, arg⟩ :: parts r
  | [] => []

/-- The parts hold all arguments in order, and nothing comes after a key without a value. -/
structure Cut (args : List Arg) (ps : List Part) : Prop where
  whole : ps.flatMap Part.args = args
  keyed : ps.Pairwise fun p _ => ¬ p.Lone

/-- The list ends in a text that would be the key of an argument after it. -/
def EndsOnKey (args : List Arg) : Prop := ∃ p ∈ parts args, p.Lone

/-- Argument lists that give the attributes in one argument, one by one, as keys and values, or in
any mixture of these. -/
inductive Gives : List Arg → List Attr → Prop
  | whole (attrs : List Attr) : Gives [.attrs attrs] attrs
  | single (attrs : List Attr) : Gives (attrs.map .attr) attrs
  | pairs (attrs : List Attr) :
    Gives (attrs.flatMap fun a => [.value (.string a.key), .value a.value]) attrs
  | append {x y : List Arg} {as bs : List Attr} :
    Gives x as → Gives y bs → Gives (x ++ y) (as ++ bs)

/-! ## Cutting -/

theorem parts_cons {arg : Arg} {r : List Arg} (h : (⟨none, arg⟩ : Part).Lone → r = []) :
    parts (arg :: r) = ⟨none, arg⟩ :: parts r := by
  rw [parts]
  rintro key next s rfl rfl
  cases h ⟨key, rfl⟩

theorem cut_parts (args : List Arg) : Cut args (parts args) := by
  induction args using parts.induct with
  | case1 key arg r ih =>
    rw [parts]
    constructor
    · rw [List.flatMap_cons, ih.whole]
      rfl
    · refine List.pairwise_cons.mpr ⟨fun _ _ => ?_, ih.keyed⟩
      rintro ⟨_, hLone⟩
      cases hLone
  | case2 arg r hAlone ih =>
    have hEnd : (⟨none, arg⟩ : Part).Lone → r = [] := by
      rintro ⟨key, hLone⟩
      cases r with
      | nil => rfl
      | cons next s => exact absurd rfl (hAlone key next s (congrArg Part.arg hLone))
    rw [parts_cons hEnd]
    constructor
    · rw [List.flatMap_cons, ih.whole]
      rfl
    · refine List.pairwise_cons.mpr ⟨fun q hq hLone => ?_, ih.keyed⟩
      rw [hEnd hLone] at hq
      cases hq
  | case3 => exact ⟨rfl, .nil⟩

theorem Cut.eq_parts {args : List Arg} {ps : List Part} (h : Cut args ps) : ps = parts args := by
  obtain ⟨rfl, hKeyed⟩ := h
  induction ps with
  | nil => rfl
  | cons p r ih =>
    obtain ⟨hLast, hRest⟩ := List.pairwise_cons.mp hKeyed
    obtain ⟨key?, arg⟩ := p
    cases key? with
    | some key =>
      change _ = ⟨some key, arg⟩ :: parts (r.flatMap Part.args)
      rw [← ih hRest]
    | none =>
      -- Only the last part may be a text, or it would be the key of what comes next.
      change _ = parts (arg :: r.flatMap Part.args)
      rw [parts_cons, ← ih hRest]
      intro hLone
      cases r with
      | nil => rfl
      | cons q s => exact absurd hLone (hLast q List.mem_cons_self)

theorem parts_append {x y : List Arg} (hx : ¬ EndsOnKey x) :
    parts (x ++ y) = parts x ++ parts y := by
  symm
  apply Cut.eq_parts
  constructor
  · rw [List.flatMap_append, (cut_parts x).whole, (cut_parts y).whole]
  · refine List.pairwise_append.mpr ⟨(cut_parts x).keyed, (cut_parts y).keyed, ?_⟩
    intro p hp q _ hLone
    exact hx ⟨p, hp, hLone⟩

/-! ## Reading -/

theorem feed_eq_foldl {S : Type} (emit : S → Attr → S) (args : List Arg) (s : S) :
    feed emit args s = ((parts args).flatMap Part.attrs).foldl emit s := by
  -- By induction on the parts nothing is pending between two steps.
  induction args using parts.induct generalizing s with
  | case1 key arg r ih =>
    rw [parts, List.flatMap_cons, List.foldl_append, ← ih]
    cases arg <;> rfl
  | case2 arg r hAlone ih =>
    rw [parts, List.flatMap_cons, List.foldl_append, ← ih]
    · cases arg with
      | attr a => rfl
      | attrs as => rfl
      | value v =>
        cases v with
        | string key =>
          cases r with
          | nil => rfl
          | cons next s => exact absurd rfl (hAlone key next s rfl)
        | _ => rfl
    · exact hAlone
  | case3 => rfl

theorem toAttrs_eq (args : List Arg) : toAttrs args = (parts args).flatMap Part.attrs := by
  rw [toAttrs, feed_eq_foldl]
  simp

theorem toAttrs_append {x y : List Arg} (hx : ¬ EndsOnKey x) :
    toAttrs (x ++ y) = toAttrs x ++ toAttrs y := by
  rw [toAttrs_eq, toAttrs_eq, toAttrs_eq, parts_append hx, List.flatMap_append]

theorem parts_pairs (attrs : List Attr) :
    parts (attrs.flatMap fun a => [.value (.string a.key), .value a.value]) =
      attrs.map fun a => ⟨some a.key, .value a.value⟩ := by
  induction attrs with
  | nil => rfl
  | cons a r ih =>
    rw [List.map_cons, ← ih]
    rfl

theorem parts_single (attrs : List Attr) :
    parts (attrs.map .attr) = attrs.map fun a => ⟨none, .attr a⟩ := by
  induction attrs with
  | nil => rfl
  | cons a r ih =>
    rw [List.map_cons, List.map_cons, ← ih]
    rfl

theorem Gives.not_endsOnKey {args : List Arg} {attrs : List Attr} (h : Gives args attrs) :
    ¬ EndsOnKey args := by
  induction h with
  | whole attrs =>
    rintro ⟨p, hp, key, rfl⟩
    simp [parts] at hp
  | single attrs =>
    rintro ⟨p, hp, key, rfl⟩
    simp [parts_single] at hp
  | pairs attrs =>
    rintro ⟨p, hp, key, rfl⟩
    simp [parts_pairs] at hp
  | append _ _ ihX ihY =>
    rintro ⟨p, hp, hLone⟩
    rw [parts_append ihX] at hp
    rcases List.mem_append.mp hp with hp | hp
    · exact ihX ⟨p, hp, hLone⟩
    · exact ihY ⟨p, hp, hLone⟩

theorem Gives.toAttrs_eq {args : List Arg} {attrs : List Attr} (h : Gives args attrs) :
    toAttrs args = attrs := by
  induction h with
  | whole attrs => simp [Arg.toAttrs_eq, parts, Part.attrs]
  | single attrs => simp [Arg.toAttrs_eq, parts_single, List.flatMap_map, Part.attrs]
  | pairs attrs => simp [Arg.toAttrs_eq, parts_pairs, List.flatMap_map, Part.attrs]
  | append hX _ ihX ihY => rw [toAttrs_append hX.not_endsOnKey, ihX, ihY]

/-- Attributes are read as they are given, in whatever form. Reading goes from part to part of an
argument list, and what follows a list that is complete is read as if it stood alone. -/
theorem toAttrs_lossless :
    (∀ args attrs, Gives args attrs → toAttrs args = attrs) ∧
    (∀ x y, ¬ EndsOnKey x → toAttrs (x ++ y) = toAttrs x ++ toAttrs y) ∧
    ∀ args, ∃ ps, Cut args ps ∧ (∀ qs, Cut args qs → qs = ps) ∧
      toAttrs args = ps.flatMap Part.attrs := by
  refine ⟨fun args attrs h => h.toAttrs_eq, fun x y hx => toAttrs_append hx, fun args => ?_⟩
  exact ⟨parts args, cut_parts args, fun qs hCut => hCut.eq_parts, Arg.toAttrs_eq args⟩

example :
    toAttrs [.value (.string "a"), .attr ⟨"b", .int 1⟩, .value (.int 2), .attrs [⟨"c", .null⟩],
      .value (.string "d")] =
        [⟨"a", .group [⟨"b", .int 1⟩]⟩, ⟨badKey, .int 2⟩, ⟨"c", .null⟩, ⟨badKey, .string "d"⟩] :=
  rfl

end Logline.Arg

namespace Logline.AttrTable

theorem mergeArgs_eq (t : AttrTable) (args : List Arg) :
    t.mergeArgs args = t.merge (Arg.toAttrs args) := by
  rw [mergeArgs, Arg.feed_eq_foldl, Arg.toAttrs_eq]
  rfl

end Logline.AttrTable
