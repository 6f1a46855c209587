import Logline.Text.Case
import Logline.Proofs.TrimmedText
import Mathlib.Data.List.Basic

/-! # Letter case of texts

The case tables send no character to one that lower case would change again, and none to a blank.
So lower case is stable, and a trimmed text stays trimmed in either case. Lower case takes upper
case back for every character whose two mappings fit together, those of ASCII among them. A sharp
s, a sigma or a dotless i does not come back.
-/

namespace Logline.Text

theorem ofNat_cases (n : Nat) : (Char.ofNat n).toNat = n ∨ Char.ofNat n = '\x00' := by
  by_cases h : n.isValidChar
  · left
    rw [Char.ofNat, dif_pos h]
    rfl
  · right
    rw [Char.ofNat, dif_neg h]
    rfl

/-! ## Runs of a table -/

namespace CaseRun

variable {r s : CaseRun} {n : Nat}

theorem contains_iff : r.contains n ↔ r.first ≤ n ∧ n ≤ r.last ∧ (n - r.first) % r.stride = 0 := by
  simp [contains, and_assoc]

def lastTarget (r : CaseRun) : Nat := r.target + (r.last - r.first)

/-- Nothing that `r` maps to is in `s`: the two lie apart, or `s` steps over it. -/
def avoids (r s : CaseRun) : Bool :=
  r.lastTarget.blt s.first || s.last.blt r.target ||
    (s.first.ble r.target && ((r.stride % s.stride).beq 0 || r.first.beq r.last) &&
      !((r.target - s.first) % s.stride).beq 0)

theorem not_contains_of_avoids (h : r.avoids s) (hn : r.contains n) :
    ¬ s.contains (r.target + (n - r.first)) := by
  obtain ⟨hFirst, hLast, hStride⟩ := contains_iff.mp hn
  simp only [avoids, lastTarget, Bool.or_eq_true, Bool.and_eq_true, Bool.not_eq_true',
    ← Bool.not_eq_true, Nat.blt_eq, Nat.ble_eq, Nat.beq_eq] at h
  rw [contains_iff]
  rintro ⟨hLow, hHigh, hSource⟩
  rcases h with (hBelow | hAbove) | ⟨⟨hStart, hSteps⟩, hOff⟩
  · omega
  · omega
  · -- A step of `r` is a whole number of steps of `s`, so all of `r` is as far off as its start.
    have hWhole : (n - r.first) % s.stride = 0 := by
      rcases hSteps with hSteps | hSingle
      · exact Nat.mod_eq_zero_of_dvd (Nat.dvd_trans (Nat.dvd_of_mod_eq_zero hSteps)
          (Nat.dvd_of_mod_eq_zero hStride))
      · rw [show n - r.first = 0 by omega, Nat.zero_mod]
    rw [show r.target + (n - r.first) - s.first = r.target - s.first + (n - r.first) by omega,
      Nat.add_mod, hWhole, Nat.add_zero, Nat.mod_mod] at hSource
    exact hOff hSource

end CaseRun

variable {c d : Char} {runs : List CaseRun} {expansions : List (Nat × List Nat)}

theorem mapCase_expanded {cs : List Nat} (h : expansions.lookup c.toNat = some cs) :
    mapCase runs expansions c = cs.map Char.ofNat := by rw [mapCase, h]

theorem mapCase_run {r : CaseRun} (h : expansions.lookup c.toNat = none)
    (hRun : runs.find? (·.contains c.toNat) = some r) :
    mapCase runs expansions c = [Char.ofNat (r.target + (c.toNat - r.first))] := by
  simp only [mapCase, h, hRun]

theorem contains_of_find? {r : CaseRun} {n : Nat} (h : runs.find? (·.contains n) = some r) :
    r.contains n := by
  have hContains := List.find?_some h
  exact hContains

theorem mapCase_self (h : expansions.lookup c.toNat = none)
    (hRun : runs.find? (·.contains c.toNat) = none) : mapCase runs expansions c = [c] := by
  simp only [mapCase, h, hRun]

theorem mem_of_lookup {α : Type} {xs : List (Nat × α)} {n : Nat} {a : α}
    (h : xs.lookup n = some a) : (n, a) ∈ xs := by
  obtain ⟨before, after, rfl, -⟩ := List.lookup_eq_some_iff.mp h
  simp

theorem lookup_eq_none {α : Type} {xs : List (Nat × α)} {n : Nat} (h : ∀ x ∈ xs, x.1 ≠ n) :
    xs.lookup n = none :=
  List.lookup_eq_none_iff.mpr fun x hx => bne_iff_ne.mpr (h x hx).symm

/-! ## Lower case is stable -/

/-- A character that lower case leaves as it is, wherever it stands. -/
def IsLower (c : Char) : Prop := c ≠ 'Σ' ∧ mapCase lowerRuns lowerExpansions c = [c]

instance (c : Char) : Decidable (IsLower c) := inferInstanceAs (Decidable (_ ∧ _))

/-- Everything that lower case changes, as runs. -/
def lowerSources : List CaseRun := lowerRuns ++ lowerExpansions.map fun e => ⟨e.1, e.1, 1, e.1⟩

theorem avoids_lowerSources : ∀ r ∈ lowerRuns, ∀ s ∈ lowerSources, r.avoids s := by
  have hAll : (lowerRuns.all fun r => lowerSources.all fun s => r.avoids s) = true := by
    decide +kernel
  simpa only [List.all_eq_true] using hAll

theorem isLower_of_notMem (h : ∀ s ∈ lowerSources, ¬ s.contains c.toNat) : IsLower c := by
  constructor
  · rintro rfl
    have hSigma : (lowerSources.find? fun s => s.contains ('Σ').toNat).isSome := by decide +kernel
    obtain ⟨s, hs, hContains⟩ := List.find?_isSome.mp hSigma
    exact h s hs hContains
  · refine mapCase_self (lookup_eq_none fun e he hSame => ?_) ?_
    · refine h ⟨e.1, e.1, 1, e.1⟩ (List.mem_append_right _ (List.mem_map_of_mem he)) ?_
      rw [CaseRun.contains_iff, hSame]
      simp
    · exact List.find?_eq_none.mpr fun s hs => h s (List.mem_append_left _ hs)

theorem isLower_of_mem_mapCase (hc : c ≠ 'Σ') (hd : d ∈ mapCase lowerRuns lowerExpansions c) :
    IsLower d := by
  cases hLookup : lowerExpansions.lookup c.toNat with
  | some cs =>
    have hAll : ∀ e ∈ lowerExpansions, ∀ n ∈ e.2, IsLower (Char.ofNat n) := by decide +kernel
    rw [mapCase_expanded hLookup] at hd
    obtain ⟨n, hn, rfl⟩ := List.mem_map.mp hd
    exact hAll _ (mem_of_lookup hLookup) n hn
  | none =>
    cases hRun : lowerRuns.find? (·.contains c.toNat) with
    | some r =>
      rw [mapCase_run hLookup hRun] at hd
      obtain rfl := List.mem_singleton.mp hd
      rcases ofNat_cases (r.target + (c.toNat - r.first)) with hNat | hNul
      · refine isLower_of_notMem fun s hs => ?_
        rw [hNat]
        exact CaseRun.not_contains_of_avoids
          (avoids_lowerSources r (List.mem_of_find?_eq_some hRun) s hs) (contains_of_find? hRun)
      · rw [hNul]
        decide +kernel
    | none =>
      have hSelf := mapCase_self hLookup hRun
      rw [hSelf] at hd
      obtain rfl := List.mem_singleton.mp hd
      exact ⟨hc, hSelf⟩

theorem lowerFrom_of_isLower {cs : List Char} (h : ∀ c ∈ cs, IsLower c) (before : List Char) :
    lowerFrom before cs = cs := by
  induction cs generalizing before with
  | nil => rfl
  | cons c r ih =>
    obtain ⟨⟨hSigma, hSelf⟩, hRest⟩ := List.forall_mem_cons.mp h
    rw [lowerFrom, if_neg hSigma, hSelf, ih hRest]
    rfl

theorem isLower_lowerFrom (cs before : List Char) : ∀ d ∈ lowerFrom before cs, IsLower d := by
  induction cs generalizing before with
  | nil => exact List.forall_mem_nil _
  | cons c r ih =>
    rw [lowerFrom]
    refine List.forall_mem_append.mpr ⟨?_, ih _⟩
    split
    case isTrue => split <;> exact List.forall_mem_singleton.mpr (by decide +kernel)
    case isFalse hSigma => exact fun d hd => isLower_of_mem_mapCase hSigma hd

theorem lower_lower (s : String) : lower (lower s) = lower s := by
  have hLower := isLower_lowerFrom s.toList []
  rw [lower, lower, String.toList_ofList, lowerFrom_of_isLower hLower]

/-! ## Both cases keep the ends of a text -/

/-- A table that maps no character to nothing and none to a blank. -/
structure Solid (runs : List CaseRun) (expansions : List (Nat × List Nat)) : Prop where
  runs : ∀ r ∈ runs, ∀ b ∈ blankRanges, r.lastTarget < b.1 ∨ b.2 < r.target
  expansions : ∀ e ∈ expansions, e.2 ≠ [] ∧ ∀ n ∈ e.2, ¬ isBlank (Char.ofNat n)

theorem solid_lower : Solid lowerRuns lowerExpansions := ⟨by decide +kernel, by decide +kernel⟩

theorem solid_upper : Solid upperRuns upperExpansions := ⟨by decide +kernel, by decide +kernel⟩

theorem Solid.mapCase_ne_nil (h : Solid runs expansions) (c : Char) :
    mapCase runs expansions c ≠ [] := by
  cases hLookup : expansions.lookup c.toNat with
  | some cs =>
    rw [mapCase_expanded hLookup]
    exact fun hNil => (h.expansions _ (mem_of_lookup hLookup)).1 (List.map_eq_nil_iff.mp hNil)
  | none =>
    cases hRun : runs.find? (·.contains c.toNat) with
    | some r =>
      rw [mapCase_run hLookup hRun]
      exact List.cons_ne_nil _ _
    | none =>
      rw [mapCase_self hLookup hRun]
      exact List.cons_ne_nil _ _

theorem Solid.not_isBlank (h : Solid runs expansions) (hc : ¬ isBlank c)
    (hd : d ∈ mapCase runs expansions c) : ¬ isBlank d := by
  cases hLookup : expansions.lookup c.toNat with
  | some cs =>
    rw [mapCase_expanded hLookup] at hd
    obtain ⟨n, hn, rfl⟩ := List.mem_map.mp hd
    exact (h.expansions _ (mem_of_lookup hLookup)).2 n hn
  | none =>
    cases hRun : runs.find? (·.contains c.toNat) with
    | some r =>
      rw [mapCase_run hLookup hRun] at hd
      obtain rfl := List.mem_singleton.mp hd
      rcases ofNat_cases (r.target + (c.toNat - r.first)) with hNat | hNul
      · intro hBlank
        obtain ⟨b, hb, hLow, hHigh⟩ := exists_blankRange hBlank
        have hApart := h.runs r (List.mem_of_find?_eq_some hRun) b hb
        obtain ⟨hFirst, hLast, -⟩ := CaseRun.contains_iff.mp (contains_of_find? hRun)
        rw [hNat] at hLow hHigh
        simp only [CaseRun.lastTarget] at hApart
        omega
      · rw [hNul]
        decide
    | none =>
      rw [mapCase_self hLookup hRun] at hd
      rwa [List.mem_singleton.mp hd]

/-- Each character in a spelling of its own, which has no blank unless the character is one. -/
inductive Respelled : List Char → List Char → Prop
  | nil : Respelled [] []
  | cons {c : Char} {cs spelling ds : List Char} : spelling ≠ [] →
      (¬ isBlank c → ∀ d ∈ spelling, ¬ isBlank d) → Respelled cs ds →
      Respelled (c :: cs) (spelling ++ ds)

theorem respelled_upperChars (cs : List Char) : Respelled cs (upperChars cs) := by
  induction cs with
  | nil => exact .nil
  | cons c r ih =>
    exact .cons (solid_upper.mapCase_ne_nil c) (fun hc d hd => solid_upper.not_isBlank hc hd) ih

theorem respelled_lowerFrom (cs before : List Char) : Respelled cs (lowerFrom before cs) := by
  induction cs generalizing before with
  | nil => exact .nil
  | cons c r ih =>
    rw [lowerFrom]
    split
    case isTrue =>
      refine .cons (List.cons_ne_nil _ _) (fun _ => List.forall_mem_singleton.mpr ?_) (ih _)
      split <;> decide
    case isFalse =>
      exact .cons (solid_lower.mapCase_ne_nil c) (fun hc d hd => solid_lower.not_isBlank hc hd)
        (ih _)

theorem Respelled.ne_nil {cs ds : List Char} (h : Respelled cs ds) (hcs : cs ≠ []) : ds ≠ [] := by
  cases h with
  | nil => exact hcs
  | cons hSpelling _ _ => exact fun hNil => hSpelling (List.append_eq_nil_iff.mp hNil).1

theorem Respelled.ends {cs ds : List Char} (h : Respelled cs ds) (hEnds : Ends cs) : Ends ds := by
  obtain ⟨hHead, hLast⟩ := hEnds
  constructor
  · cases h with
    | nil => exact hHead
    | @cons c cs spelling ds hSpelling hInk _ =>
      rw [List.head?_append_of_ne_nil _ hSpelling]
      exact fun d hd => hInk (hHead c rfl) d (List.mem_of_mem_head? hd)
  · clear hHead
    induction h with
    | nil => exact hLast
    | @cons c cs spelling ds hSpelling hInk hRest ih =>
      by_cases hEnd : cs = []
      · subst hEnd
        obtain rfl : ds = [] := by cases hRest; rfl
        rw [List.append_nil]
        exact fun d hd => hInk (hLast c rfl) d (List.mem_of_mem_getLast? hd)
      · rw [List.getLast?_append_of_ne_nil _ (hRest.ne_nil hEnd)]
        refine ih fun d hd => hLast d ?_
        rwa [List.getLast?_cons_of_ne_nil hEnd]

theorem trim_lower {s : String} (h : trim s = s) : trim (lower s) = lower s := by
  rw [trim_eq_self_iff] at h ⊢
  rw [lower, String.toList_ofList]
  exact (respelled_lowerFrom s.toList []).ends h

theorem trim_upper {s : String} (h : trim s = s) : trim (upper s) = upper s := by
  rw [trim_eq_self_iff] at h ⊢
  rw [upper, String.toList_ofList]
  exact (respelled_upperChars s.toList).ends h

/-! ## Characters that come back from upper case -/

/-- Lower case takes back what upper case does to the character, wherever it stands. -/
def Returns (c : Char) : Prop :=
  'Σ' ∉ mapCase upperRuns upperExpansions c ∧
    (mapCase upperRuns upperExpansions c).flatMap (mapCase lowerRuns lowerExpansions) =
      mapCase lowerRuns lowerExpansions c

theorem lowerFrom_eq_flatMap {cs : List Char} (h : 'Σ' ∉ cs) (before : List Char) :
    lowerFrom before cs = cs.flatMap (mapCase lowerRuns lowerExpansions) := by
  induction cs generalizing before with
  | nil => rfl
  | cons c r ih =>
    have hc : c ≠ 'Σ' := fun hc => h (hc ▸ List.mem_cons_self)
    have hr : 'Σ' ∉ r := fun hr => h (List.mem_cons_of_mem _ hr)
    rw [lowerFrom, if_neg hc, ih hr, List.flatMap_cons]

theorem Returns.ne_sigma (h : Returns c) : c ≠ 'Σ' := by
  rintro rfl
  have hSigma : mapCase upperRuns upperExpansions 'Σ' = ['Σ'] := by decide +kernel
  exact h.1 (hSigma ▸ List.mem_singleton_self _)

/-- Upper case leaves the lower case of the text as it is. -/
def ComesBack (s : String) : Prop := lower (upper s) = lower s

theorem comesBack_of_returns {s : String} (h : ∀ c ∈ s.toList, Returns c) : ComesBack s := by
  have hUpper : 'Σ' ∉ upperChars s.toList := fun hMem => by
    obtain ⟨c, hc, hSigma⟩ := List.mem_flatMap.mp hMem
    exact (h c hc).1 hSigma
  have hSelf : 'Σ' ∉ s.toList := fun hMem => (h _ hMem).ne_sigma rfl
  rw [ComesBack, lower, lower, upper, String.toList_ofList, lowerFrom_eq_flatMap hUpper,
    lowerFrom_eq_flatMap hSelf, upperChars, List.flatMap_assoc]
  exact congrArg String.ofList (List.flatMap_congr fun c hc => (h c hc).2)

/-- The first run of a table is the one for the letters of ASCII, and all else is above it. -/
theorem mapCase_ascii {r : CaseRun} (hRuns : ∀ s ∈ runs, 128 ≤ s.first)
    (hExpansions : ∀ e ∈ expansions, 128 ≤ e.1) (hc : c.toNat < 128) :
    mapCase (r :: runs) expansions c =
      if r.contains c.toNat then [Char.ofNat (r.target + (c.toNat - r.first))] else [c] := by
  have hLookup : expansions.lookup c.toNat = none := lookup_eq_none fun e he hSame => by
    have hHigh := hExpansions e he
    omega
  split
  case isTrue hFirst =>
    have hFind : (r :: runs).find? (·.contains c.toNat) = some r := List.find?_cons_of_pos hFirst
    exact mapCase_run hLookup hFind
  case isFalse hFirst =>
    refine mapCase_self hLookup (List.find?_eq_none.mpr ?_)
    refine List.forall_mem_cons.mpr ⟨hFirst, fun s hs hContains => ?_⟩
    have hHigh := hRuns s hs
    have hLow := (CaseRun.contains_iff.mp hContains).1
    omega

theorem forall_ascii {P : Char → Prop} (h : ∀ n : Fin 128, P (Char.ofNat n)) :
    ∀ c : Char, c.toNat < 128 → P c := fun c hc => by
  have hChar := h ⟨c.toNat, hc⟩
  rwa [Char.ofNat_toNat] at hChar

theorem upper_ascii (hc : c.toNat < 128) : mapCase upperRuns upperExpansions c = [c.toUpper] := by
  have hTable : mapCase (⟨0x61, 0x7a, 1, 0x41⟩ :: upperRuns.tail) upperExpansions c = _ :=
    mapCase_ascii (by decide +kernel) (by decide +kernel) hc
  have hLetters : ∀ d : Char, d.toNat < 128 →
      (if CaseRun.contains ⟨0x61, 0x7a, 1, 0x41⟩ d.toNat then
        [Char.ofNat (0x41 + (d.toNat - 0x61))] else [d]) = [d.toUpper] :=
    forall_ascii (by decide +kernel)
  exact hTable.trans (hLetters c hc)

theorem lower_ascii (hc : c.toNat < 128) : mapCase lowerRuns lowerExpansions c = [c.toLower] := by
  have hTable : mapCase (⟨0x41, 0x5a, 1, 0x61⟩ :: lowerRuns.tail) lowerExpansions c = _ :=
    mapCase_ascii (by decide +kernel) (by decide +kernel) hc
  have hLetters : ∀ d : Char, d.toNat < 128 →
      (if CaseRun.contains ⟨0x41, 0x5a, 1, 0x61⟩ d.toNat then
        [Char.ofNat (0x61 + (d.toNat - 0x41))] else [d]) = [d.toLower] :=
    forall_ascii (by decide +kernel)
  exact hTable.trans (hLetters c hc)

theorem returns_of_ascii (hc : c.toNat < 128) : Returns c := by
  have hLetters : ∀ d : Char, d.toNat < 128 → d.toUpper.toNat < 128 ∧
      d.toUpper.toLower = d.toLower := forall_ascii (by decide +kernel)
  obtain ⟨hUpper, hBack⟩ := hLetters c hc
  rw [Returns, upper_ascii hc, List.flatMap_singleton, lower_ascii hUpper, lower_ascii hc, hBack]
  refine ⟨fun hSigma => ?_, rfl⟩
  rw [← List.mem_singleton.mp hSigma] at hUpper
  exact absurd hUpper (by decide)

end Logline.Text
