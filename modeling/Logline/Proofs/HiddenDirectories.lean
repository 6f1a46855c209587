import Logline.Redactor
import Mathlib.Data.List.DropRight

/-! # Hidden directories

The working directory and the home directory are each known by their path without the separators at
its end. A path that is one of them, or that goes on from one with a separator, is shown with a sign
in place of the directory; any other path is shown as it is. A shown path then leads to neither of
them, if their paths do not start with a sign themselves.
-/

namespace Logline.Redactor

/-- The text `given` stands for the directory `dir`, with any separators at its end. Separators
alone stand for no directory. -/
structure Names (given dir : String) : Prop where
  nonempty : dir.toList ≠ []
  closed : ∀ c ∈ dir.toList.getLast?, isSeparator c = false
  separators : ∃ tail, given = dir ++ tail ∧ ∀ c ∈ tail.toList, isSeparator c

/-- The path is the directory of a text followed by `rest`, which is empty or starts with a
separator. -/
def Under (given : Option String) (path rest : String) : Prop :=
  ∃ s ∈ given, ∃ dir, Names s dir ∧ path = dir ++ rest ∧ ∀ c ∈ rest.toList.head?, isSeparator c

def Below (given : Option String) (path : String) : Prop := ∃ rest, Under given path rest

/-- The signs for the working directory and the home directory. -/
def IsSign (c : Char) : Prop := c = '.' ∨ c = '~'

instance (c : Char) : Decidable (IsSign c) := inferInstanceAs (Decidable (_ ∨ _))

def Signless (given : Option String) : Prop := ∀ s ∈ given, ∀ c ∈ s.toList.head?, ¬ IsSign c

def ofRules (rules : List (Pattern.Regex × String)) : Redactor := { empty with rules := rules }

/-- The redactor after the directories are given that there are. -/
def withDirectories (r : Redactor) (workingDirectory home : Option String) : Redactor :=
  let r := home.elim r r.withHome
  workingDirectory.elim r r.withWorkingDirectory

def rewritten (rewrites : List (String → String)) (path : String) : String :=
  rewrites.foldl (fun path rewrite => rewrite path) path

def rewrites (r : Redactor) : List (String → String) :=
  r.rules.map fun (regex, replacement) path => regex.replaceAll path replacement

/-- Redacts a path with other rewritings in the place of the rules. -/
def redactBy (r : Redactor) (rewrites : List (String → String)) (path : String) : String :=
  r.replaceDirectories (rewritten rewrites path)

variable {given c h : Option String} {dir path rest : String}

theorem redact_eq_redactBy (r : Redactor) (path : String) :
    r.redact path = r.redactBy r.rewrites path := by
  rw [redact, redactBy, rewritten, rewrites, List.foldl_map, applyRules]

theorem withDirectories_ofRules (rules : List (Pattern.Regex × String)) (c h : Option String) :
    (ofRules rules).withDirectories c h = ⟨rules, c.bind normalize, h.bind normalize⟩ := by
  cases c <;> cases h <;> rfl

/-! ## Directories -/

theorem normalize_of_rdropWhile {s : String}
    (h : s.toList.rdropWhile isSeparator = dir.toList) (hNonempty : dir.toList ≠ []) :
    normalize s = some dir := by
  rw [normalize, ← List.rdropWhile, h]
  split
  next hNil => exact absurd hNil hNonempty
  next => rw [String.ofList_toList]

theorem normalize_eq_some_iff {s : String} : normalize s = some dir ↔ Names s dir := by
  constructor
  · have hSplit : s.toList.rdropWhile isSeparator ++ s.toList.rtakeWhile isSeparator = s.toList :=
      List.rdropWhile_append_rtakeWhile
    have hOpen := List.rdropWhile_last_not isSeparator s.toList
    intro hDir
    rw [normalize, ← List.rdropWhile] at hDir
    generalize s.toList.rdropWhile isSeparator = kept at hDir hSplit hOpen
    split at hDir
    next => cases hDir
    next hNonempty =>
      obtain rfl := Option.some.inj hDir
      refine ⟨by simpa using hNonempty, fun c hc => ?_,
        String.ofList (s.toList.rtakeWhile isSeparator), ?_, ?_⟩
      · rw [String.toList_ofList, List.getLast?_eq_some_getLast hNonempty] at hc
        obtain rfl := Option.some.inj hc
        simpa using hOpen hNonempty
      · rw [← String.ofList_append, hSplit, String.ofList_toList]
      · rw [String.toList_ofList]
        exact fun c hc => List.mem_rtakeWhile_imp hc
  · rintro ⟨hNonempty, hClosed, tail, rfl, hTail⟩
    have hReversed : ∀ c ∈ tail.toList.reverse, isSeparator c :=
      fun c hc => hTail c (List.mem_reverse.mp hc)
    refine normalize_of_rdropWhile ?_ hNonempty
    rw [String.toList_append, List.rdropWhile, List.reverse_append,
      List.dropWhile_append_of_pos hReversed]
    refine List.rdropWhile_eq_self_iff.mpr fun hl => ?_
    simpa using hClosed _ (List.getLast?_eq_some_getLast hl)

theorem exists_names_iff {s : String} : (∃ dir, Names s dir) ↔ ∃ a ∈ s.toList, ¬ isSeparator a := by
  have hNone : normalize s = none ↔ s.toList.rdropWhile isSeparator = [] := by
    rw [normalize, ← List.rdropWhile]
    split <;> simp_all
  simp only [← normalize_eq_some_iff, ← Option.isSome_iff_exists, Option.isSome_iff_ne_none]
  rw [ne_eq, hNone, List.rdropWhile_eq_nil_iff]
  push Not
  rfl

theorem Names.unique {s other : String} (h : Names s dir) (hOther : Names s other) : dir = other :=
  Option.some.inj ((normalize_eq_some_iff.mpr h).symm.trans (normalize_eq_some_iff.mpr hOther))

theorem stripChars_eq_some_iff {dir path rest : List Char} :
    stripChars dir path = some rest ↔ path = dir ++ rest := by
  induction dir generalizing path with
  | nil => simp [stripChars]
  | cons d dir ih =>
    cases path with
    | nil => simp [stripChars]
    | cons c path =>
      by_cases hSame : d = c
      · simp [stripChars, hSame, ih]
      · simp [stripChars, hSame, Ne.symm hSame]

theorem stripDirectory_eq_some_iff : stripDirectory dir path = some rest ↔
    path = dir ++ rest ∧ ∀ c ∈ rest.toList.head?, isSeparator c := by
  have hPath : path = dir ++ rest ↔ stripChars dir.toList path.toList = some rest.toList := by
    rw [stripChars_eq_some_iff, ← String.toList_append, String.toList_inj]
  rw [hPath, stripDirectory]
  cases stripChars dir.toList path.toList with
  | none => simp
  | some left =>
    obtain ⟨left, rfl⟩ : ∃ s : String, s.toList = left := ⟨String.ofList left, by simp⟩
    rw [Option.some_inj, String.toList_inj]
    cases hLeft : left.toList with
    | nil =>
      obtain rfl : left = "" := String.toList_inj.mp hLeft
      refine ⟨fun h => ⟨Option.some.inj h, ?_⟩, fun h => congrArg some h.1⟩
      simp [← Option.some.inj h]
    | cons d r =>
      have hText : String.ofList (d :: r) = left := by rw [← hLeft, String.ofList_toList]
      simp only [hText]
      refine ⟨fun h => ?_, fun ⟨h, hSeparator⟩ => ?_⟩
      · split at h
        case isTrue hSeparator =>
          obtain rfl := Option.some.inj h
          simpa [hLeft] using hSeparator
        case isFalse => cases h
      · rw [← h, hLeft] at hSeparator
        rw [if_pos (by simpa using hSeparator), h]

theorem bind_stripDirectory_eq_some_iff :
    (given.bind normalize).bind (stripDirectory · path) = some rest ↔ Under given path rest := by
  simp only [Option.bind_eq_some_iff, normalize_eq_some_iff, stripDirectory_eq_some_iff, Under,
    Option.mem_def]
  constructor
  · rintro ⟨dir, ⟨s, hs, hDir⟩, hPath, hRest⟩
    exact ⟨s, hs, dir, hDir, hPath, hRest⟩
  · rintro ⟨s, hs, dir, hDir, hPath, hRest⟩
    exact ⟨dir, ⟨s, hs, hDir⟩, hPath, hRest⟩

theorem bind_stripDirectory_eq_none_iff :
    (given.bind normalize).bind (stripDirectory · path) = none ↔ ¬ Below given path := by
  rw [Option.eq_none_iff_forall_ne_some, Below, not_exists]
  exact forall_congr' fun rest => not_congr bind_stripDirectory_eq_some_iff

/-! ## Shown paths -/

/-- A sign never is the first character of a path below a directory that has none. -/
theorem not_below_sign (hSignless : Signless given) {sign : Char} (hSign : IsSign sign)
    (rest : String) : ¬ Below given (String.singleton sign ++ rest) := by
  rintro ⟨below, s, hs, dir, ⟨hNonempty, -, tail, rfl, -⟩, hPath, -⟩
  obtain ⟨d, r, hDir⟩ := List.exists_cons_of_ne_nil hNonempty
  have hChars := congrArg String.toList hPath
  rw [String.toList_append, String.toList_append, hDir] at hChars
  obtain rfl : sign = d := by simpa using congrArg List.head? hChars
  exact hSignless _ hs sign (by simp [hDir]) hSign

/-- A path that goes on after a directory without a separator is not below it. -/
theorem not_below_append {s : String} (hDir : Names s dir) {a : Char} (hOpen : ¬ isSeparator a)
    (hRest : a ∈ rest.toList.head?) : ¬ Below (some s) (dir ++ rest) := by
  rintro ⟨other, same, hSame, dir', hDir', hPath, hOther⟩
  obtain rfl := Option.mem_some_iff.mp hSame
  obtain rfl := hDir.unique hDir'
  have hSame : rest.toList = other.toList := by
    have hChars := congrArg String.toList hPath
    rw [String.toList_append, String.toList_append] at hChars
    exact List.append_cancel_left hChars
  exact hOpen (hOther a (hSame ▸ hRest))

section Shown

variable (rules : List (Pattern.Regex × String)) (rewrites : List (String → String)) (p : String)

theorem replaceDirectories_of_under (hUnder : Under c path rest) :
    ((ofRules rules).withDirectories c h).replaceDirectories path = "." ++ rest := by
  rw [withDirectories_ofRules, replaceDirectories, bind_stripDirectory_eq_some_iff.mpr hUnder]

theorem replaceDirectories_of_under_home (hOutside : ¬ Below c path) (hUnder : Under h path rest) :
    ((ofRules rules).withDirectories c h).replaceDirectories path = "~" ++ rest := by
  rw [withDirectories_ofRules, replaceDirectories, bind_stripDirectory_eq_none_iff.mpr hOutside,
    bind_stripDirectory_eq_some_iff.mpr hUnder]

theorem replaceDirectories_of_not_below (hOutside : ¬ Below c path) (hAway : ¬ Below h path) :
    ((ofRules rules).withDirectories c h).replaceDirectories path = path := by
  rw [withDirectories_ofRules, replaceDirectories, bind_stripDirectory_eq_none_iff.mpr hOutside,
    bind_stripDirectory_eq_none_iff.mpr hAway]

theorem not_below_replaceDirectories (hc : Signless c) (hh : Signless h) (path : String) :
    ¬ Below c (((ofRules rules).withDirectories c h).replaceDirectories path) ∧
      ¬ Below h (((ofRules rules).withDirectories c h).replaceDirectories path) := by
  have hSign : ∀ {sign : Char} (rest : String), IsSign sign →
      ¬ Below c (String.singleton sign ++ rest) ∧ ¬ Below h (String.singleton sign ++ rest) :=
    fun rest hSign => ⟨not_below_sign hc hSign rest, not_below_sign hh hSign rest⟩
  by_cases hWorking : Below c path
  · obtain ⟨rest, hUnder⟩ := hWorking
    rw [replaceDirectories_of_under rules hUnder]
    exact hSign rest (.inl rfl)
  · by_cases hHome : Below h path
    · obtain ⟨rest, hUnder⟩ := hHome
      rw [replaceDirectories_of_under_home rules hWorking hUnder]
      exact hSign rest (.inr rfl)
    · rw [replaceDirectories_of_not_below rules hWorking hHome]
      exact ⟨hWorking, hHome⟩

end Shown

/-- A rewritten path that is in the working directory is shown as a point and what follows the
directory, else one in the home directory as a tilde and what follows, else it is shown as it is.
So no shown path is in either of them. Without rules a shown path is shown as it is. -/
theorem redact_hides {c h : Option String} (hWorking : Signless c) (hHome : Signless h)
    (rules : List (Pattern.Regex × String)) :
    let r := (ofRules rules).withDirectories c h
    (∀ rewrites p,
      (∀ rest, Under c (rewritten rewrites p) rest → r.redactBy rewrites p = "." ++ rest) ∧
      (¬ Below c (rewritten rewrites p) → ∀ rest, Under h (rewritten rewrites p) rest →
        r.redactBy rewrites p = "~" ++ rest) ∧
      (¬ Below c (rewritten rewrites p) → ¬ Below h (rewritten rewrites p) →
        r.redactBy rewrites p = rewritten rewrites p) ∧
      ¬ Below c (r.redactBy rewrites p) ∧ ¬ Below h (r.redactBy rewrites p)) ∧
    (∀ p, r.redact p = r.redactBy r.rewrites p) ∧
    (∀ s, (∃ dir, Names s dir) ↔ ∃ a ∈ s.toList, ¬ isSeparator a) ∧
    (∀ s dir, Names s dir → ∀ a rest, ¬ isSeparator a →
      ¬ Below (some s) (dir ++ (String.singleton a ++ rest))) ∧
    (rules = [] → ∀ p, r.redact (r.redact p) = r.redact p) := by
  intro r
  refine ⟨fun rewrites p => ⟨fun rest => ?_, fun hOutside rest => ?_, ?_, ?_⟩, ?_, ?_, ?_, ?_⟩
  · exact replaceDirectories_of_under rules
  · exact replaceDirectories_of_under_home rules hOutside
  · exact replaceDirectories_of_not_below rules
  · exact not_below_replaceDirectories rules hWorking hHome _
  · exact r.redact_eq_redactBy
  · exact fun s => exists_names_iff
  · exact fun s dir hDir a rest hOpen => not_below_append hDir hOpen (by simp)
  · rintro rfl p
    have hPlain : ∀ path, r.redact path = r.replaceDirectories path := fun path => by
      rw [redact, show r.rules = [] by rw [show r = _ from withDirectories_ofRules [] c h]]
      rfl
    obtain ⟨hOutside, hAway⟩ := not_below_replaceDirectories [] hWorking hHome p
    rw [hPlain p, hPlain]
    exact replaceDirectories_of_not_below [] hOutside hAway

/-- A working directory inside the home directory, each given with separators at its end, and a
path that is in the working directory once it is rewritten. -/
theorem redact_hides_of_project :
    (Signless (some "/home/alice/project/") ∧ Signless (some "/home/alice\\")) ∧
      ((ofRules []).withDirectories (some "/home/alice/project/") (some "/home/alice\\")).redactBy
        [("/home" ++ ·)] "/alice/project/src/lib.rs" = "./src/lib.rs" := by
  have hSignless : Signless (some "/home/alice/project/") ∧ Signless (some "/home/alice\\") := by
    constructor
    all_goals
      intro s hs c hc
      obtain rfl := Option.mem_some_iff.mp hs
      obtain rfl := Option.some.inj hc
      decide
  refine ⟨hSignless, ?_⟩
  obtain ⟨hShown, -⟩ := redact_hides hSignless.1 hSignless.2 []
  refine (hShown [("/home" ++ ·)] "/alice/project/src/lib.rs").1 "/src/lib.rs" ?_
  refine ⟨_, rfl, "/home/alice/project", normalize_eq_some_iff.mp (by decide), rfl, ?_⟩
  exact fun c hc => Option.some.inj hc ▸ rfl

/-- The root as the working directory: a path in it is shown as it is. -/
theorem redact_keeps_root :
    "/foo" = "/" ++ "foo" ∧ ((ofRules []).withDirectories (some "/") none).redact "/foo" = "/foo" ∧
      ∀ rest, "/foo" ≠ "." ++ rest := by
  refine ⟨rfl, by decide, fun rest hSame => ?_⟩
  have hChars := congrArg (·.toList.head?) hSame
  simp at hChars

end Logline.Redactor
