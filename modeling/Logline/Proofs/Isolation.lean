import Logline.Proofs.WholeCalls
import Logline.Proofs.Siblings
import Logline.Sink.Store

/-! # Isolated configurations

Whatever a program does with the loggers of an engine, one action does at most one of two things to
their hierarchy: it changes the configuration of one logger, or it adds one logger. So a
configuration is the parent's at the time when the logger was made, without the attributes, with the
options it was made with, and then with the changes made on the logger itself.
-/

namespace Logline

/-- A change of a configuration, with the identity of the router that it may have to build. -/
structure Change where
  router : Nat
  option : LoggerOption

/-- The changes that the options for a new logger make, with identities from `next` on. -/
def Change.ofOptions (next : Nat) (options : List LoggerOption) : List Change :=
  (options.zipIdx next).map fun (option, router) => ⟨router, option⟩

theorem Change.map_ofOptions (next : Nat) (options : List LoggerOption) :
    (ofOptions next options).map (·.option) = options := by
  rw [ofOptions, List.map_map]
  exact List.zipIdx_map_fst next options

/-- What changes leave of a setting: the value given to it last, or the one from before. -/
def Change.latest {α : Type} (given? : Change → Option α) (changes : List Change) (first : α) : α :=
  (changes.filterMap given?).getLastD first

theorem Change.latest_cons {α : Type} (given? : Change → Option α) (change : Change)
    (changes : List Change) (first : α) :
    latest given? (change :: changes) first =
      latest given? changes ((given? change).getD first) := by
  rw [latest, List.filterMap_cons]
  cases given? change with
  | none => rfl
  | some value => exact List.getLastD_cons ..

namespace NodeConfig

/-- A configuration after some changes, setting by setting. Attributes are not replaced: they go
after those that are there. -/
def after (config : NodeConfig) (changes : List Change) : NodeConfig where
  format := Change.latest (fun | ⟨_, .format mode⟩ => some mode | _ => none) changes config.format
  color := Change.latest (fun | ⟨_, .color mode⟩ => some mode | _ => none) changes config.color
  utc := Change.latest (fun | ⟨_, .utc on⟩ => some on | _ => none) changes config.utc
  timeLayout := Change.latest (fun | ⟨_, .timeLayout layout⟩ => some layout | _ => none) changes
    config.timeLayout
  level := Change.latest (fun | ⟨_, .level level⟩ => some level | _ => none) changes config.level
  attrs := config.attrs ++ changes.flatMap fun | ⟨_, .attrs attrs⟩ => attrs | _ => []
  router := Change.latest
    (fun
      | ⟨id, .sinks sinks⟩ => some (some ⟨id, { normal := sinks, errors := sinks }⟩)
      | ⟨_, .router router⟩ => some (some router)
      | _ => none)
    changes config.router
  contextKeys := Change.latest (fun | ⟨_, .contextKeys keys⟩ => some keys | _ => none) changes
    config.contextKeys
  extraFrames := Change.latest (fun | ⟨_, .extraFrames frames⟩ => some frames | _ => none) changes
    config.extraFrames
  caller := Change.latest (fun | ⟨_, .caller on⟩ => some on | _ => none) changes config.caller

/-- A configuration with changes made one after the other. -/
def changed (config : NodeConfig) (changes : List Change) : NodeConfig :=
  changes.foldl (fun config change => config.apply change.router change.option) config

theorem changed_append (config : NodeConfig) (changes more : List Change) :
    config.changed (changes ++ more) = (config.changed changes).changed more :=
  List.foldl_append

theorem applyAll_eq_changed (config : NodeConfig) (next : Nat) (options : List LoggerOption) :
    config.applyAll next options = config.changed (Change.ofOptions next options) := by
  induction options generalizing config next with
  | nil => rfl
  | cons option r ih => exact ih (config.apply next option) (next + 1)

theorem after_cons (config : NodeConfig) (change : Change) (changes : List Change) :
    config.after (change :: changes) =
      (config.apply change.router change.option).after changes := by
  obtain ⟨router, option⟩ := change
  simp only [after, Change.latest_cons, List.flatMap_cons, ← List.append_assoc]
  cases option <;> simp [apply, Router.single]

theorem changed_eq_after (config : NodeConfig) (changes : List Change) :
    config.changed changes = config.after changes := by
  induction changes generalizing config with
  | nil => simp [changed, after, Change.latest]
  | cons change r ih =>
    rw [after_cons]
    exact ih (config.apply change.router change.option)

end NodeConfig

/-- What a program does with the loggers of one engine. -/
inductive LoggerAction where
  | child (parent : NodeId) (name : String) (options : List LoggerOption)
  | withOption (parent : NodeId) (option : LoggerOption)
  | set (id : NodeId) (option : LoggerOption)
  | log (environment : Environment) (id : NodeId) (call : Call)
  | emit (environment : Environment) (id : NodeId) (call : Call)
  /-- Lets the next name that is made up be any one. -/
  | renumber (next : Nat)

namespace LoggerAction

/-- The actions that ask for a new logger, with the options for it. Where no name is given any one
may be made up. -/
inductive Makes : LoggerAction → NodeId → String → List LoggerOption → Prop
  | named {parent : NodeId} {name : String} {options : List LoggerOption} (given : name ≠ "") :
      Makes (.child parent name options) parent name options
  | unnamed {parent : NodeId} {name : String} {options : List LoggerOption} :
      Makes (.child parent "" options) parent name options
  | changed {parent : NodeId} {name : String} {option : LoggerOption} :
      Makes (.withOption parent option) parent name [option]

variable {W : Type} [SinkHost W]

def perform (s : System W) : LoggerAction → System W
  | child parent name options =>
    { s with engine := (s.engine.childWith parent name options).2 }
  | withOption parent option => { s with engine := (s.engine.withOption parent option).2 }
  | set id option => { s with engine := s.engine.setOption id option }
  | log environment id call => (s.log environment id call).2
  | emit environment id call => (s.emit environment id call).2
  | renumber next => { s with engine := { s.engine with nextName := next } }

/-- The logger that an action answers with. -/
def answer? (e : Engine) : LoggerAction → Option NodeId
  | child parent name options => some (e.childWith parent name options).1
  | withOption parent option => some (e.withOption parent option).1
  | _ => none

/-- The change that an action makes on a logger. -/
def changes (e : Engine) (id : NodeId) : LoggerAction → List Change
  | set other option => if other = id then [⟨e.nextRouter, option⟩] else []
  | _ => []

/-- An action is one of a logger that is there, and a name that it makes up is new. -/
def Possible (e : Engine) : LoggerAction → Prop
  | child parent name _ =>
    e.hierarchy.Has parent ∧
      (name = "" → e.hierarchy.child? parent (Naming.madeUp (e.freeName parent)) = none)
  | withOption parent _ =>
    e.hierarchy.Has parent ∧
      e.hierarchy.child? parent (Naming.madeUp (e.freeName parent)) = none
  | set id _ | log _ id _ | emit _ id _ => e.hierarchy.Has id
  | renumber _ => True

instance (e : Engine) : (action : LoggerAction) → Decidable (action.Possible e)
  | child .. | withOption .. => inferInstanceAs (Decidable (_ ∧ _))
  | set .. | log .. | emit .. => inferInstanceAs (Decidable (Hierarchy.Has _ _))
  | renumber _ => inferInstanceAs (Decidable True)

/-! ## One action -/

/-- What an action does to the loggers of an engine. -/
inductive Effect (e e' : Engine) : LoggerAction → Prop
  | kept {action : LoggerAction} (other : ∀ id, action.changes e id = [])
      (hierarchy : e'.hierarchy = e.hierarchy) (width : e'.nameWidth = e.nameWidth) :
      Effect e e' action
  | changed {id : NodeId} {option : LoggerOption}
      (hierarchy : e'.hierarchy = e.hierarchy.configure id (·.apply e.nextRouter option))
      (width : e'.nameWidth = e.nameWidth) : Effect e e' (.set id option)
  | made {action : LoggerAction} {parent : NodeId} {name : String} {options : List LoggerOption}
      (asked : action.Makes parent name options) (has : e.hierarchy.Has parent)
      (free : e.hierarchy.child? parent name = none)
      (answer : action.answer? e = some e.hierarchy.nextId)
      (hierarchy : e'.hierarchy = e.hierarchy.add parent name
        ((e.config parent).inherit.applyAll e.nextRouter options))
      (width : e'.nameWidth = max e.nameWidth name.length) : Effect e e' action

theorem Makes.changes_eq {action : LoggerAction} {parent : NodeId} {name : String}
    {options : List LoggerOption} (h : action.Makes parent name options) (e : Engine)
    (id : NodeId) : action.changes e id = [] := by
  cases h <;> rfl

theorem Makes.of_child {asked parent : NodeId} {given name : String}
    {options more : List LoggerOption} (h : (child asked given options).Makes parent name more) :
    parent = asked ∧ more = options := by
  cases h <;> exact ⟨rfl, rfl⟩

theorem Effect.of_bare {e e' : Engine} {action : LoggerAction}
    (other : ∀ id, action.changes e id = []) (h : e'.bare = e.bare) : Effect e e' action :=
  .kept other (congrArg Engine.hierarchy h : _) (congrArg Engine.nameWidth h : _)

theorem effect_childWith {e : Engine} {action : LoggerAction} {parent : NodeId} {given : String}
    {options : List LoggerOption}
    (hMakes : ∀ name, (given ≠ "" → name = given) → action.Makes parent name options)
    (hAnswer : action.answer? e = some (e.childWith parent given options).1)
    (hHas : e.hierarchy.Has parent)
    (hFree : given = "" →
      e.hierarchy.child? parent (Naming.madeUp (e.freeName parent)) = none) :
    Effect e (e.childWith parent given options).2 action := by
  have hChanges : ∀ id, action.changes e id = [] := (hMakes given fun _ => rfl).changes_eq e
  rw [Engine.childWith] at hAnswer ⊢
  split at hAnswer
  · next hEmpty =>
    have hGiven : given = "" := String.isEmpty_iff.mp hEmpty
    rw [if_pos hEmpty]
    exact .made (hMakes _ fun hNe => absurd hGiven hNe) hHas (hFree hGiven) hAnswer rfl rfl
  · next hEmpty =>
    rw [if_neg hEmpty]
    cases hFound : e.hierarchy.child? parent given with
    | some id => exact .kept hChanges rfl rfl
    | none =>
      rw [hFound] at hAnswer
      exact .made (hMakes given fun _ => rfl) hHas hFound hAnswer rfl rfl

/-- An action adds a logger, changes one, or leaves all of them as they are. -/
theorem effect (s : System W) {action : LoggerAction} (h : action.Possible s.engine) :
    Effect s.engine (action.perform s).engine action := by
  cases action with
  | child parent name options =>
    refine effect_childWith ?_ rfl h.1 h.2
    intro other hName
    by_cases hEmpty : name = ""
    · rw [hEmpty]
      exact .unnamed
    · rw [hName hEmpty]
      exact .named hEmpty
  | withOption parent option =>
    refine effect_childWith ?_ rfl h.1 fun _ => h.2
    intro other _
    exact .changed
  | set id option => exact .changed rfl rfl
  | log environment id call =>
    exact .of_bare (fun _ => rfl) (s.bare_log environment id call)
  | emit environment id call =>
    exact .of_bare (fun _ => rfl) (s.bare_emit environment id call)
  | renumber next => exact .kept (fun _ => rfl) rfl rfl

namespace Effect

variable {e e' : Engine} {action : LoggerAction} {id : NodeId}

theorem has_mono (h : Effect e e' action) (hId : e.hierarchy.Has id) : e'.hierarchy.Has id := by
  cases h with
  | kept _ hierarchy => rwa [hierarchy]
  | changed hierarchy => rwa [hierarchy, Hierarchy.has_configure]
  | made _ _ _ _ hierarchy =>
    rw [hierarchy]
    exact (Hierarchy.has_add ..).mpr (.inl hId)

/-- A logger that is there keeps its place, and its configuration is only changed by an action on
the logger itself. -/
theorem node_eq (h : Effect e e' action) (hId : e.hierarchy.Has id) :
    e'.hierarchy.node id =
      (e.hierarchy.node id).configure (·.changed (action.changes e id)) := by
  cases h with
  | kept other hierarchy =>
    rw [hierarchy, other]
    rfl
  | @changed target option hierarchy =>
    rw [hierarchy, Hierarchy.node_configure _ hId, changes]
    split <;> rfl
  | made asked _ _ _ hierarchy =>
    rw [hierarchy, Hierarchy.node_add hId, asked.changes_eq]
    rfl

theorem config_eq (h : Effect e e' action) (hId : e.hierarchy.Has id) :
    e'.config id = (e.config id).changed (action.changes e id) :=
  congrArg Node.config (h.node_eq hId)

/-- A logger that was not there before is the one that the action made. -/
theorem made_of_new (h : Effect e e' action) (hOld : ¬ e.hierarchy.Has id)
    (hNew : e'.hierarchy.Has id) :
    ∃ parent name options, action.Makes parent name options ∧ e.hierarchy.Has parent ∧
      action.answer? e = some id ∧ e'.hierarchy.node id =
        ⟨name, (e.hierarchy.node parent).ancestors ++ [parent],
          (e.config parent).inherit.applyAll e.nextRouter options⟩ := by
  cases h with
  | kept _ hierarchy =>
    rw [hierarchy] at hNew
    exact absurd hNew hOld
  | changed hierarchy =>
    rw [hierarchy, Hierarchy.has_configure] at hNew
    exact absurd hNew hOld
  | @made _ parent name options asked has _ answer hierarchy =>
    rw [hierarchy] at hNew ⊢
    obtain hId | rfl := (Hierarchy.has_add ..).mp hNew
    · exact absurd hId hOld
    · exact ⟨parent, name, options, asked, has, answer, Hierarchy.node_add_nextId ..⟩

end Effect

end LoggerAction

/-! ## The hierarchy at any time -/

/-- The loggers of an engine stand below its root, siblings have different names, and the width is
that of the longest name. -/
structure Engine.Tidy (e : Engine) : Prop where
  ordered : e.hierarchy.Ordered
  distinct : e.hierarchy.Distinct
  width : (e.hierarchy.names.map String.length).max? = some e.nameWidth

theorem Engine.tidy_build (env : Environment) (o : EngineOptions) : (build env o).Tidy where
  ordered := .ofRoot o.name o.node
  distinct := Hierarchy.distinct_ofRoot o.name o.node
  width := rfl

theorem max?_concat {lengths : List Nat} {width : Nat} (h : lengths.max? = some width) (n : Nat) :
    (lengths ++ [n]).max? = some (max width n) := by
  obtain ⟨hMem, hLe⟩ := List.max?_eq_some_iff.mp h
  apply List.max?_eq_some_iff.mpr
  constructor
  · obtain hLong | hShort := Nat.le_total n width
    · rw [Nat.max_eq_left hLong]
      exact List.mem_append_left _ hMem
    · rw [Nat.max_eq_right hShort]
      exact List.mem_append_right _ (List.mem_singleton.mpr rfl)
  · intro length hLength
    obtain hOld | hNew := List.mem_append.mp hLength
    · exact Nat.le_trans (hLe length hOld) (Nat.le_max_left ..)
    · rw [List.mem_singleton.mp hNew]
      exact Nat.le_max_right ..

theorem LoggerAction.Effect.tidy {e e' : Engine} {action : LoggerAction} (h : Effect e e' action)
    (hTidy : e.Tidy) : e'.Tidy := by
  obtain ⟨hOrdered, hDistinct, hWidth⟩ := hTidy
  cases h with
  | kept _ hierarchy width =>
    exact ⟨by rwa [hierarchy], by rwa [hierarchy], by rwa [hierarchy, width]⟩
  | changed hierarchy width =>
    constructor
    · rw [hierarchy]
      exact hOrdered.configure _ _
    · rw [hierarchy]
      exact hDistinct.configure _ _
    · rw [hierarchy, Hierarchy.names_configure, width, hWidth]
  | made _ has free _ hierarchy width =>
    constructor
    · rw [hierarchy]
      exact hOrdered.add has _ _
    · rw [hierarchy]
      exact hDistinct.add free _
    · rw [hierarchy, Hierarchy.names_add, List.map_append, width]
      exact max?_concat hWidth _

/-! ## Runs -/

namespace LoggerAction

variable {W : Type} [SinkHost W]

def performAll (s : System W) : List LoggerAction → System W
  | [] => s
  | action :: r => performAll (action.perform s) r

def AllPossible (s : System W) : List LoggerAction → Prop
  | [] => True
  | action :: r => action.Possible s.engine ∧ AllPossible (action.perform s) r

instance decidableAllPossible (s : System W) :
    (actions : List LoggerAction) → Decidable (AllPossible s actions)
  | [] => inferInstanceAs (Decidable True)
  | action :: r =>
    have := decidableAllPossible (action.perform s) r
    inferInstanceAs (Decidable (_ ∧ _))

/-- The changes that actions make on a logger, in their order. -/
def allChanges (id : NodeId) (s : System W) : List LoggerAction → List Change
  | [] => []
  | action :: r => action.changes s.engine id ++ allChanges id (action.perform s) r

variable {s : System W} {id : NodeId}

theorem performAll_append (s : System W) (actions more : List LoggerAction) :
    performAll s (actions ++ more) = performAll (performAll s actions) more := by
  induction actions generalizing s with
  | nil => rfl
  | cons action r ih => exact ih (action.perform s)

theorem allPossible_append {actions more : List LoggerAction} :
    AllPossible s (actions ++ more) ↔
      AllPossible s actions ∧ AllPossible (performAll s actions) more := by
  induction actions generalizing s with
  | nil => exact (iff_of_eq (true_and _)).symm
  | cons action r ih =>
    rw [List.cons_append, AllPossible, AllPossible, ih, and_assoc]
    rfl

theorem tidy_performAll {actions : List LoggerAction} (hPossible : AllPossible s actions)
    (hTidy : s.engine.Tidy) : (performAll s actions).engine.Tidy := by
  induction actions generalizing s with
  | nil => exact hTidy
  | cons action r ih => exact ih hPossible.2 ((effect s hPossible.1).tidy hTidy)

theorem has_performAll {actions : List LoggerAction} (hPossible : AllPossible s actions)
    (hId : s.engine.hierarchy.Has id) : (performAll s actions).engine.hierarchy.Has id := by
  induction actions generalizing s with
  | nil => exact hId
  | cons action r ih => exact ih hPossible.2 ((effect s hPossible.1).has_mono hId)

/-- A logger keeps its place through a run, and its configuration takes the changes made on it. -/
theorem node_performAll {actions : List LoggerAction} (hPossible : AllPossible s actions)
    (hId : s.engine.hierarchy.Has id) :
    (performAll s actions).engine.node id =
      (s.engine.node id).configure (·.changed (allChanges id s actions)) := by
  induction actions generalizing s with
  | nil => rfl
  | cons action r ih =>
    have hEffect := effect s hPossible.1
    have hStep : (action.perform s).engine.node id =
        (s.engine.node id).configure (·.changed (action.changes s.engine id)) :=
      hEffect.node_eq hId
    rw [performAll, ih hPossible.2 (hEffect.has_mono hId), hStep, allChanges]
    simp only [Node.configure, NodeConfig.changed_append]

/-- A logger that a run adds is added by one of its actions. -/
theorem exists_creation {actions : List LoggerAction} (hPossible : AllPossible s actions)
    (hOld : ¬ s.engine.hierarchy.Has id) (hNew : (performAll s actions).engine.hierarchy.Has id) :
    ∃ before action after, actions = before ++ action :: after ∧
      ¬ (performAll s before).engine.hierarchy.Has id ∧
      (action.perform (performAll s before)).engine.hierarchy.Has id := by
  induction actions generalizing s with
  | nil => exact absurd hNew hOld
  | cons action r ih =>
    by_cases hMade : (action.perform s).engine.hierarchy.Has id
    · exact ⟨[], action, r, rfl, hOld, hMade⟩
    · obtain ⟨before, next, after, rfl, hBefore, hAfter⟩ := ih hPossible.2 hMade hNew
      exact ⟨action :: before, next, after, rfl, hBefore, hAfter⟩

theorem possible_of_split {before after : List LoggerAction} {action : LoggerAction}
    (hPossible : AllPossible s (before ++ action :: after)) :
    action.Possible (performAll s before).engine ∧
      AllPossible (action.perform (performAll s before)) after :=
  (allPossible_append.mp hPossible).2

/-- Where a logger of a run comes from, and what became of its configuration. -/
theorem exists_origin {actions : List LoggerAction} (hPossible : AllPossible s actions)
    (hOld : ¬ s.engine.hierarchy.Has id) (hNew : (performAll s actions).engine.hierarchy.Has id) :
    ∃ before action after parent options, actions = before ++ action :: after ∧
      action.Makes parent ((performAll s actions).engine.node id).name options ∧
      ¬ (performAll s before).engine.hierarchy.Has id ∧
      action.answer? (performAll s before).engine = some id ∧
      ((performAll s actions).engine.node id).parent? = some parent ∧
      (performAll s actions).engine.config id =
        ({ (performAll s before).engine.config parent with attrs := [] } : NodeConfig).after
          (Change.ofOptions (performAll s before).engine.nextRouter options ++
            allChanges id (action.perform (performAll s before)) after) := by
  obtain ⟨before, action, after, rfl, hBefore, hAfter⟩ := exists_creation hPossible hOld hNew
  obtain ⟨hAction, hRest⟩ := possible_of_split hPossible
  obtain ⟨parent, name, options, hMakes, -, hAnswer, hNode⟩ :=
    (effect (performAll s before) hAction).made_of_new hBefore hAfter
  have hEnd := node_performAll hRest hAfter
  have hMade : (action.perform (performAll s before)).engine.node id = _ := hNode
  rw [hMade] at hEnd
  refine ⟨before, action, after, parent, options, rfl, ?_, hBefore, hAnswer, ?_, ?_⟩
  · rw [performAll_append, performAll, hEnd]
    exact hMakes
  · rw [performAll_append, performAll, hEnd, Node.parent?]
    exact List.getLast?_concat ..
  · rw [performAll_append, performAll, Engine.config, hEnd, ← NodeConfig.changed_eq_after,
      NodeConfig.changed_append, ← NodeConfig.applyAll_eq_changed]
    rfl

/-- A logger that is there after the first action of a run is made by no later one. -/
theorem eq_nil_of_made {action next : LoggerAction} {before after r : List LoggerAction}
    (hPossible : AllPossible s (action :: r)) (hMade : (action.perform s).engine.hierarchy.Has id)
    (hSplit : action :: r = before ++ next :: after)
    (hNew : ¬ (performAll s before).engine.hierarchy.Has id) : before = [] := by
  cases before with
  | nil => rfl
  | cons first before =>
    obtain ⟨rfl, rfl⟩ := List.cons.inj hSplit
    exact absurd (has_performAll (allPossible_append.mp hPossible.2).1 hMade) hNew

theorem changes_eq_nil {action : LoggerAction} (h : ∀ option, action ≠ .set id option)
    (e : Engine) : action.changes e id = [] := by
  cases action with
  | set other option =>
    have hOther : other ≠ id := by
      rintro rfl
      exact h option rfl
    exact if_neg hOther
  | _ => rfl

end LoggerAction

theorem Engine.Tidy.childWith_eq {e : Engine} (hTidy : e.Tidy) {parent id : NodeId}
    {name : String} (hName : name ≠ "") (hChild : e.hierarchy.IsChild parent name id)
    (options : List LoggerOption) : e.childWith parent name options = (id, e) := by
  have hNonempty : name.isEmpty = false := by
    rw [Bool.eq_false_iff]
    exact fun hEmpty => hName (String.isEmpty_iff.mp hEmpty)
  rw [childWith, hNonempty, hTidy.distinct.child?_eq_some_iff.mpr hChild]
  rfl

namespace System

variable {W : Type} [SinkHost W]

/-- An engine as it is built, with sinks. -/
def ofBuild (env : Environment) (o : EngineOptions) (sinks : W) : System W :=
  ⟨.build env o, sinks, []⟩

/-- Configurations are isolated: after any actions on the loggers of an engine, each logger has the
configuration that its parent had when it was made, without the attributes, with the options of its
creation and then with the changes made on the logger itself. -/
theorem performAll_isolates (env : Environment) (o : EngineOptions) (sinks : W)
    (actions : List LoggerAction)
    (hPossible : LoggerAction.AllPossible (ofBuild env o sinks) actions) :
    let start := ofBuild env o sinks
    let found (actions : List LoggerAction) : System W := LoggerAction.performAll start actions
    let e := (found actions).engine
    -- The root starts with the settings of the engine.
    e.config .root = o.node.after (LoggerAction.allChanges .root start actions) ∧
    -- Every other logger is the answer of the action that made it, and stands below the logger
    -- asked.
    (∀ id, e.hierarchy.Has id → id ≠ .root →
      ∃ before action after parent options, actions = before ++ action :: after ∧
        action.Makes parent (e.node id).name options ∧
        ¬ (found before).engine.hierarchy.Has id ∧
        action.answer? (found before).engine = some id ∧
        (e.node id).parent? = some parent ∧
        e.config id =
          ({ (found before).engine.config parent with attrs := [] } : NodeConfig).after
            (Change.ofOptions (found before).engine.nextRouter options ++
              LoggerAction.allChanges id (action.perform (found before)) after)) ∧
    -- A logger that was ever made is still there, in its place and under its name.
    (∀ before after, actions = before ++ after → ∀ id, (found before).engine.hierarchy.Has id →
      e.hierarchy.Has id ∧ (e.node id).name = ((found before).engine.node id).name ∧
        (e.node id).parent? = ((found before).engine.node id).parent?) ∧
    -- Nothing that is not a change of the logger itself changes its configuration.
    (∀ before action after, actions = before ++ action :: after →
      ∀ id, (found before).engine.hierarchy.Has id → (∀ option, action ≠ .set id option) →
        (action.perform (found before)).engine.config id = (found before).engine.config id) ∧
    -- A name that is there leads to its logger, whatever the options, and to one logger only.
    (∀ parent name id, name ≠ "" → e.hierarchy.IsChild parent name id →
      ∀ options, e.childWith parent name options = (id, e)) ∧
    e.hierarchy.Distinct ∧
    -- From parent to parent every logger leads up to the root.
    (∀ id, e.hierarchy.Has id →
      ∃ above, e.hierarchy.Lineage id above ∧ (above ++ [id]).head? = some .root) ∧
    -- The width is that of the longest name.
    (e.hierarchy.names.map String.length).max? = some e.nameWidth := by
  intro start found e
  have hTidy : e.Tidy := LoggerAction.tidy_performAll hPossible (Engine.tidy_build env o)
  refine ⟨?_, ?_, ?_, ?_, ?_, hTidy.distinct, ?_, hTidy.width⟩
  · rw [← NodeConfig.changed_eq_after]
    exact congrArg Node.config
      (LoggerAction.node_performAll hPossible (Hierarchy.has_root start.engine.hierarchy))
  · intro id hId hRoot
    have hNew : ¬ start.engine.hierarchy.Has id := by
      intro hOld
      exact hRoot (Hierarchy.index_inj.mp (Nat.lt_one_iff.mp hOld))
    exact LoggerAction.exists_origin hPossible hNew hId
  · rintro before after rfl id hId
    obtain ⟨-, hAfter⟩ := LoggerAction.allPossible_append.mp hPossible
    have hEnd : e = (LoggerAction.performAll (found before) after).engine :=
      congrArg System.engine (LoggerAction.performAll_append start before after)
    have hNode := LoggerAction.node_performAll hAfter hId
    refine ⟨?_, ?_, ?_⟩
    · rw [hEnd]
      exact LoggerAction.has_performAll hAfter hId
    · rw [hEnd, hNode]
      rfl
    · rw [hEnd, hNode]
      rfl
  · rintro before action after rfl id hId hOther
    obtain ⟨hAction, -⟩ := LoggerAction.possible_of_split hPossible
    rw [(LoggerAction.effect (found before) hAction).config_eq hId,
      LoggerAction.changes_eq_nil hOther]
    rfl
  · intro parent name id hName hChild options
    exact hTidy.childWith_eq hName hChild options
  · intro id hId
    exact ⟨_, hTidy.ordered.lineage id, hTidy.ordered.head?_ancestors hId⟩

/-- A parent with attributes that goes its own way, a child fetched again, and a child of that
one. -/
theorem performAll_isolates_of_family :
    let o : EngineOptions :=
      { name := "app", node := { level := .warn, attrs := [⟨"app", .int 1⟩] } }
    let start : System SinkStore := ofBuild default o .new
    let creation : LoggerAction := .child .root "db" [.level .debug, .attrs [⟨"pool", .int 2⟩]]
    let later : List LoggerAction :=
      [.set .root (.level .error), .set .root (.attrs [⟨"late", .int 3⟩]),
        .child .root "db" [.utc false], .set ⟨1⟩ (.attrs [⟨"table", .int 4⟩])]
    let before := creation :: later
    let actions := before ++ [.set .root (.format .json), .withOption ⟨1⟩ (.caller true)]
    let e := (LoggerAction.performAll start actions).engine
    LoggerAction.AllPossible start actions ∧
      (e.config .root).level = .error ∧ (e.config .root).format = .json ∧
      (e.config .root).attrs = [⟨"app", .int 1⟩, ⟨"late", .int 3⟩] ∧
      (e.config ⟨1⟩).level = .debug ∧ (e.config ⟨1⟩).utc = true ∧
      (e.config ⟨1⟩).attrs = [⟨"pool", .int 2⟩, ⟨"table", .int 4⟩] ∧
      (((LoggerAction.set .root (.format .json)).perform
        (LoggerAction.performAll start before)).engine.config ⟨1⟩).level = .debug ∧
      e.childWith .root "db" [.utc false] = (⟨1⟩, e) ∧ e.nameWidth = 15 := by
  intro o start creation later before actions e
  have hPossible : LoggerAction.AllPossible start actions := by decide +kernel
  obtain ⟨hRoot, hMade, -, hOther, hChild, -, -, hWidth⟩ :=
    performAll_isolates default o SinkStore.new actions hPossible
  have hDb : e.hierarchy.IsChild .root "db" ⟨1⟩ :=
    ⟨by decide +kernel, by decide +kernel, by decide +kernel⟩
  have hLongest : (e.hierarchy.names.map String.length).max? = some 15 := by decide +kernel
  have hConfig : e.config ⟨1⟩ =
      ({ o.node with attrs := [] } : NodeConfig).after
        [⟨1, .level .debug⟩, ⟨2, .attrs [⟨"pool", .int 2⟩]⟩, ⟨6, .attrs [⟨"table", .int 4⟩]⟩] := by
    obtain ⟨first, action, rest, parent, options, hSplit, hMakes, hNew, hAnswer, hParent, hEnd⟩ :=
      hMade ⟨1⟩ hDb.1 (by decide)
    obtain rfl : first = [] :=
      LoggerAction.eq_nil_of_made hPossible (by decide +kernel) hSplit hNew
    obtain ⟨rfl, rfl⟩ := List.cons.inj hSplit
    obtain ⟨rfl, rfl⟩ := LoggerAction.Makes.of_child hMakes
    exact hEnd
  refine ⟨hPossible, ?_, ?_, ?_, ?_, ?_, ?_, ?_, hChild .root "db" ⟨1⟩ (by decide) hDb _, ?_⟩
  · rw [hRoot]
    decide +kernel
  · rw [hRoot]
    decide +kernel
  · rw [hRoot]
    rfl
  · rw [hConfig]
    rfl
  · rw [hConfig]
    rfl
  · rw [hConfig]
    rfl
  · have hElsewhere : ∀ option, LoggerAction.set .root (.format .json) ≠ .set ⟨1⟩ option :=
      fun option hSame => by cases hSame
    have hThere : (LoggerAction.performAll start before).engine.hierarchy.Has ⟨1⟩ := by
      decide +kernel
    rw [hOther before _ [.withOption ⟨1⟩ (.caller true)] rfl ⟨1⟩ hThere hElsewhere]
    decide +kernel
  · exact Option.some.inj (hWidth.symm.trans hLongest)

end System

end Logline
