import Logline.Proofs.Isolation

/-! # Routing under the strict lock

An engine under the strict lock makes its own router strict, when it is built and whenever another
one is set. An option that binds a logger to a router leaves that router as it is. So a logger
writes through a strict router as long as none is bound that is not, to the logger itself or to the
one that it was made from.
-/

namespace Logline

/-- The router that an option binds a logger to. -/
def LoggerOption.binds? : LoggerOption → Option Router
  | .sinks listed => some (.single listed)
  | .router bound => some bound.router
  | _ => none

/-- The router of the last option that binds one. -/
def LoggerOption.lastBound? : List LoggerOption → Option Router
  | [] => none
  | option :: r => (lastBound? r).or option.binds?

namespace LoggerOption

variable {options : List LoggerOption} {router : Router}

theorem exists_of_lastBound? (h : lastBound? options = some router) :
    ∃ option ∈ options, option.binds? = some router := by
  induction options with
  | nil => cases h
  | cons option r ih =>
    rw [lastBound?, Option.or_eq_some_iff] at h
    obtain hRest | ⟨-, hHere⟩ := h
    · obtain ⟨other, hOther, hBinds⟩ := ih hRest
      exact ⟨other, List.mem_cons_of_mem _ hOther, hBinds⟩
    · exact ⟨option, List.mem_cons_self, hHere⟩

end LoggerOption

/-- The router of a logger that has one of its own. -/
def NodeConfig.ownRouter? (config : NodeConfig) : Option Router := config.router.map (·.router)

namespace NodeConfig

theorem ownRouter?_apply (config : NodeConfig) (id : Nat) (option : LoggerOption) :
    (config.apply id option).ownRouter? = option.binds?.or config.ownRouter? := by
  cases option <;> rfl

theorem ownRouter?_changed (config : NodeConfig) (changes : List Change) :
    (config.changed changes).ownRouter? =
      (LoggerOption.lastBound? (changes.map (·.option))).or config.ownRouter? := by
  induction changes generalizing config with
  | nil => rfl
  | cons change r ih =>
    rw [List.map_cons, LoggerOption.lastBound?, Option.or_assoc, ← ownRouter?_apply]
    exact ih (config.apply change.router change.option)

theorem ownRouter?_applyAll (config : NodeConfig) (id : Nat) (options : List LoggerOption) :
    (config.applyAll id options).ownRouter? =
      (LoggerOption.lastBound? options).or config.ownRouter? := by
  rw [applyAll_eq_changed, ownRouter?_changed, Change.map_ofOptions]

end NodeConfig

theorem Engine.routerOf_router (e : Engine) (id : NodeId) :
    (e.routerOf id).router = (e.config id).ownRouter?.getD e.router.router := by
  rw [routerOf, NodeConfig.ownRouter?]
  cases (e.config id).router <;> rfl

theorem Engine.router_setRouter {e : Engine} (h : e.strictLock = true) (router : Router) :
    (e.setRouter router).router.router = router.withStrict true := by
  simp only [setRouter, bind, h]
  rfl

/-- Two states of an engine in which its loggers share the same router. -/
structure Engine.Shares (e' e : Engine) : Prop where
  router : e'.router = e.router
  lock : e'.strictLock = e.strictLock

namespace Engine.Shares

theorem of_bare {e' e : Engine} (h : e'.bare = e.bare) : e'.Shares e :=
  ⟨(congrArg Engine.router h :), (congrArg Engine.strictLock h :)⟩

theorem childWith (e : Engine) (parent : NodeId) (name : String) (options : List LoggerOption) :
    (e.childWith parent name options).2.Shares e := by
  rw [Engine.childWith]
  split
  · exact ⟨rfl, rfl⟩
  · split <;> exact ⟨rfl, rfl⟩

end Engine.Shares

/-- An engine under the lock whose own router holds it. -/
structure Engine.Locked (e : Engine) : Prop where
  lock : e.strictLock = true
  router : e.router.router.strict = true

namespace Engine.Locked

variable {e : Engine}

theorem of_build (env : Environment) {o : EngineOptions} (h : o.strictLock = true) :
    (build env o).Locked := by
  refine ⟨h, ?_⟩
  simp only [build, h]
  rfl

theorem setRouter (h : e.Locked) (router : Router) : (e.setRouter router).Locked := by
  refine ⟨h.lock, ?_⟩
  rw [router_setRouter h.lock]
  rfl

theorem of_shares {e' : Engine} (h : e.Locked) (hShares : e'.Shares e) : e'.Locked where
  lock := hShares.lock.trans h.lock
  router := by
    rw [hShares.router]
    exact h.router

end Engine.Locked

/-- What a program does with the loggers of an engine and with the router that they share. -/
inductive RoutingAction where
  | setRouter (router : Router)
  | logger (action : LoggerAction)

namespace LoggerAction

/-- The options that an action uses, on a logger or on a new one. -/
def options : LoggerAction → List LoggerOption
  | child _ _ options => options
  | withOption _ option | set _ option => [option]
  | log .. | emit .. | renumber _ => []

theorem Makes.options_eq {action : LoggerAction} {parent : NodeId} {name : String}
    {options : List LoggerOption} (h : action.Makes parent name options) :
    action.options = options := by
  cases h <;> rfl

theorem mem_options_of_changes {action : LoggerAction} {e : Engine} {id : NodeId} {change : Change}
    (h : change ∈ action.changes e id) : change.option ∈ action.options := by
  cases action with
  | set other option =>
    rw [changes] at h
    split at h
    · obtain rfl := List.mem_singleton.mp h
      exact List.mem_singleton_self option
    · cases h
  | _ => cases h

variable {W : Type} [SinkHost W]

theorem shares_perform (s : System W) (action : LoggerAction) :
    (action.perform s).engine.Shares s.engine := by
  cases action with
  | child parent name options => exact .childWith s.engine parent name options
  | withOption parent option => exact .childWith s.engine parent "" [option]
  | set id option => exact ⟨rfl, rfl⟩
  | log env id call => exact .of_bare (s.bare_log env id call)
  | emit env id call => exact .of_bare (s.bare_emit env id call)
  | renumber next => exact ⟨rfl, rfl⟩

variable {e e' : Engine} {action : LoggerAction} {id : NodeId}

/-- A logger that is there keeps its router, unless an option binds it to another. -/
theorem Effect.ownRouter?_eq (h : Effect e e' action) (hId : e.hierarchy.Has id) :
    (e'.config id).ownRouter? =
      (LoggerOption.lastBound? ((action.changes e id).map (·.option))).or
        (e.config id).ownRouter? := by
  rw [h.config_eq hId, NodeConfig.ownRouter?_changed]

theorem Effect.ownRouter?_made (h : Effect e e' action) (hOld : ¬ e.hierarchy.Has id)
    (hNew : e'.hierarchy.Has id) :
    ∃ parent name, action.Makes parent name action.options ∧ e.hierarchy.Has parent ∧
      (e'.config id).ownRouter? =
        (LoggerOption.lastBound? action.options).or (e.config parent).ownRouter? := by
  obtain ⟨parent, name, options, hMakes, hParent, -, hNode⟩ := h.made_of_new hOld hNew
  obtain rfl := hMakes.options_eq
  refine ⟨parent, name, hMakes, hParent, ?_⟩
  have hConfig : e'.config id =
      (e.config parent).inherit.applyAll e.nextRouter action.options := congrArg Node.config hNode
  rw [hConfig, NodeConfig.ownRouter?_applyAll]
  rfl

end LoggerAction

/-- Routers of loggers that are bound by options of a list. -/
def Engine.BoundBy (options : List LoggerOption) (e : Engine) : Prop :=
  ∀ id, e.hierarchy.Has id → ∀ router, (e.config id).ownRouter? = some router →
    ∃ option ∈ options, option.binds? = some router

theorem LoggerAction.Effect.boundBy {e e' : Engine} {action : LoggerAction}
    {options : List LoggerOption} (h : Effect e e' action) (hBound : e.BoundBy options) :
    e'.BoundBy (options ++ action.options) := by
  intro id hId router hRouter
  by_cases hOld : e.hierarchy.Has id
  · rw [h.ownRouter?_eq hOld, Option.or_eq_some_iff] at hRouter
    obtain hHere | ⟨-, hBefore⟩ := hRouter
    · obtain ⟨option, hOption, hBinds⟩ := LoggerOption.exists_of_lastBound? hHere
      obtain ⟨change, hChange, rfl⟩ := List.mem_map.mp hOption
      exact ⟨_, List.mem_append_right _ (mem_options_of_changes hChange), hBinds⟩
    · obtain ⟨option, hOption, hBinds⟩ := hBound id hOld router hBefore
      exact ⟨option, List.mem_append_left _ hOption, hBinds⟩
  · obtain ⟨parent, name, -, hParent, hOwn⟩ := h.ownRouter?_made hOld hId
    rw [hOwn, Option.or_eq_some_iff] at hRouter
    obtain hHere | ⟨-, hBefore⟩ := hRouter
    · obtain ⟨option, hOption, hBinds⟩ := LoggerOption.exists_of_lastBound? hHere
      exact ⟨option, List.mem_append_right _ hOption, hBinds⟩
    · obtain ⟨option, hOption, hBinds⟩ := hBound parent hParent router hBefore
      exact ⟨option, List.mem_append_left _ hOption, hBinds⟩

namespace RoutingAction

variable {W : Type} [SinkHost W]

def perform (s : System W) : RoutingAction → System W
  | setRouter router => { s with engine := s.engine.setRouter router }
  | logger action => action.perform s

def Possible (e : Engine) : RoutingAction → Prop
  | setRouter _ => True
  | logger action => action.Possible e

instance (e : Engine) : (action : RoutingAction) → Decidable (action.Possible e)
  | setRouter _ => inferInstanceAs (Decidable True)
  | logger action => inferInstanceAs (Decidable (action.Possible e))

def options : RoutingAction → List LoggerOption
  | setRouter _ => []
  | logger action => action.options

def performAll (s : System W) : List RoutingAction → System W
  | [] => s
  | action :: r => performAll (action.perform s) r

def AllPossible (s : System W) : List RoutingAction → Prop
  | [] => True
  | action :: r => action.Possible s.engine ∧ AllPossible (action.perform s) r

instance decidableAllPossible (s : System W) :
    (actions : List RoutingAction) → Decidable (AllPossible s actions)
  | [] => inferInstanceAs (Decidable True)
  | action :: r =>
    have := decidableAllPossible (action.perform s) r
    inferInstanceAs (Decidable (_ ∧ _))

variable {s : System W} {actions : List RoutingAction}

theorem locked_performAll (h : s.engine.Locked) : (performAll s actions).engine.Locked := by
  induction actions generalizing s with
  | nil => exact h
  | cons action r ih =>
    cases action with
    | setRouter router => exact ih (h.setRouter router)
    | logger action => exact ih (h.of_shares (LoggerAction.shares_perform s action))

theorem boundBy_performAll {known : List LoggerOption} (hPossible : AllPossible s actions)
    (h : s.engine.BoundBy known) :
    (performAll s actions).engine.BoundBy (known ++ actions.flatMap options) := by
  induction actions generalizing s known with
  | nil =>
    rw [List.flatMap_nil, List.append_nil]
    exact h
  | cons action r ih =>
    rw [List.flatMap_cons, ← List.append_assoc]
    apply ih hPossible.2
    cases action with
    | setRouter router =>
      rw [options, List.append_nil]
      exact h
    | logger action => exact (LoggerAction.effect s hPossible.1).boundBy h

theorem performAll_append (s : System W) (actions more : List RoutingAction) :
    performAll s (actions ++ more) = performAll (performAll s actions) more := by
  induction actions generalizing s with
  | nil => rfl
  | cons action r ih => exact ih (action.perform s)

theorem possible_of_split {before after : List RoutingAction} {action : RoutingAction}
    (h : AllPossible s (before ++ action :: after)) :
    action.Possible (performAll s before).engine := by
  induction before generalizing s with
  | nil => exact h.1
  | cons first r ih => exact ih h.2

end RoutingAction

namespace System

variable {W : Type} [SinkHost W]

/-- Under the strict lock the router that loggers share is strict at any time, and a logger writes
through that one or through a router as an option bound it. -/
theorem performAll_strict (env : Environment) (o : EngineOptions) (sinks : W)
    (actions : List RoutingAction) (hLock : o.strictLock = true) (hRoot : o.node.router = none)
    (hPossible : RoutingAction.AllPossible (ofBuild env o sinks) actions) :
    let found (actions : List RoutingAction) : System W :=
      RoutingAction.performAll (ofBuild env o sinks) actions
    let e := (found actions).engine
    e.router.router.strict = true ∧
    -- The lock may be missing only from a router that an option has bound without it.
    (∀ id, e.hierarchy.Has id → (e.routerOf id).router.strict = true ∨
      ∃ action ∈ actions, ∃ option ∈ action.options,
        option.binds? = some (e.routerOf id).router) ∧
    -- A router that is set gets the lock, and goes to the loggers that none was bound to.
    (∀ before router after, actions = before ++ .setRouter router :: after → ∀ id,
      (((found before).engine.setRouter router).routerOf id).router =
        ((found before).engine.config id).ownRouter?.getD (router.withStrict true)) ∧
    ∀ before action after, actions = before ++ .logger action :: after →
      let e := (found before).engine
      let e' := (action.perform (found before)).engine
      -- A logger that is there is bound by an option of its own, and by nothing else.
      (∀ id, e.hierarchy.Has id → (e'.routerOf id).router =
        (LoggerOption.lastBound? ((action.changes e id).map (·.option))).getD
          (e.routerOf id).router) ∧
      -- A new one follows its options, and then its parent.
      ∀ id, ¬ e.hierarchy.Has id → e'.hierarchy.Has id →
        ∃ parent name, action.Makes parent name action.options ∧ e.hierarchy.Has parent ∧
          (e'.routerOf id).router =
            (LoggerOption.lastBound? action.options).getD (e.routerOf parent).router := by
  intro found e
  have hLocked : ∀ actions, (found actions).engine.Locked := fun actions =>
    RoutingAction.locked_performAll (.of_build env hLock)
  have hStart : (ofBuild env o sinks).engine.BoundBy [] := by
    intro id hId router hOwn
    obtain rfl : id = .root := Hierarchy.index_inj.mp (Nat.lt_one_iff.mp hId)
    have hNone : o.node.ownRouter? = some router := hOwn
    rw [NodeConfig.ownRouter?, hRoot] at hNone
    cases hNone
  have hBound : e.BoundBy (actions.flatMap RoutingAction.options) :=
    RoutingAction.boundBy_performAll hPossible hStart
  refine ⟨(hLocked actions).router, ?_, ?_, ?_⟩
  · intro id hId
    rw [Engine.routerOf_router]
    cases hOwn : (e.config id).ownRouter? with
    | none => exact .inl (hLocked actions).router
    | some router =>
      obtain ⟨option, hOption, hBinds⟩ := hBound id hId router hOwn
      obtain ⟨action, hAction, hMem⟩ := List.mem_flatMap.mp hOption
      exact .inr ⟨action, hAction, option, hMem, hBinds⟩
  · rintro before router after rfl id
    rw [Engine.routerOf_router, Engine.router_setRouter (hLocked before).lock]
    rfl
  · rintro before action after rfl eBefore eAfter
    have hEffect := LoggerAction.effect (found before) (RoutingAction.possible_of_split hPossible)
    have hShared : eAfter.router = eBefore.router :=
      (LoggerAction.shares_perform (found before) action).router
    constructor
    · intro id hId
      rw [Engine.routerOf_router, Engine.routerOf_router, hEffect.ownRouter?_eq hId, hShared,
        Option.getD_or]
    · intro id hOld hNew
      obtain ⟨parent, name, hMakes, hParent, hOwn⟩ := hEffect.ownRouter?_made hOld hNew
      refine ⟨parent, name, hMakes, hParent, ?_⟩
      rw [Engine.routerOf_router, Engine.routerOf_router, hOwn, hShared, Option.getD_or]

/-- A child keeps to the shared router when another one is set and its parent is bound elsewhere. -/
theorem performAll_strict_of_set :
    let o : EngineOptions := { name := "app", strictLock := true }
    let start : System SinkStore := ofBuild default o .new
    let actions : List RoutingAction :=
      [.logger (.child .root "db" [.level .debug]), .setRouter (.single [⟨0⟩]),
        .logger (.set .root (.router ⟨9, .single [⟨1⟩]⟩))]
    let e := (RoutingAction.performAll start actions).engine
    o.strictLock = true ∧ o.node.router = none ∧ RoutingAction.AllPossible start actions ∧
      e.router.router.strict = true ∧
      (e.routerOf ⟨1⟩).router = (Router.single [⟨0⟩]).withStrict true ∧
      (e.routerOf .root).router = .single [⟨1⟩] := by
  intro o start actions e
  have hPossible : RoutingAction.AllPossible start actions := by decide +kernel
  obtain ⟨hStrict, -, hSet, hAction⟩ :=
    performAll_strict default o SinkStore.new actions rfl rfl hPossible
  have hShared := hSet [actions[0]] _ [actions[2]] rfl ⟨1⟩
  obtain ⟨hKept, -⟩ := hAction [actions[0], actions[1]] _ [] rfl
  have hDb := hKept ⟨1⟩ (by decide +kernel)
  have hRoot := hKept .root (by decide +kernel)
  exact ⟨rfl, rfl, hPossible, hStrict, hDb.trans hShared, hRoot⟩

/-- An option binds a logger to sinks without the lock, and the children of the logger follow. -/
theorem performAll_binds_loose :
    let start : System SinkStore := ofBuild default { strictLock := true } .new
    let actions : List RoutingAction :=
      [.logger (.child .root "db" [.sinks [⟨0⟩]]), .logger (.child ⟨1⟩ "pool" []),
        .logger (.set .root (.sinks [⟨0⟩]))]
    let e := (RoutingAction.performAll start actions).engine
    RoutingAction.AllPossible start actions ∧ e.strictLock = true ∧
      e.router.router.strict = true ∧ (e.routerOf ⟨1⟩).router.strict = false ∧
      (e.routerOf ⟨2⟩).router.strict = false ∧ (e.routerOf .root).router.strict = false := by
  decide +kernel

end System

end Logline
