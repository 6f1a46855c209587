import Logline.Proofs.Isolation
import Logline.Proofs.KeptText
import Logline.Proofs.Resolution

/-! # Aligned lines

Every name that an engine gives to a logger is noted in the width of names, however the logger was
made, and no name is taken back. So a name with its padding takes up the same number of characters
in every colourful line, an empty name included, and the level stands where the time ends and this
number of characters later. Without any name there is no padding either.
-/

namespace Logline

open Text (utf8)
open TextPainter (tagText)

/-! ## The width of names -/

namespace Engine

def Wide (e : Engine) : Prop := ∀ name ∈ e.hierarchy.names, name.length ≤ e.nameWidth

theorem name_mem_names (e : Engine) (id : NodeId) : (e.node id).name ∈ e.hierarchy.names := by
  have hMem : e.node id ∈ e.hierarchy.nodes := by
    change e.hierarchy.nodes.getD id.index e.hierarchy.root ∈ e.hierarchy.nodes
    rw [List.getD_eq_getElem?_getD]
    cases hNode : e.hierarchy.nodes[id.index]? with
    | none => exact List.mem_cons_self
    | some node => exact List.mem_of_getElem? hNode
  exact List.mem_map_of_mem hMem

variable {e e' : Engine}

theorem Wide.length_name_le (h : e.Wide) (id : NodeId) : (e.node id).name.length ≤ e.nameWidth :=
  h _ (e.name_mem_names id)

theorem Wide.of_eq (h : e.Wide) (hNames : e'.hierarchy.names = e.hierarchy.names)
    (hWidth : e'.nameWidth = e.nameWidth) : e'.Wide := by
  rw [Wide, hNames, hWidth]
  exact h

theorem Wide.of_bare (h : e.Wide) (hBare : e'.bare = e.bare) : e'.Wide :=
  h.of_eq (congrArg (·.hierarchy.names) hBare : _) (congrArg Engine.nameWidth hBare : _)

theorem wide_build (env : Environment) (o : EngineOptions) : (build env o).Wide := by
  intro name hName
  obtain rfl : name = o.name := List.mem_singleton.mp hName
  exact Nat.le_refl _

theorem Wide.addChild (h : e.Wide) (parent : NodeId) (name : String)
    (options : List LoggerOption) : (e.addChild parent name options).2.Wide := by
  intro other hOther
  change other ∈ (e.hierarchy.add parent name _).names at hOther
  change other.length ≤ max e.nameWidth name.length
  rw [Hierarchy.names_add] at hOther
  rcases List.mem_append.mp hOther with hOld | hNew
  · exact (h other hOld).trans (Nat.le_max_left _ _)
  · rw [List.mem_singleton.mp hNew]
    exact Nat.le_max_right _ _

theorem Wide.childWith (h : e.Wide) (parent : NodeId) (name : String)
    (options : List LoggerOption) : (e.childWith parent name options).2.Wide := by
  rw [Engine.childWith]
  split
  · exact Wide.addChild (e := { e with nextName := e.freeName parent + 1 }) h parent _ options
  · split
    · exact h
    · exact h.addChild parent name options

end Engine

/-- What a program does with an engine: with its loggers, or with its own settings. -/
inductive EngineAction where
  | logger (action : LoggerAction)
  | setRouter (router : Router)
  | setRedactor (redactor : Redactor)
  | setCollectRecursive (on : Bool)
  | setNoInterrupt (on : Bool)
  | setTesting (on : Bool)

namespace EngineAction

variable {W : Type} [SinkHost W]

def perform (s : System W) : EngineAction → System W
  | logger action => action.perform s
  | setRouter router => { s with engine := s.engine.setRouter router }
  | setRedactor redactor => { s with engine := { s.engine with redactor } }
  | setCollectRecursive on => { s with engine := { s.engine with collectRecursive := on } }
  | setNoInterrupt on => { s with engine := { s.engine with noInterrupt := on } }
  | setTesting on => { s with engine := { s.engine with testing := on } }

def performAll (s : System W) (actions : List EngineAction) : System W := actions.foldl perform s

end EngineAction

theorem LoggerAction.wide_perform {W : Type} [SinkHost W] {s : System W} (h : s.engine.Wide)
    (action : LoggerAction) : (action.perform s).engine.Wide := by
  cases action with
  | child parent name options => exact h.childWith parent name options
  | withOption parent option => exact h.childWith parent "" [option]
  | set id option => exact h.of_eq (Hierarchy.names_configure _) rfl
  | log environment id call => exact h.of_bare (s.bare_log environment id call)
  | emit environment id call => exact h.of_bare (s.bare_emit environment id call)
  | renumber next => exact h

theorem EngineAction.wide_perform {W : Type} [SinkHost W] {s : System W} (h : s.engine.Wide)
    (action : EngineAction) : (action.perform s).engine.Wide := by
  cases action with
  | logger action => exact LoggerAction.wide_perform h action
  | _ => exact h

theorem EngineAction.wide_performAll {W : Type} [SinkHost W] {s : System W} (h : s.engine.Wide)
    (actions : List EngineAction) : (performAll s actions).engine.Wide := by
  induction actions generalizing s with
  | nil => exact h
  | cons action r ih => exact ih (wide_perform h action)

/-! ## Up to the level -/

namespace Engine

def timeText (e : Engine) (env : Environment) (id : NodeId) (call : Call) : String :=
  (e.config id).timeLayout.text (env.localZone call.time) call.time (e.config id).utc

/-- The name of a logger filled up to the width of names, and the space before the level. -/
def nameText (e : Engine) (id : NodeId) : String :=
  if (e.node id).name.isEmpty ∧ e.nameWidth = 0 then ""
  else (e.node id).name ++
    String.ofList (List.replicate (e.nameWidth - (e.node id).name.length) ' ') ++ " "

/-- What a colourful line says before the level. -/
def lead (e : Engine) (env : Environment) (id : NodeId) (call : Call) : String :=
  e.timeText env id call ++ " " ++ e.nameText id

/-- The number of characters between the time and the level. -/
def gap (e : Engine) : Nat := if e.nameWidth = 0 then 1 else e.nameWidth + 2

variable {e : Engine}

theorem Wide.length_lead (h : e.Wide) (env : Environment) (id : NodeId) (call : Call) :
    (e.lead env id call).length = (e.timeText env id call).length + e.gap := by
  have hName := h.length_name_le id
  have hSpace : (" " : String).length = 1 := rfl
  rw [lead, nameText, gap, String.length_append, String.length_append, hSpace]
  by_cases hWidth : e.nameWidth = 0
  -- No name has a character then, so no line has a field for it.
  · have hEmpty : (e.node id).name = "" := String.length_eq_zero_iff.mp (by omega)
    have hNone : (e.node id).name.isEmpty ∧ e.nameWidth = 0 := by
      rw [hEmpty]
      exact ⟨rfl, hWidth⟩
    rw [if_pos hNone, if_pos hWidth]
    rfl
  · have hSome : ¬ ((e.node id).name.isEmpty ∧ e.nameWidth = 0) := fun hNone => hWidth hNone.2
    rw [if_neg hSome, if_neg hWidth, String.length_append, String.length_append,
      String.length_ofList, List.length_replicate, hSpace]
    omega

end Engine

theorem Text.utf8_spaces (n : Nat) : utf8 (String.ofList (List.replicate n ' ')) = spaces n := by
  have hSpace : String.utf8EncodeChar ' ' = [0x20] := by decide
  rw [Text.utf8_ofList, spaces]
  induction n with
  | zero => rfl
  | succ n ih =>
    rw [List.replicate_succ, List.replicate_succ, List.flatMap_cons, ih, hSpace]
    rfl

/-- The level of a loaded record as a colourful line shows it. -/
def Canvas.levelText (c : Canvas) : List UInt8 :=
  Color.startText c.foreground c.background ++
    (tagText c.tag ++ Color.endText c.foreground c.background)

namespace Painter

theorem keeps_colorful_first (first : String) :
    Canvas.Keeps fun c => TextPainter.colored (·.pushText first) c >>=
      (·.write (·.pad (messageWidth - first.length))) := by
  have hPad : Canvas.Keeps (·.write (·.pad (messageWidth - first.length))) :=
    .write (Buffer.Writes.pad _ : Buffer.Writes 0 _ _).keeps
  have hColored : Canvas.Keeps (TextPainter.colored (·.pushText first)) :=
    .of_grows fun c => (TextPainter.grows_colored
      (fun d hd => Canvas.grows_write hd (.pushText first)) c.of_self : Canvas.Grows 0 c c _ _ _)
  exact hColored.bind hPad

theorem grows_renderLead_colorful (options : RenderOptions) {base : Canvas}
    (hFresh : base.isFresh = true) :
    Canvas.Grows 0 base base (joined 0x20 true
      ([utf8 (options.timeLayout.text options.home base.time options.utc)] ++
        ((if base.logger.isEmpty ∧ options.nameWidth = 0 then []
          else [utf8 base.logger ++ spaces (options.nameWidth - base.logger.length)]) ++
          [base.levelText]))) false (base.renderLead options colorful) := by
  have hTime : Canvas.Paints 0 0x20 base (colorful.time options.home options.timeLayout options.utc)
      [utf8 (options.timeLayout.text options.home base.time options.utc)] :=
    TextPainter.paints_time _ _ _
  have hName := (paints_loggerName_colorful base.logger options.nameWidth :
    Canvas.Paints 0 0x20 base _ _)
  have hName' : Canvas.Paints 0 0x20 base
      (fun c => colorful.loggerName c.logger options.nameWidth c) _ :=
    hName.congr (by rintro _ ⟨_, _, rfl⟩; rfl)
  have hLevel : Canvas.Paints 0 0x20 base colorful.level [base.levelText] :=
    .field fun c hc => TextPainter.grows_colored (fun d hd => TextPainter.grows_bracketedTag hd) hc
  have hLead := hTime.bind (hName'.bind hLevel) base base.of_self
  rw [hFresh] at hLead
  exact hLead

end Painter

namespace Engine

variable {e : Engine}

theorem joined_lead (e : Engine) (env : Environment) (id : NodeId) (call : Call)
    (level : List UInt8) :
    joined 0x20 true ([utf8 (e.timeText env id call)] ++
      ((if (e.node id).name.isEmpty ∧ e.nameWidth = 0 then []
        else [utf8 (e.node id).name ++ spaces (e.nameWidth - (e.node id).name.length)]) ++
        [level])) = utf8 (e.lead env id call) ++ level := by
  have hSpace : utf8 " " = [0x20] := by decide
  rw [lead, nameText]
  split
  · simp [joined, Text.utf8_append, hSpace]
  · simp [joined, Text.utf8_append, Text.utf8_spaces, hSpace]

theorem paint_starts {env : Environment} {id : NodeId} {call : Call} {canvas d : Canvas}
    (hColorful : (e.config id).format = .colorful)
    (hAppends : Value.LeavesOf (Value.OnlyAppends .colorful)
      (e.load env id call canvas).table.attrs)
    (h : e.paint env id call canvas = .ok d) :
    ∃ rest, d.buffer.toList =
      utf8 (e.lead env id call) ++ ((e.load env id call canvas).levelText ++ rest) := by
  rw [paint, hColorful, Canvas.render_eq] at h
  obtain ⟨c, hLead, hRest⟩ := exists_of_bind_eq_ok h
  have hGrows := Painter.grows_renderLead_colorful (e.renderOptions env id call)
    (rfl : (e.load env id call canvas).isFresh = true)
  change (e.load env id call canvas).renderLead _ Painter.colorful = .ok c at hLead
  rw [hLead] at hGrows
  have hStart := hGrows.continues (Canvas.of_self _)
  have hMode : c.mode = .colorful := hStart.mode.trans hColorful
  rw [← hStart.table, ← hMode] at hAppends
  obtain ⟨rest, hText⟩ := (Painter.readable_colorful.continues_renderRest
    Painter.keeps_colorful_first hAppends hRest).line
  refine ⟨rest, ?_⟩
  cases hGrows with
  | ok _ hBytes _ =>
    have hEmpty : (e.load env id call canvas).buffer.toList = [] := rfl
    have hFields := e.joined_lead env id call (e.load env id call canvas).levelText
    rw [← hText, hBytes, hEmpty, List.nil_append]
    exact (congrArg (· ++ rest) hFields).trans (List.append_assoc ..)

/-- A line in colours that an engine rendered for one of its loggers. Values that write themselves
only append. -/
structure ColorfulLine (e : Engine) where
  env : Environment
  id : NodeId
  call : Call
  canvas : Canvas
  painted : Canvas
  colorful : (e.config id).format = .colorful
  appends : Value.LeavesOf (Value.OnlyAppends .colorful) (e.load env id call canvas).table.attrs
  paint_eq : e.paint env id call canvas = .ok painted

namespace ColorfulLine

variable {e : Engine}

def text (x : e.ColorfulLine) : List UInt8 := x.painted.buffer.toList

def timeText (x : e.ColorfulLine) : String := e.timeText x.env x.id x.call

def lead (x : e.ColorfulLine) : String := e.lead x.env x.id x.call

def levelText (x : e.ColorfulLine) : List UInt8 :=
  (e.load x.env x.id x.call x.canvas).levelText

end ColorfulLine

end Engine

/-- Colourful lines align. After any actions on an engine each line says the time, the name and its
padding, and then the level, which stands the same number of characters after the time in every line
of every logger. -/
theorem System.performAll_aligns {W : Type} [SinkHost W] (env : Environment) (o : EngineOptions)
    (sinks : W) (actions : List EngineAction) :
    let e := (EngineAction.performAll (ofBuild env o sinks) actions).engine
    (∀ x : e.ColorfulLine, (∃ rest, x.text = utf8 x.lead ++ (x.levelText ++ rest)) ∧
      x.lead.length = x.timeText.length + e.gap) ∧
    ∀ x y : e.ColorfulLine, x.timeText.length = y.timeText.length →
      x.lead.length = y.lead.length := by
  intro e
  have hWide : e.Wide := EngineAction.wide_performAll (Engine.wide_build env o) actions
  have hLead : ∀ x : e.ColorfulLine, x.lead.length = x.timeText.length + e.gap := by
    intro x
    exact hWide.length_lead x.env x.id x.call
  constructor
  · intro x
    exact ⟨Engine.paint_starts x.colorful x.appends x.paint_eq, hLead x⟩
  · intro x y hTime
    rw [hLead x, hLead y, hTime]

/-! ## Lines with room -/

namespace Engine

def job (e : Engine) (env : Environment) (id : NodeId) (call : Call) : Job where
  registry := env.registry
  record := e.record id call
  mode := .colorful
  colors := usesColors env (e.config id)
  merges := [.ofAttrs (e.inheritedAttrs id ++ (e.config id).attrs ++ e.contextAttrs id call ++
    Arg.toAttrs call.args)]
  options := e.renderOptions env id call
  painter := .colorful

variable {e : Engine}

theorem outcome_paint {env : Environment} {id : NodeId} {call : Call} {canvas : Canvas}
    (hColorful : (e.config id).format = .colorful) :
    Canvas.outcome (e.paint env id call canvas) = (e.job env id call).run canvas := by
  rw [paint, load, resolveAttrs_eq_merge, hColorful]
  rfl

theorem exists_paint {env : Environment} {id : NodeId} {call : Call} {slack : Nat}
    {output : Marshal → Marshal.Output} (hColorful : (e.config id).format = .colorful)
    (hLeaves : Value.LeavesOf (Value.FieldLeaf slack .colorful output) (e.job env id call).given)
    (hRoom : (lineText true ((e.job env id call).pieces output)).length + slack ≤ Buffer.maxSize)
    (canvas : Canvas) : ∃ painted, e.paint env id call canvas = .ok painted := by
  have hDelivers := (e.job env id call).colorful_line canvas hLeaves
  change Delivers slack _ ((e.job env id call).run canvas) at hDelivers
  rw [← outcome_paint hColorful] at hDelivers
  cases hPaint : e.paint env id call canvas with
  | ok painted => exact ⟨painted, rfl⟩
  | error fault =>
    rw [hPaint] at hDelivers
    generalize hOutcome : Canvas.outcome (.error fault) = outcome at hDelivers
    cases hDelivers with
    | ok _ => cases hOutcome
    | full hSize => omega

end Engine

/-- Lines of a logger without a name and of one with a name of two characters. -/
theorem System.performAll_aligns_of_db :
    let e := (EngineAction.performAll (ofBuild default {} SinkStore.new)
      [.logger (.child .root "db" [])]).engine
    ∃ x y : e.ColorfulLine, (e.node x.id).name = "" ∧ (e.node y.id).name = "db" ∧
      x.timeText.length = y.timeText.length ∧ x.lead.length = y.lead.length := by
  intro e
  let call : Call := { level := .info, message := "ok" }
  have hPainted : ∀ id ∈ [NodeId.root, ⟨1⟩],
      ∃ painted, e.paint default id call .new = .ok painted := by
    intro id hId
    have hColorful : (e.config id).format = .colorful := by
      revert id
      decide +kernel
    have hLeaves : Value.LeavesOf (Value.FieldLeaf 0 .colorful fun _ => .pair)
        (e.job default id call).given := by
      have hNone : ∀ id ∈ [NodeId.root, ⟨1⟩], (e.job default id call).given.isEmpty := by
        decide +kernel
      rw [List.isEmpty_iff.mp (hNone id hId)]
      trivial
    have hRoom : ∀ id ∈ [NodeId.root, ⟨1⟩], (lineText true
        ((e.job default id call).pieces fun _ => .pair)).length + 0 ≤ Buffer.maxSize := by
      decide +kernel
    exact Engine.exists_paint hColorful hLeaves (hRoom id hId) .new
  obtain ⟨root, hRoot⟩ := hPainted .root (.head _)
  obtain ⟨child, hChild⟩ := hPainted ⟨1⟩ (.tail _ (.head _))
  let x : e.ColorfulLine := ⟨default, .root, call, .new, root, rfl, trivial, hRoot⟩
  let y : e.ColorfulLine := ⟨default, ⟨1⟩, call, .new, child, rfl, trivial, hChild⟩
  have hTime : x.timeText.length = y.timeText.length := rfl
  have hLead := (performAll_aligns default {} SinkStore.new
    [.logger (.child .root "db" [])]).2 x y hTime
  exact ⟨x, y, rfl, rfl, hTime, hLead⟩

end Logline
