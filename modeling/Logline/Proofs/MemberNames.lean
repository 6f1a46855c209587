import Logline.Proofs.JsonLine
import Logline.Proofs.ToldFailures

/-! # Names in a line of JSON

A line has the fields of its record, the resolved attributes and the caller as members. No two of
the attributes have one key and no two of the fields one name, but an attribute may have the name of
a field, and the keys of a group are written as they are.
-/

namespace Logline

open Json (Content Spells SpellsMember content?)

namespace Json.Content

mutual

/-- No object of a content has two members with one name, however deep it is. -/
def Distinct : Content → Prop
  | .array items => DistinctItems items
  | .object members => (members.map (·.1)).Nodup ∧ DistinctMembers members
  | _ => True

def DistinctItems : List Content → Prop
  | [] => True
  | x :: r => x.Distinct ∧ DistinctItems r

def DistinctMembers : List (String × Content) → Prop
  | [] => True
  | (_, x) :: r => x.Distinct ∧ DistinctMembers r

end

theorem distinctItems_iff {items : List Content} :
    DistinctItems items ↔ ∀ x ∈ items, x.Distinct := by
  induction items with
  | nil => simp [DistinctItems]
  | cons x r ih => simp [DistinctItems, ih]

theorem distinctMembers_iff {members : List (String × Content)} :
    DistinctMembers members ↔ ∀ member ∈ members, member.2.Distinct := by
  induction members with
  | nil => simp [DistinctMembers]
  | cons member r ih => simp [DistinctMembers, ih]

theorem distinctMembers_append {xs ys : List (String × Content)} :
    DistinctMembers (xs ++ ys) ↔ DistinctMembers xs ∧ DistinctMembers ys := by
  simp only [distinctMembers_iff, List.forall_mem_append]

theorem distinct_array {α : Type} {content : α → Content} (h : ∀ x, (content x).Distinct)
    (items : List α) : (Content.array (items.map content)).Distinct := by
  refine distinctItems_iff.mpr fun y hy => ?_
  obtain ⟨x, -, rfl⟩ := List.mem_map.mp hy
  exact h x

/-- The member of a name that a reader keeps which lets the last one win. -/
def last? (name : String) (members : List (String × Content)) : Option Content :=
  members.reverse.lookup name

theorem last?_append (name : String) (xs ys : List (String × Content)) :
    last? name (xs ++ ys) = (last? name ys).or (last? name xs) := by
  rw [last?, List.reverse_append, List.lookup_append]
  rfl

theorem last?_eq_none {name : String} {members : List (String × Content)}
    (h : name ∉ members.map (·.1)) : last? name members = none := by
  rw [last?, List.lookup_eq_none_iff]
  intro member hMember
  rw [bne_iff_ne]
  rintro rfl
  exact h (List.mem_map_of_mem (List.mem_reverse.mp hMember))

theorem last?_of_mem {name : String} {content : Content} {members : List (String × Content)}
    (hNames : (members.map (·.1)).Nodup) (h : (name, content) ∈ members) :
    last? name members = some content := by
  obtain ⟨before, after, rfl⟩ := List.append_of_mem h
  rw [List.map_append, List.map_cons, List.nodup_append] at hNames
  have hAfter : name ∉ after.map (·.1) := (List.nodup_cons.mp hNames.2.1).1
  rw [List.append_cons, last?_append, last?_eq_none hAfter, last?_append]
  simp [last?]

end Json.Content

/-! ## Documents -/

namespace Json

theorem itemImages_eq_map (items : List Json) : itemImages items = items.map image := by
  induction items with
  | nil => rfl
  | cons x r ih => rw [itemImages, ih, List.map_cons]

theorem memberImages_eq_map (members : List (String × Json)) :
    memberImages members = members.map fun member => (member.1, member.2.image) := by
  induction members with
  | nil => rfl
  | cons member r ih => rw [memberImages, ih, List.map_cons]

/-- Members as they are found in a document: in the order of their keys, with distinct contents. -/
structure Found (members : List (String × Json)) : Prop where
  sorted : (members.map (·.1)).Pairwise (· < ·)
  distinct : ∀ member ∈ members, member.2.image.Distinct

theorem Found.object {members : List (String × Json)} (h : Found members) :
    (Json.object members).image.Distinct := by
  rw [image, memberImages_eq_map]
  constructor
  · rw [List.map_map]
    refine List.Pairwise.imp ?_ h.sorted
    rintro a _ hLess rfl
    exact String.lt_irrefl a hLess
  · refine Content.distinctMembers_iff.mpr fun y hy => ?_
    obtain ⟨member, hMember, rfl⟩ := List.mem_map.mp hy
    exact h.distinct member hMember

theorem found_nil : Found [] := ⟨.nil, fun _ hMem => nomatch hMem⟩

theorem mem_insertMember {key : String} {value : Json} {members : List (String × Json)}
    {member : String × Json} (h : member ∈ insertMember key value members) :
    member = (key, value) ∨ member ∈ members := by
  induction members with
  | nil => exact .inl (List.mem_singleton.mp h)
  | cons first r ih =>
    obtain ⟨k, v⟩ := first
    unfold insertMember at h
    split_ifs at h with hLess hSame
    · exact (List.mem_cons.mp h)
    · exact (List.mem_cons.mp h).imp_right (List.mem_cons_of_mem _)
    · rcases List.mem_cons.mp h with rfl | hRest
      · exact .inr List.mem_cons_self
      · exact (ih hRest).imp_right (List.mem_cons_of_mem _)

theorem Found.insertMember {members : List (String × Json)} (h : Found members) (key : String)
    {value : Json} (hValue : value.image.Distinct) :
    Found (Json.insertMember key value members) := by
  refine ⟨?_, fun member hMember => ?_⟩
  · obtain ⟨hSorted, -⟩ := h
    induction members with
    | nil => simp [Json.insertMember]
    | cons first r ih =>
      obtain ⟨k, v⟩ := first
      rw [List.map_cons, List.pairwise_cons] at hSorted
      obtain ⟨hFirst, hRest⟩ := hSorted
      unfold Json.insertMember
      split_ifs with hLess hSame
      · have hTail := List.pairwise_cons.mpr ⟨hFirst, hRest⟩
        refine List.pairwise_cons.mpr ⟨fun other hOther => ?_, hTail⟩
        rcases List.mem_cons.mp hOther with rfl | hOther
        · exact hLess
        · exact String.lt_trans hLess (hFirst other hOther)
      · exact List.pairwise_cons.mpr ⟨hSame ▸ hFirst, hRest⟩
      · refine List.pairwise_cons.mpr ⟨fun other hOther => ?_, ih hRest⟩
        obtain ⟨member, hMember, rfl⟩ := List.mem_map.mp hOther
        rcases mem_insertMember hMember with rfl | hMember
        · by_contra hNot
          exact hSame (String.le_antisymm (String.not_lt.mp hNot) (String.not_lt.mp hLess))
        · exact hFirst _ (List.mem_map_of_mem hMember)
  · rcases mem_insertMember hMember with rfl | hMember
    · exact hValue
    · exact h.distinct member hMember

theorem distinct_ofNumeral {x : Numeral} {j : Json} (h : ofNumeral x = some j) :
    j.image.Distinct := by
  have hFloat : ∀ y : Binary64, (Json.float y).image.Distinct := by
    intro y
    rw [image, floatImage]
    cases y.magnitude <;> trivial
  have hBinary : ∀ {negative significand exponent},
      binaryOf negative significand exponent = some j → j.image.Distinct := by
    intro negative significand exponent hBinary
    obtain ⟨y, -, rfl⟩ := Option.map_eq_some_iff.mp hBinary
    exact hFloat _
  unfold ofNumeral at h
  dsimp only at h
  split at h
  · split_ifs at h <;> cases h
    · trivial
    · exact hFloat _
    · trivial
    · exact hFloat _
  · split at h
    · exact hBinary h
    · split at h
      · exact hBinary h
      · split_ifs at h
        cases h
        exact hFloat _

mutual

-- By recursion on the document. The members found so far are the invariant of a list of members.
theorem distinct_ofRaw {depth : Nat} {raw : Raw} {j : Json} (h : ofRaw depth raw = some j) :
    j.image.Distinct := by
  cases raw with
  | null => cases h; trivial
  | bool b => cases h; trivial
  | number n => exact distinct_ofNumeral h
  | string units =>
    obtain ⟨s, -, rfl⟩ := Option.map_eq_some_iff.mp h
    trivial
  | array items =>
    match depth with
    | 0 | 1 => cases h
    | d + 2 =>
      obtain ⟨found, hItems, rfl⟩ := Option.map_eq_some_iff.mp h
      rw [image, itemImages_eq_map]
      refine Content.distinctItems_iff.mpr fun y hy => ?_
      obtain ⟨x, hx, rfl⟩ := List.mem_map.mp hy
      exact distinct_ofItems hItems x hx
  | object members =>
    match depth with
    | 0 | 1 => cases h
    | d + 2 =>
      obtain ⟨found, hMembers, rfl⟩ := Option.map_eq_some_iff.mp h
      exact (found_ofMembers found_nil hMembers).object

theorem distinct_ofItems {depth : Nat} {raws : List Raw} {items : List Json}
    (h : ofItems depth raws = some items) : ∀ x ∈ items, x.image.Distinct := by
  cases raws with
  | nil => cases h; nofun
  | cons raw r =>
    simp only [ofItems, Option.bind_eq_bind, Option.bind_eq_some_iff] at h
    obtain ⟨item, hItem, rest, hRest, hItems⟩ := h
    cases hItems
    exact List.forall_mem_cons.mpr ⟨distinct_ofRaw hItem, distinct_ofItems hRest⟩

theorem found_ofMembers {depth : Nat} {found members : List (String × Json)}
    {raws : List (List CodeUnit × Raw)} (hFound : Found found)
    (h : ofMembers depth found raws = some members) : Found members := by
  cases raws with
  | nil => cases h; exact hFound
  | cons raw r =>
    obtain ⟨key, x⟩ := raw
    simp only [ofMembers, Option.bind_eq_bind, Option.bind_eq_some_iff] at h
    obtain ⟨key, -, value, hValue, hRest⟩ := h
    exact found_ofMembers (hFound.insertMember key (distinct_ofRaw hValue)) hRest

end

/-- The objects of a value that was read from a document have distinct names. -/
theorem distinct_parse? {s : String} {j : Json} (h : parse? s = some j) : j.image.Distinct := by
  obtain ⟨raw, -, hRaw⟩ := Option.bind_eq_some_iff.mp h
  exact distinct_ofRaw hRaw

end Json

/-! ## Values -/

namespace Value

/-- A value that does not write itself; an instant is a valid one. -/
def Native : Value → Prop
  | .time t => t.Valid
  | .marshal _ => False
  | _ => True

theorem Native.jsonLeaf {slack : Nat} {output : Marshal → Marshal.Output} (v : Value)
    (h : v.Native) : v.JsonLeaf slack output := by
  cases v with
  | marshal m => exact h.elim
  | time t => exact h
  | _ => trivial

mutual

/-- No group in a value has two attributes with one key, nor has an object of a document. -/
def Distinct : Value → Prop
  | .group attrs => (attrs.map (·.key)).Nodup ∧ DistinctAttrs attrs
  | .json j => j.image.Distinct
  | _ => True

def DistinctAttrs : List (Entry Value) → Prop
  | [] => True
  | ⟨_, value⟩ :: r => value.Distinct ∧ DistinctAttrs r

end

variable {output : Marshal → Marshal.Output}

theorem distinctAttrs_iff {attrs : List Attr} :
    DistinctAttrs attrs ↔ ∀ a ∈ attrs, a.value.Distinct := by
  induction attrs with
  | nil => simp [DistinctAttrs]
  | cons a r ih => simp [DistinctAttrs, ih]

theorem members_eq_map (attrs : List Attr) :
    members output attrs = attrs.map fun a => (a.key, a.value.image output) := by
  induction attrs with
  | nil => rfl
  | cons a r ih => rw [members, ih, List.map_cons]

theorem names_members (attrs : List Attr) :
    (members output attrs).map (·.1) = attrs.map (·.key) := by
  rw [members_eq_map, List.map_map]
  rfl

theorem distinct_floatImage (f : FloatFormat) (negative : Bool) (x : Magnitude) :
    (f.image negative x).Distinct := by
  cases x <;> trivial

mutual

theorem distinct_image {v : Value} (hv : v.Leaves Native) :
    (v.image output).Distinct ↔ v.Distinct := by
  cases v with
  | float x | float32 x => exact iff_of_true (distinct_floatImage _ _ _) trivial
  | strings items | bools items | ints items =>
    refine iff_of_true (Content.distinct_array (fun _ => ?_) items) trivial
    trivial
  | floats items =>
    exact iff_of_true (Content.distinct_array (fun _ => distinct_floatImage _ _ _) items) trivial
  | json j => exact Iff.rfl
  | marshal m => exact hv.elim
  | group attrs =>
    show _ ∧ _ ↔ _ ∧ _
    rw [names_members, distinct_members hv]
  | _ => exact iff_of_true trivial trivial

theorem distinct_members {attrs : List (Entry Value)} (hAttrs : LeavesOf Native attrs) :
    Content.DistinctMembers (members output attrs) ↔ DistinctAttrs attrs := by
  cases attrs with
  | nil => exact Iff.rfl
  | cons a r => exact and_congr (distinct_image hAttrs.1) (distinct_members hAttrs.2)

end

end Value

/-! ## Lines -/

/-- What values that write themselves say, where there are none. -/
def Marshal.silent (_ : Marshal) : Marshal.Output := ⟨[], none⟩

namespace Attempt

open JsonPainter (shows_time shows_loggerName shows_level shows_message shows_attrs
  shows_callerStep)

variable {W : Type}

/-- The attributes of the loggers above, the logger, the context and the arguments, in a row. -/
def given (a : Attempt W) : List Attr :=
  a.system.engine.inheritedAttrs a.node ++ (a.system.engine.config a.node).attrs ++
    a.system.engine.contextAttrs a.node a.call ++ Arg.toAttrs a.call.args

theorem attrs_eq_resolve (a : Attempt W) : a.attrs = Attr.resolve a.given :=
  Engine.load_table_attrs ..

/-- The fields of a line before its attributes. -/
def leading (a : Attempt W) : List (String × Content) :=
  let config := a.system.engine.config a.node
  let name := (a.system.engine.node a.node).name
  [("time",
    config.timeLayout.image (a.environment.localZone a.call.time) a.call.time config.utc)] ++
    ((if name.isEmpty then [] else [("logger", .string name)]) ++
    ([("level", .string (a.environment.registry.title a.call.level))] ++
    [("msg", .string a.call.message)]))

def trailing (a : Attempt W) : List (String × Content) :=
  (a.call.callerFor (a.system.engine.config a.node)).toList.map fun caller =>
    ("caller", (caller.redacted (some a.system.engine.redactor)).image)

/-- What a line in JSON says, with all of its duplicates. -/
def members (a : Attempt W) : List (String × Content) :=
  a.leading ++ (Value.members Marshal.silent a.attrs ++ a.trailing)

/-- The names that a line has on its own. -/
def fixedNames (a : Attempt W) : List String := (a.leading ++ a.trailing).map (·.1)

theorem painted_of_line? {a : Attempt W} {line : ByteArray} (h : a.line? = some line) :
    ∃ canvas, a.painted = .ok canvas ∧ canvas.buffer.bytes = line := by
  cases hPass : a.passes with
  | false => rw [line?_filtered hPass] at h; cases h
  | true =>
    cases hPainted : a.painted with
    | error fault => rw [line?_broken hPainted] at h; cases h
    | ok canvas =>
      rw [line?_written hPass hPainted] at h
      exact ⟨canvas, rfl, Option.some.inj h⟩

/-- The line of a record in JSON stands for an object with all of its members. -/
theorem json_content {a : Attempt W} {line : ByteArray}
    (hFormat : (a.system.engine.config a.node).format = .json) (hTime : a.call.time.Valid)
    (hValues : Value.LeavesOf Value.Native a.attrs) (hLine : a.line? = some line) :
    ∃ text, line.data.toList = text ++ [0x0a] ∧ content? text = some (.object a.members) := by
  let base := a.system.engine.load a.environment a.node a.call a.system.engine.pool.checkout.1
  let options := a.system.engine.renderOptions a.environment a.node a.call
  have hFresh : base.isFresh = true := rfl
  have hAttrs : Value.LeavesOf (Value.JsonLeaf 0 Marshal.silent) base.table.attrs :=
    hValues.imp Value.Native.jsonLeaf
  obtain ⟨texts, hMembers, hRender⟩ := Canvas.exists_render hFresh
    (fun c hc => Canvas.grows_write hc (.pushByte 0x7b))
    (shows_time options.home options.timeLayout hTime options.utc)
    (shows_loggerName base.logger options.nameWidth) shows_level (shows_message base.message)
    (shows_attrs base.table.attrs hAttrs) (shows_callerStep options)
    (fun c hc => Canvas.grows_none hc)
    (fun c hc => Canvas.grows_write hc (.pushByte 0x7d))
  have hItems : List.Forall₂ SpellsMember texts a.members := by
    rw [members, leading, List.append_assoc, List.append_assoc, List.append_assoc]
    exact hMembers
  obtain ⟨canvas, hPainted, rfl⟩ := painted_of_line? hLine
  have hPaint : base.render options .json = .ok canvas := by
    rw [← hPainted, painted, Engine.paint, hFormat]
    rfl
  rw [hPaint] at hRender
  cases hRender with
  | ok _ hText _ =>
    refine ⟨0x7b :: (joined 0x2c true texts ++ [0x7d]), ?_, (Json.spells_object hItems).content?_eq⟩
    rw [← Buffer.toList, hText]
    show [] ++ ([0x7b] ++ (_ ++ ([0x7d] ++ [0x0a]))) = _
    simp

variable (a : Attempt W)

theorem nodup_fixedNames : a.fixedNames.Nodup := by
  rw [fixedNames, leading, trailing]
  cases (a.system.engine.node a.node).name.isEmpty <;>
    cases a.call.callerFor (a.system.engine.config a.node) <;> simp

theorem nodup_keys : (a.attrs.map (·.key)).Nodup := by
  rw [attrs_eq_resolve]
  exact Attr.nodup_keys_resolve _

/-- An attribute with the name of a field is all that repeats a name. -/
theorem nodup_names_iff :
    (a.members.map (·.1)).Nodup ↔ ∀ b ∈ a.attrs, b.key ∉ a.fixedNames := by
  -- The order of names does not matter, so those of the fields are put next to each other.
  rw [members, List.map_append, List.map_append, Value.names_members,
    (List.perm_append_comm_assoc _ _ _).nodup_iff, ← List.map_append, List.nodup_append']
  constructor
  · rintro ⟨-, -, hApart⟩ b hb
    exact hApart (List.mem_map_of_mem hb)
  · intro hApart
    refine ⟨a.nodup_keys, a.nodup_fixedNames, fun key hKey => ?_⟩
    obtain ⟨b, hb, rfl⟩ := List.mem_map.mp hKey
    exact hApart b hb

theorem distinct_leading : Content.DistinctMembers a.leading := by
  have hTime : ∀ (home : Zone) (layout : TimeLayout) (t : Instant) (utc : Bool),
      (layout.image home t utc).Distinct := fun home layout t utc => by cases layout <;> trivial
  rw [leading]
  cases (a.system.engine.node a.node).name.isEmpty with
  | true => exact ⟨hTime _ _ _ _, trivial, trivial, trivial⟩
  | false => exact ⟨hTime _ _ _ _, trivial, trivial, trivial, trivial⟩

theorem distinct_trailing : Content.DistinctMembers a.trailing := by
  refine Content.distinctMembers_iff.mpr fun member hMember => ?_
  obtain ⟨caller, -, rfl⟩ := List.mem_map.mp hMember
  exact ⟨by simp, trivial, trivial, trivial, trivial⟩

theorem distinct_members_iff (hValues : Value.LeavesOf Value.Native a.attrs) :
    (Content.object a.members).Distinct ↔
      ∀ b ∈ a.attrs, b.key ∉ a.fixedNames ∧ b.value.Distinct := by
  have hMembers : Content.DistinctMembers a.members ↔ ∀ b ∈ a.attrs, b.value.Distinct := by
    have hInner : Content.DistinctMembers (Value.members Marshal.silent a.attrs) ↔ _ :=
      Value.distinct_members hValues
    rw [members, Content.distinctMembers_append, Content.distinctMembers_append, hInner,
      Value.distinctAttrs_iff]
    simp [a.distinct_leading, a.distinct_trailing]
  rw [forall₂_and, ← hMembers, ← nodup_names_iff]
  exact Iff.rfl

theorem last?_caller {caller : Caller}
    (hCaller : a.call.callerFor (a.system.engine.config a.node) = some caller) :
    Content.last? "caller" a.members =
      some (caller.redacted (some a.system.engine.redactor)).image := by
  rw [members, Content.last?_append, Content.last?_append, trailing, hCaller]
  rfl

variable {a} {name : String} {content : Content}

theorem last?_leading (h : (name, content) ∈ a.leading) :
    Content.last? name a.members =
      (Content.last? name (Value.members Marshal.silent a.attrs)).or (some content) := by
  have hNames := a.nodup_fixedNames
  rw [fixedNames, List.map_append, List.nodup_append'] at hNames
  obtain ⟨hLeading, -, hApart⟩ := hNames
  rw [members, Content.last?_append, Content.last?_append, Content.last?_of_mem hLeading h,
    Content.last?_eq_none (hApart (List.mem_map_of_mem h)), Option.none_or]

theorem last?_attr {b : Attr} (hb : b ∈ a.attrs) :
    Content.last? b.key (Value.members Marshal.silent a.attrs) =
      some (b.value.image Marshal.silent) := by
  apply Content.last?_of_mem
  · rw [Value.names_members]
    exact a.nodup_keys
  · rw [Value.members_eq_map]
    exact List.mem_map_of_mem hb

/-- A line in JSON repeats a name where an attribute has that of a field, and a group repeats those
that it was given; no other object in a line does. A reader that keeps the last member of a name
sees the caller, and each other field unless an attribute has its name. -/
theorem json_names (a : Attempt W) {line : ByteArray}
    (hFormat : (a.system.engine.config a.node).format = .json) (hTime : a.call.time.Valid)
    (hValues : Value.LeavesOf Value.Native a.attrs) (hLine : a.line? = some line) :
    (∃ text, line.data.toList = text ++ [0x0a] ∧ content? text = some (.object a.members)) ∧
    a.attrs = Attr.resolve a.given ∧
    (a.attrs.map (·.key)).Nodup ∧ a.fixedNames.Nodup ∧
    ((a.members.map (·.1)).Nodup ↔ ∀ b ∈ a.attrs, b.key ∉ a.fixedNames) ∧
    ((Content.object a.members).Distinct ↔
      ∀ b ∈ a.attrs, b.key ∉ a.fixedNames ∧ b.value.Distinct) ∧
    (∀ caller, a.call.callerFor (a.system.engine.config a.node) = some caller →
      Content.last? "caller" a.members =
        some (caller.redacted (some a.system.engine.redactor)).image) ∧
    (∀ name content, (name, content) ∈ a.leading →
      ((∀ b ∈ a.attrs, b.key ≠ name) → Content.last? name a.members = some content) ∧
      (∀ b ∈ a.attrs, b.key = name →
        Content.last? name a.members = some (b.value.image Marshal.silent))) := by
  refine ⟨json_content hFormat hTime hValues hLine, a.attrs_eq_resolve, a.nodup_keys,
    a.nodup_fixedNames, a.nodup_names_iff, a.distinct_members_iff hValues,
    fun caller => a.last?_caller, fun name content hField => ⟨fun hFree => ?_, ?_⟩⟩
  · have hNone : name ∉ (Value.members Marshal.silent a.attrs).map (·.1) := by
      rw [Value.names_members]
      intro hMem
      obtain ⟨b, hb, hKey⟩ := List.mem_map.mp hMem
      exact hFree b hb hKey
    rw [last?_leading hField, Content.last?_eq_none hNone, Option.none_or]
  · rintro b hb rfl
    rw [last?_leading hField, last?_attr hb, Option.some_or]

/-- A call that gives a group and a caller, on an engine whose lines are JSON. -/
def ofGroup (key : String) (group : List Attr) : Attempt SinkStore where
  environment := { (default : Environment) with registry := .new }
  node := .root
  call := {
    level := .info
    message := "m"
    args := [.attr ⟨key, .group group⟩]
    site := some ⟨⟨"main.rs", 7, "run"⟩, []⟩ }
  system := ⟨Engine.build default
    { node := { format := .json, timeLayout := .unix, caller := true } }, .new, []⟩

theorem attrs_ofGroup (key : String) (group : List Attr) :
    (ofGroup key group).attrs = [⟨key, .group group⟩] := rfl

theorem members_ofGroup (key : String) (group : List Attr) :
    (ofGroup key group).members = [("time", TimeLayout.unix.image .universal .epoch true),
      ("level", .string "info"), ("msg", .string "m"),
      (key, .object (Value.members Marshal.silent group)),
      ("caller", Caller.image ⟨"main.rs", 7, "run"⟩)] := rfl

theorem json_names_of_group :
    let a := ofGroup "g" [⟨"k", .int 1⟩]
    let line := ("\x7b\"time\":0,\"level\":\"info\",\"msg\":\"m\",\"g\":\x7b\"k\":1\x7d," ++
      "\"caller\":\x7b\"file\":\"main.rs\",\"line\":7,\"function\":\"run\"\x7d\x7d\n").toUTF8
    (a.system.engine.config a.node).format = .json ∧ a.call.time.Valid ∧
      Value.LeavesOf Value.Native a.attrs ∧ a.line? = some line ∧
      (∃ text, line.data.toList = text ++ [0x0a] ∧ content? text = some (.object a.members)) ∧
      (Content.object a.members).Distinct ∧
      Content.last? "caller" a.members = some (Caller.image ⟨"main.rs", 7, "run"⟩) ∧
      Content.last? "msg" a.members = some (.string "m") := by
  intro a line
  have hTime : a.call.time.Valid := by decide
  have hValues : Value.LeavesOf Value.Native a.attrs := by
    rw [attrs_ofGroup]
    exact ⟨⟨trivial, trivial⟩, trivial⟩
  have hLine : a.line? = some line := by decide +kernel
  obtain ⟨hContent, -, -, -, -, hDistinct, hCaller, hFields⟩ := json_names a rfl hTime hValues hLine
  have hAttrs : ∀ b ∈ a.attrs, b.key = "g" ∧ b.value.Distinct := by
    rw [attrs_ofGroup]
    simp [Value.Distinct, Value.DistinctAttrs]
  have hFixed : a.fixedNames = ["time", "level", "msg", "caller"] := rfl
  refine ⟨rfl, hTime, hValues, hLine, hContent, hDistinct.mpr fun b hb => ?_, hCaller _ rfl,
    (hFields "msg" (.string "m") (.tail _ (.tail _ (.head _)))).1 fun b hb => ?_⟩
  · obtain ⟨hKey, hValue⟩ := hAttrs b hb
    rw [hKey, hFixed]
    exact ⟨by decide, hValue⟩
  · rw [(hAttrs b hb).1]
    decide

/-- A group with the name of the message, and with one key twice. A reader that keeps the last of
two members sees the group in place of the message. -/
theorem json_repeats_message :
    let a := ofGroup "msg" [⟨"k", .int 1⟩, ⟨"k", .int 2⟩]
    let line := ("\x7b\"time\":0,\"level\":\"info\",\"msg\":\"m\"," ++
      "\"msg\":\x7b\"k\":1,\"k\":2\x7d," ++
      "\"caller\":\x7b\"file\":\"main.rs\",\"line\":7,\"function\":\"run\"\x7d\x7d\n").toUTF8
    a.line? = some line ∧
      (∃ text, line.data.toList = text ++ [0x0a] ∧ content? text = some (.object a.members)) ∧
      a.members.map (·.1) = ["time", "level", "msg", "msg", "caller"] ∧
      ("msg", .string "m") ∈ a.members ∧
      Content.last? "msg" a.members =
        some (.object [("k", .number false 1), ("k", .number false 2)]) := by
  intro a line
  have hLine : a.line? = some line := by decide +kernel
  have hValues : Value.LeavesOf Value.Native a.attrs := by
    rw [attrs_ofGroup]
    exact ⟨⟨trivial, trivial, trivial⟩, trivial⟩
  refine ⟨hLine, json_content rfl (by decide) hValues hLine, rfl, ?_, ?_⟩
  · rw [members_ofGroup]
    simp
  · rw [members_ofGroup]
    simp [Content.last?, Value.members, Value.image, List.lookup_cons]

end Attempt

end Logline
