import GUPnP.ServiceIntrospection.Model
import GUPnP.ServiceProxyAction.Model

/-!
# Lookups by name and the lists

A lookup by name and the list of names agree after any calls of the accessors: for state variables
always (`variableLookup`), for actions exactly where the document describes a state variable
(`lookups_agree`), because `getAction` looks at the list of the variables before it searches that of
the actions.
-/

set_option autoImplicit false

namespace GUPnP.ServiceIntrospection

open Xml

/-! ## The statement -/

/-- `x` is the first entry of the list with this name. -/
def IsFirst {α : Type} (nameOf : α → Str) (name : Str) (xs : List α) (x : α) : Prop :=
  nameOf x = name ∧ ∃ before after, xs = before ++ x :: after ∧ ∀ y ∈ before, nameOf y ≠ name

/-- A lookup finds a name exactly where the list of names has it, and then the first entry. -/
def LooksUp {α : Type} (nameOf : α → Str) (names : List Str) (entries : List α)
    (lookup : Str → Option α) : Prop :=
  ∀ name, ((lookup name).isSome ↔ name ∈ names) ∧
    ∀ entry, lookup name = some entry → IsFirst nameOf name entries entry

/-- `getAction` agrees with the lists of the actions. -/
def ActionLookup (s : Introspection) : Prop :=
  LooksUp ActionInfo.name s.listActionNames.2 s.listActions s.getAction

/-- `getStateVariable` agrees with the lists of the state variables. -/
def VariableLookup (s : Introspection) : Prop :=
  LooksUp StateVariableInfo.name s.listStateVariableNames.2 s.listStateVariables s.getStateVariable

/-- The document describes a state variable: one with a name and a data type that is known. -/
def DescribesVariable (scpd : Node) : Prop :=
  ∃ table node, getElement scpd ["scpd".toList, "serviceStateTable".toList] = some table ∧
    node ∈ table.children ∧ node.name = some "stateVariable".toList ∧
    (getChildElementContent node "name".toList).isSome ∧
    ((getChildElementContent node "dataType".toList).bind setVariableType).isSome

/-- The document declares the action: there is one with this name. -/
def DeclaresAction (scpd : Node) (name : Str) : Prop :=
  ∃ list node, getElement scpd ["scpd".toList, "actionList".toList] = some list ∧
    node ∈ list.children ∧ node.name = some "action".toList ∧
    getChildElementContent node "name".toList = some name

/-! ## Searching a list -/

section
variable {α : Type} {nameOf : α → Str} {xs : List α}

theorem isFirst_of_find {name : Str} {x : α}
    (h : xs.find? (fun y => nameOf y = name) = some x) : IsFirst nameOf name xs x := by
  obtain ⟨hname, before, after, heq, hbefore⟩ := List.find?_eq_some_iff_append.1 h
  refine ⟨of_decide_eq_true hname, before, after, heq, fun y hy => ?_⟩
  simpa using hbefore y hy

/-- A search agrees with the names of what it searches. -/
theorem looksUp_find (nameOf : α → Str) (xs : List α) :
    LooksUp nameOf (xs.map nameOf) xs fun name => xs.find? fun x => nameOf x = name := by
  intro name
  refine ⟨?_, fun entry h => isFirst_of_find h⟩
  rw [List.find?_isSome, List.mem_map]
  simp only [decide_eq_true_eq]

end

/-! ## The lists of names -/

/-- What is kept of the names is what is listed. -/
structure Cached (s : Introspection) : Prop where
  actions : s.actionNames = [] ∨ s.actionNames = s.actions.map ActionInfo.name
  stateVariables : s.variableNames = [] ∨ s.variableNames = s.stateVariables.map StateVariableInfo.name

/-- The names appended one after the other to none. -/
theorem foldl_names {α : Type} (nameOf : α → Str) (xs : List α) (names : List Str) :
    xs.foldl (fun names x => names ++ [nameOf x]) names = names ++ xs.map nameOf := by
  rw [List.foldl_append_eq_append, ← List.flatMap_def, List.map_eq_flatMap]

variable {s : Introspection}

theorem Cached.listActionNames (h : Cached s) :
    s.listActionNames.2 = s.actions.map ActionInfo.name := by
  unfold Introspection.listActionNames
  by_cases hnil : s.actions = []
  · rw [if_pos hnil, hnil]
    rfl
  · rw [if_neg hnil]
    by_cases hnames : s.actionNames = []
    · simp only [hnames, if_true, foldl_names, List.nil_append]
    · simp only [if_neg hnames]
      exact h.actions.resolve_left hnames

theorem Cached.listStateVariableNames (h : Cached s) :
    s.listStateVariableNames.2 = s.stateVariables.map StateVariableInfo.name := by
  unfold Introspection.listStateVariableNames
  by_cases hnil : s.stateVariables = []
  · rw [if_pos hnil, hnil]
    rfl
  · rw [if_neg hnil]
    by_cases hnames : s.variableNames = []
    · simp only [hnames, if_true, foldl_names, List.nil_append]
    · simp only [if_neg hnames]
      exact h.stateVariables.resolve_left hnames

/-- A call changes nothing but what is kept of the names, and keeps what it lists. -/
theorem access_cases (s : Introspection) (a : Access) :
    (s.access a = s) ∨
    (s.access a = { s with actionNames := s.listActionNames.2 }) ∨
    (s.access a = { s with variableNames := s.listStateVariableNames.2 }) := by
  cases a with
  | listActionNames =>
    unfold Introspection.access Introspection.listActionNames
    by_cases hnil : s.actions = []
    · exact .inl (by simp only [if_pos hnil])
    · exact .inr (.inl (by simp only [if_neg hnil]))
  | listStateVariableNames =>
    unfold Introspection.access Introspection.listStateVariableNames
    by_cases hnil : s.stateVariables = []
    · exact .inl (by simp only [if_pos hnil])
    · exact .inr (.inr (by simp only [if_neg hnil]))

theorem Cached.access (h : Cached s) (a : Access) : Cached (s.access a) := by
  rcases access_cases s a with heq | heq | heq
  · rw [heq]
    exact h
  · rw [heq]
    exact ⟨.inr h.listActionNames, h.stateVariables⟩
  · rw [heq]
    exact ⟨h.actions, .inr h.listStateVariableNames⟩

/-- Any calls keep the lists. -/
theorem accesses_spec (h : Cached s) (accesses : List Access) :
    Cached (accesses.foldl Introspection.access s) ∧
      (accesses.foldl Introspection.access s).actions = s.actions ∧
      (accesses.foldl Introspection.access s).stateVariables = s.stateVariables := by
  induction accesses generalizing s with
  | nil => exact ⟨h, rfl, rfl⟩
  | cons a accesses ih =>
    obtain ⟨hcached, hactions, hvariables⟩ := ih (h.access a)
    have hkeep : (s.access a).actions = s.actions ∧ (s.access a).stateVariables = s.stateVariables := by
      rcases access_cases s a with heq | heq | heq
      · rw [heq]; exact ⟨rfl, rfl⟩
      · rw [heq]; exact ⟨rfl, rfl⟩
      · rw [heq]; exact ⟨rfl, rfl⟩
    exact ⟨hcached, hactions.trans hkeep.1, hvariables.trans hkeep.2⟩

/-! ## Lookups -/

theorem variableLookup (h : Cached s) : VariableLookup s := by
  have hget : s.getStateVariable = fun name => s.stateVariables.find? fun info => info.name = name := by
    funext name
    unfold Introspection.getStateVariable
    by_cases hnil : s.stateVariables = []
    · rw [if_pos hnil, hnil]
      rfl
    · rw [if_neg hnil]
  unfold VariableLookup
  rw [hget, h.listStateVariableNames]
  exact looksUp_find StateVariableInfo.name s.stateVariables

theorem actionLookup (h : Cached s) (hvariables : s.stateVariables ≠ []) : ActionLookup s := by
  have hget : s.getAction = fun name => s.actions.find? fun info => info.name = name := by
    funext name
    exact if_neg hvariables
  unfold ActionLookup
  rw [hget, h.listActionNames]
  exact looksUp_find ActionInfo.name s.actions

/-- Without variables no action is found. -/
theorem not_actionLookup (h : Cached s) (hvariables : s.stateVariables = [])
    (hactions : s.actions ≠ []) :
    ¬ ActionLookup s := by
  intro hlookup
  obtain ⟨info, rest, hinfo⟩ := List.exists_cons_of_ne_nil hactions
  have hmem : info.name ∈ s.listActionNames.2 := by
    rw [h.listActionNames, hinfo]
    exact List.mem_cons_self
  have hfound := (hlookup info.name).1.2 hmem
  rw [Introspection.getAction, if_pos hvariables] at hfound
  exact absurd hfound (by decide)

/-! ## Construction -/

/-- What a loop appends is what it appends for one of the nodes. -/
theorem mem_flatten_mapM {α β : Type} {f : α → Option (List β)} {nodes : List α}
    {entries : List (List β)} (h : nodes.mapM f = some entries) (x : β) :
    x ∈ entries.flatten ↔ ∃ node ∈ nodes, ∃ entry, f node = some entry ∧ x ∈ entry := by
  induction nodes generalizing entries with
  | nil =>
    rw [List.mapM_nil] at h
    obtain rfl := Option.some.inj h
    simp
  | cons node nodes ih =>
    rw [List.mapM_cons] at h
    obtain ⟨entry, hentry, h⟩ := Option.bind_eq_some_iff.1 h
    obtain ⟨rest, hrest, h⟩ := Option.bind_eq_some_iff.1 h
    obtain rfl := Option.some.inj h
    rw [List.flatten_cons, List.mem_append, ih hrest]
    constructor
    · rintro (hx | ⟨node', hmem, hnode'⟩)
      · exact ⟨node, List.mem_cons_self, entry, hentry, hx⟩
      · exact ⟨node', List.mem_cons_of_mem node hmem, hnode'⟩
    · rintro ⟨node', hmem, entry', hentry', hx⟩
      rcases List.mem_cons.1 hmem with rfl | hmem
      · rw [hentry] at hentry'
        obtain rfl := Option.some.inj hentry'
        exact .inl hx
      · exact .inr ⟨node', hmem, entry', hentry', hx⟩

/-- What a loop appends is empty where it appends nothing for each node. -/
theorem flatten_mapM_ne_nil {α β : Type} {f : α → Option (List β)} {nodes : List α}
    {entries : List (List β)} (h : nodes.mapM f = some entries) :
    entries.flatten ≠ [] ↔ ∃ node ∈ nodes, ∃ entry, f node = some entry ∧ entry ≠ [] := by
  constructor
  · intro hne
    obtain ⟨x, hx⟩ := List.exists_mem_of_ne_nil _ hne
    obtain ⟨node, hmem, entry, hentry, hx⟩ := (mem_flatten_mapM h x).1 hx
    exact ⟨node, hmem, entry, hentry, List.ne_nil_of_mem hx⟩
  · rintro ⟨node, hmem, entry, hentry, hne⟩
    obtain ⟨x, hx⟩ := List.exists_mem_of_ne_nil entry hne
    exact List.ne_nil_of_mem ((mem_flatten_mapM h x).2 ⟨node, hmem, entry, hentry, hx⟩)

theorem exists_of_mapM {α β : Type} {f : α → Option β} {nodes : List α} {entries : List β}
    (h : nodes.mapM f = some entries) {node : α} (hmem : node ∈ nodes) :
    ∃ entry, f node = some entry := by
  induction nodes generalizing entries with
  | nil => exact absurd hmem List.not_mem_nil
  | cons first nodes ih =>
    rw [List.mapM_cons] at h
    obtain ⟨entry, hentry, h⟩ := Option.bind_eq_some_iff.1 h
    obtain ⟨rest, hrest, -⟩ := Option.bind_eq_some_iff.1 h
    rcases List.mem_cons.1 hmem with rfl | hmem
    · exact ⟨entry, hentry⟩
    · exact ih hrest hmem

variable (glib : GLib)

/-- A node gives a variable if it has a name and a known data type. -/
theorem readStateVariable_ne_nil {node : Node} {entry : List StateVariableInfo}
    (h : readStateVariable glib node = some entry) :
    entry ≠ [] ↔ (getChildElementContent node "name".toList).isSome ∧
      ((getChildElementContent node "dataType".toList).bind setVariableType).isSome := by
  unfold readStateVariable at h
  cases hname : getChildElementContent node "name".toList with
  | none =>
    rw [hname] at h
    obtain rfl := Option.some.inj h
    simp only [ne_eq, not_true_eq_false, Option.isSome_none, Bool.false_eq_true, false_and]
  | some name =>
    rw [hname] at h
    obtain ⟨info, hinfo, rfl⟩ := Option.map_eq_some_iff.1 h
    unfold getStateVariable at hinfo
    cases htype : (getChildElementContent node "dataType".toList).bind setVariableType with
    | none =>
      rw [htype] at hinfo
      obtain rfl := Option.some.inj hinfo
      simp
    | some type =>
      rw [htype] at hinfo
      obtain ⟨values, -, rfl⟩ := Option.map_eq_some_iff.1 hinfo
      simp

theorem stateVariables_ne_nil {scpd : Node} {infos : List StateVariableInfo}
    (h : readList (getStateVariables glib) scpd "serviceStateTable".toList = some infos) :
    infos ≠ [] ↔ DescribesVariable scpd := by
  unfold readList at h
  unfold DescribesVariable
  cases htable : getElement scpd ["scpd".toList, "serviceStateTable".toList] with
  | none =>
    rw [htable] at h
    obtain rfl := Option.some.inj h
    refine ⟨fun hne => absurd rfl hne, ?_⟩
    rintro ⟨table, node, htable', -⟩
    cases htable'
  | some table =>
    rw [htable] at h
    obtain ⟨nodes, hnodes, h⟩ := Option.bind_eq_some_iff.1 h
    obtain ⟨entries, hentries, rfl⟩ := Option.map_eq_some_iff.1 h
    rw [flatten_mapM_ne_nil hentries]
    constructor
    · rintro ⟨node, hmem, entry, hentry, hne⟩
      obtain ⟨hchild, hname⟩ := (childrenNamed_spec hnodes node).1 hmem
      exact ⟨table, node, rfl, hchild, hname, (readStateVariable_ne_nil glib hentry).1 hne⟩
    · rintro ⟨table', node, htable', hchild, hname, hdescribed⟩
      obtain rfl := Option.some.inj htable'
      have hmem := (childrenNamed_spec hnodes node).2 ⟨hchild, hname⟩
      obtain ⟨entry, hentry⟩ := exists_of_mapM hentries hmem
      exact ⟨node, hmem, entry, hentry, (readStateVariable_ne_nil glib hentry).2 hdescribed⟩

/-- A node gives the action it has the name of. -/
theorem mem_readAction {node : Node} {entry : List ActionInfo} (h : readAction node = some entry)
    (name : Str) :
    (∃ info ∈ entry, info.name = name) ↔
      getChildElementContent node "name".toList = some name := by
  unfold readAction at h
  cases hname : getChildElementContent node "name".toList with
  | none =>
    rw [hname] at h
    obtain rfl := Option.some.inj h
    simp
  | some found =>
    rw [hname] at h
    obtain ⟨arguments, -, rfl⟩ := Option.map_eq_some_iff.1 h
    simp

/-- The actions are those the document declares. -/
theorem mem_actions {scpd : Node} {infos : List ActionInfo}
    (h : readList getActions scpd "actionList".toList = some infos) (name : Str) :
    (∃ info ∈ infos, info.name = name) ↔ DeclaresAction scpd name := by
  unfold readList at h
  unfold DeclaresAction
  cases hlist : getElement scpd ["scpd".toList, "actionList".toList] with
  | none =>
    rw [hlist] at h
    obtain rfl := Option.some.inj h
    simp
  | some list =>
    rw [hlist] at h
    obtain ⟨nodes, hnodes, h⟩ := Option.bind_eq_some_iff.1 h
    obtain ⟨entries, hentries, rfl⟩ := Option.map_eq_some_iff.1 h
    constructor
    · rintro ⟨info, hinfo, hname⟩
      obtain ⟨node, hmem, entry, hentry, hinfo⟩ := (mem_flatten_mapM hentries info).1 hinfo
      obtain ⟨hchild, haction⟩ := (childrenNamed_spec hnodes node).1 hmem
      exact ⟨list, node, rfl, hchild, haction, (mem_readAction hentry name).1 ⟨info, hinfo, hname⟩⟩
    · rintro ⟨list', node, hlist', hchild, haction, hname⟩
      obtain rfl := Option.some.inj hlist'
      have hmem := (childrenNamed_spec hnodes node).2 ⟨hchild, haction⟩
      obtain ⟨entry, hentry⟩ := exists_of_mapM hentries hmem
      obtain ⟨info, hinfo, hname⟩ := (mem_readAction hentry name).2 hname
      exact ⟨info, (mem_flatten_mapM hentries info).2 ⟨node, hmem, entry, hentry, hinfo⟩, hname⟩

theorem new_actions {scpd : Node} (h : new glib scpd = some (.ok s)) :
    readList getActions scpd "actionList".toList = some s.actions := by
  unfold new at h
  obtain ⟨actions, hactions, h⟩ := Option.bind_eq_some_iff.1 h
  obtain ⟨infos, -, h⟩ := Option.bind_eq_some_iff.1 h
  split at h
  · exact absurd (Option.some.inj h) (by simp)
  · obtain rfl := Except.ok.inj (Option.some.inj h)
    exact hactions

/-- A new introspection has actions or variables, and no names yet. -/
theorem new_spec {scpd : Node} (h : new glib scpd = some (.ok s)) :
    readList (getStateVariables glib) scpd "serviceStateTable".toList = some s.stateVariables ∧
      (s.stateVariables = [] → s.actions ≠ []) ∧ Cached s := by
  unfold new at h
  obtain ⟨actions, -, h⟩ := Option.bind_eq_some_iff.1 h
  obtain ⟨infos, hinfos, h⟩ := Option.bind_eq_some_iff.1 h
  split at h
  · exact absurd (Option.some.inj h) (by simp)
  · rename_i hneither
    obtain rfl := Except.ok.inj (Option.some.inj h)
    exact ⟨hinfos, fun hnil hactions => hneither ⟨hactions, hnil⟩, .inl rfl, .inl rfl⟩

/-- An action is found where it is declared, if a state variable is described, too. -/
theorem getAction_isSome_iff {scpd : Node} (h : new glib scpd = some (.ok s)) (name : Str) :
    (s.getAction name).isSome ↔ DescribesVariable scpd ∧ DeclaresAction scpd name := by
  rw [← stateVariables_ne_nil glib (new_spec glib h).1, ← mem_actions (new_actions glib h)]
  unfold Introspection.getAction
  by_cases hnil : s.stateVariables = []
  · rw [if_pos hnil]
    exact ⟨fun hsome => absurd hsome (by decide), fun hboth => absurd hnil hboth.1⟩
  · rw [if_neg hnil, List.find?_isSome]
    simp only [decide_eq_true_eq]
    exact (and_iff_right hnil).symm

/-! ## The main result -/

/-- **The lookups agree with the lists exactly where the document describes a state variable**, after
any calls of the accessors. -/
theorem lookups_agree {scpd : Node} (hnew : new glib scpd = some (.ok s)) :
    (∀ accesses : List Access, ActionLookup (accesses.foldl Introspection.access s) ∧
      VariableLookup (accesses.foldl Introspection.access s)) ↔ DescribesVariable scpd := by
  obtain ⟨hlist, hneither, hcached⟩ := new_spec glib hnew
  rw [← stateVariables_ne_nil glib hlist]
  constructor
  · intro h hnil
    exact not_actionLookup hcached hnil (hneither hnil) (h []).1
  · intro hvariables accesses
    obtain ⟨hcached', -, hkeep⟩ := accesses_spec hcached accesses
    rw [← hkeep] at hvariables
    exact ⟨actionLookup hcached' hvariables, variableLookup hcached'⟩

/-- A document with an action and, where there is one, a state variable. -/
def playDocument (table : List Node) : Node :=
  let name : Node := .element "name".toList [] [.text "Play".toList]
  .document [.element "scpd".toList []
    (.element "actionList".toList [] [.element "action".toList [] [name]] :: table)]

theorem lookups_agree_play :
    ActionLookup ⟨[⟨"Volume".toList, false, .uint, .uint 0, some (uintRange 16), []⟩],
      [⟨"Play".toList, []⟩], ["Play".toList], []⟩ := by
  let variableNode : Node := .element "stateVariable".toList []
    [.element "name".toList [] [.text "Volume".toList],
      .element "dataType".toList [] [.text "ui2".toList]]
  let table : Node := .element "serviceStateTable".toList [] [variableNode]
  have hdescribes : DescribesVariable (playDocument [table]) :=
    ⟨table, variableNode, rfl, List.mem_singleton.2 rfl, rfl, rfl, rfl⟩
  have hnew : new GLib.plain (playDocument [table]) = some (.ok _) := rfl
  exact ((lookups_agree GLib.plain hnew).2 hdescribes [.listActionNames]).1

/-- An action of a document without state variables is listed, but not found. -/
theorem lookups_disagree_play :
    ∃ s, new GLib.plain (playDocument []) = some (.ok s) ∧
      "Play".toList ∈ s.listActionNames.2 ∧ s.getAction "Play".toList = none :=
  ⟨⟨[], [⟨"Play".toList, []⟩], [], []⟩, rfl, by decide, rfl⟩

/-! ## What actions see -/

/-- What the actions of a service proxy read of an introspection. -/
def Introspection.forActions (s : Introspection) : ServiceProxyAction.Introspection where
  stateVariables := s.stateVariables.map fun info => ⟨info.name, info.type⟩
  actions := s.actions.map fun info =>
    ⟨info.name, info.arguments.map fun arg => ⟨arg.name, arg.relatedStateVariable⟩⟩

theorem forActions_eq_nil (s : Introspection) :
    s.forActions.stateVariables = [] ↔ s.stateVariables = [] := List.map_eq_nil_iff

theorem forActions_getAction (s : Introspection) (name : Str) :
    s.forActions.getAction name = (s.getAction name).map fun info =>
      ⟨info.name, info.arguments.map fun arg => ⟨arg.name, arg.relatedStateVariable⟩⟩ := by
  unfold ServiceProxyAction.Introspection.getAction Introspection.getAction
  by_cases hnil : s.stateVariables = []
  · rw [if_pos hnil, if_pos ((forActions_eq_nil s).2 hnil)]
    rfl
  · rw [if_neg hnil, if_neg (mt (forActions_eq_nil s).1 hnil), Introspection.forActions,
      List.find?_map]
    rfl

theorem forActions_getStateVariable (s : Introspection) (name : Str) :
    s.forActions.getStateVariable name =
      (s.getStateVariable name).map fun info => ⟨info.name, info.type⟩ := by
  unfold ServiceProxyAction.Introspection.getStateVariable Introspection.getStateVariable
  by_cases hnil : s.stateVariables = []
  · rw [if_pos hnil, if_pos ((forActions_eq_nil s).2 hnil)]
    rfl
  · rw [if_neg hnil, if_neg (mt (forActions_eq_nil s).1 hnil), Introspection.forActions,
      List.find?_map]
    rfl

end GUPnP.ServiceIntrospection
