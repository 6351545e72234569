import GUPnP.ServiceProxyAction.Call

/-!
# What the results of an action depend on

`checkResponse` runs once: after it an action has an error or parameters, and a second run changes
nothing (`checkResponse_idem`). Every query starts with it, so it does not matter to the queries
whether it ran before (`ask_of_checkResponse`). What an iterator shows is a function of the children
of the parameter element and the types the introspection gives them (`readAll_iterate`).
-/

set_option autoImplicit false

namespace GUPnP.ServiceProxyAction

open Xml

variable {env : Env} {proxy : ServiceInfo} {action action' checked : Action} {glib : GLib}

/-! ## `checkResponse` -/

/-- What `checkResponse` leaves alone, and how it ends. -/
structure Checked (action checked : Action) : Prop where
  proxy : checked.proxy = action.proxy
  name : checked.name = action.name
  pending : checked.pending = action.pending
  done : checked.params.isSome ∨ checked.error.isSome

theorem checkResponse_checked (h : checkResponse env action = some checked) :
    Checked action checked := by
  unfold checkResponse at h
  split at h
  · rename_i hp
    obtain rfl := Option.some.inj h
    exact ⟨rfl, rfl, rfl, .inl hp⟩
  split at h
  · rename_i he
    obtain rfl := Option.some.inj h
    exact ⟨rfl, rfl, rfl, .inr he⟩
  split at h
  · rename_i msg data _ _
    split at h
    · obtain rfl := Option.some.inj h
      exact ⟨rfl, rfl, rfl, .inr rfl⟩
    dsimp only at h
    cases hx : env.xmlReadMemory data with
    | none =>
      rw [hx] at h
      dsimp only at h
      split at h <;> obtain rfl := Option.some.inj h <;> exact ⟨rfl, rfl, rfl, .inr rfl⟩
    | some response =>
      rw [hx] at h
      obtain ⟨found, -, h⟩ := Option.bind_eq_some_iff.1 h
      cases found with
      | none =>
        obtain rfl := Option.some.inj h
        exact ⟨rfl, rfl, rfl, .inr rfl⟩
      | some params =>
        dsimp only at h
        split at h <;> obtain rfl := Option.some.inj h
        · exact ⟨rfl, rfl, rfl, .inr rfl⟩
        · exact ⟨rfl, rfl, rfl, .inl rfl⟩
  · obtain rfl := Option.some.inj h
    exact ⟨rfl, rfl, rfl, .inr rfl⟩

theorem checkResponse_of_done (h : action.params.isSome ∨ action.error.isSome) :
    checkResponse env action = some action := by
  unfold checkResponse
  by_cases hp : action.params.isSome
  · rw [if_pos hp]
  · rw [if_neg hp, if_pos (h.resolve_left hp)]

theorem checkResponse_idem (h : checkResponse env action = some checked) :
    checkResponse env checked = some checked :=
  checkResponse_of_done (checkResponse_checked h).done

/-! ## Queries -/

theorem results_of_error {error : Error} (h : action.error = some error) :
    results env action = some (.error error, action) := by
  unfold results
  rw [h]

theorem results_of_params {params : Node} (he : action.error = none)
    (hp : action.params = some params) : results env action = some (.ok params, action) := by
  have hcheck : checkResponse env action = some action :=
    checkResponse_of_done (.inl (by rw [hp]; rfl))
  unfold results
  rw [he]
  simp only [hcheck, Option.bind_eq_bind, Option.bind_some, he, hp]

/-- An access to the results starts with `checkResponse`, whether it ran before or not. -/
theorem results_of_checkResponse (h : checkResponse env action = some checked) :
    results env action = results env checked := by
  cases he : action.error with
  | some error =>
    have hsame : checkResponse env action = some action :=
      checkResponse_of_done (.inr (by rw [he]; rfl))
    obtain rfl := Option.some.inj (h.symm.trans hsame)
    rfl
  | none =>
    unfold results
    rw [he]
    simp only [h, Option.bind_eq_bind, Option.bind_some]
    cases hc : checked.error with
    | some error => rfl
    | none =>
      dsimp only
      rw [checkResponse_idem h, Option.bind_some, hc]

theorem iterate_of_not_pending (h : action.pending = false) :
    iterate env action = (do
      let (params, action) ← results env action
      some ((params.mapError some).map fun _ =>
        ⟨action, [], action.proxy.bind (·.introspection), false⟩, action)) := by
  unfold iterate
  rw [h]
  rfl

theorem ask_of_checkResponse (h : checkResponse env action = some checked)
    (hp : action.pending = false) (query : Query) :
    Query.ask env query action = Query.ask env query checked := by
  have hr := results_of_checkResponse h
  have hp' : checked.pending = false := (checkResponse_checked h).pending.trans hp
  cases query with
  | list outArgs => simp only [Query.ask, getResultList, hr]
  | hash hash => simp only [Query.ask, getResultHash, hr]
  | iterator types => simp only [Query.ask, iterate_of_not_pending hp, iterate_of_not_pending hp', hr]

theorem askAll_of_checkResponse (h : checkResponse env action = some checked)
    (hp : action.pending = false) (queries : List Query) :
    askAll env queries action = askAll env queries checked := by
  cases queries with
  | nil => rfl
  | cons query queries => rw [askAll, askAll, ask_of_checkResponse h hp]

theorem ask_of_error {error : Error} (he : action.error = some error)
    (hp : action.pending = false) (query : Query) :
    Query.ask env query action = some (.failed (some error.kind), action) := by
  have hr : results env action = some (.error error, action) := results_of_error he
  cases query with
  | list outArgs => simp only [Query.ask, getResultList, hr]; rfl
  | hash hash => simp only [Query.ask, getResultHash, hr]; rfl
  | iterator types => simp only [Query.ask, iterate_of_not_pending hp, hr]; rfl

/-- An action with an error shows nothing but the kind of the error. -/
theorem askAll_of_error {error : Error} (he : action.error = some error)
    (hp : action.pending = false) (queries : List Query) :
    askAll env queries action = queries.map fun _ => some (.failed (some error.kind)) := by
  induction queries with
  | nil => rfl
  | cons query queries ih => rw [askAll, ask_of_error he hp, List.map_cons, ← ih]

/-! ## The iterator -/

/-- What an iterator shows of one node. -/
def reading (glib : GLib) (typeOf : Node → Option (Option GType)) (type : Option GType)
    (node : Node) : Option (Option GValue) :=
  match type with
  | none => (typeOf node).map (Option.map (Iter.valueAs glib node))
  | some type => some (some (Iter.valueAs glib node type))

/-- What an iterator shows of these nodes, with the types `typeOf` gives them. -/
def readings (glib : GLib) (typeOf : Node → Option (Option GType)) :
    List (Option GType) → List Node → Option (List (Option Str × Option GValue))
  | [], _ => some []
  | _ :: _, [] => some []
  | type :: types, node :: nodes => do
    let value ← reading glib typeOf type node
    let rest ← readings glib typeOf types nodes
    some ((node.name, value) :: rest)

/-- A step of the iterator to a node and what it shows there. -/
theorem readAll_step {iter : Iter} {node : Node} {nodes : List Node} {type : Option GType}
    {types : List (Option GType)}
    (hnext : iter.next = some (⟨iter.action, node :: nodes, iter.introspection, true⟩, true))
    (hrest : Iter.readAll glib types ⟨iter.action, node :: nodes, iter.introspection, true⟩ =
      readings glib (Iter.typeOf iter.introspection iter.action.name) types nodes) :
    Iter.readAll glib (type :: types) iter =
      readings glib (Iter.typeOf iter.introspection iter.action.name) (type :: types)
        (node :: nodes) := by
  rw [Iter.readAll, hnext, readings]
  simp only [Option.bind_eq_bind, Option.bind_some, Bool.not_true, Bool.false_eq_true, ↓reduceIte,
    hrest, List.head?_cons]
  cases type with
  | none =>
    simp only [Iter.getValue, List.head?_cons, Option.bind_eq_bind, Option.bind_some, reading]
    cases Iter.typeOf iter.introspection iter.action.name node <;> rfl
  | some type => rfl

theorem readAll_iterating {a : Action} {i : Option Introspection} (types : List (Option GType))
    (node : Node) (nodes : List Node) :
    Iter.readAll glib types ⟨a, node :: nodes, i, true⟩ =
      readings glib (Iter.typeOf i a.name) types nodes := by
  induction types generalizing node nodes with
  | nil => rfl
  | cons type types ih =>
    cases nodes with
    | nil => rfl
    | cons next nodes => exact readAll_step rfl (ih next nodes)

/-- A new iterator shows the children of the parameter element in their order. -/
theorem readAll_iterate (glib : GLib) {a : Action} (i : Option Introspection) {params : Node}
    (hp : a.params = some params) (types : List (Option GType)) :
    Iter.readAll glib types ⟨a, [], i, false⟩ =
      readings glib (Iter.typeOf i a.name) types params.children := by
  have hnext : (⟨a, [], i, false⟩ : Iter).next =
      some (⟨a, params.children, i, true⟩, !params.children.isEmpty) := by
    simp only [Iter.next, hp]
    rfl
  cases types with
  | nil => rfl
  | cons type types =>
    cases hc : params.children with
    | nil =>
      rw [Iter.readAll, hnext, hc]
      rfl
    | cons node nodes =>
      refine readAll_step ?_ (readAll_iterating types node nodes)
      rw [hnext, hc]
      rfl

section
variable {typeOf : Node → Option (Option GType)}

/-- The types an introspection may give all nodes without a caller seeing it. -/
theorem readings_congr {nodes : List Node} (h : ∀ node ∈ nodes, typeOf node = some (some .string))
    (types : List (Option GType)) :
    readings glib typeOf types nodes = readings glib (fun _ => some (some .string)) types nodes := by
  induction nodes generalizing types with
  | nil => cases types <;> rfl
  | cons node nodes ih =>
    cases types with
    | nil => rfl
    | cons type types =>
      have hnode : reading glib typeOf type node =
          reading glib (fun _ => some (some .string)) type node := by
        unfold reading
        rw [h node List.mem_cons_self]
      rw [readings, readings, hnode, ih fun n hn => h n (List.mem_cons_of_mem _ hn)]

theorem type_valueAs (glib : GLib) (node : Node) (type : GType) :
    (Iter.valueAs glib node type).type = type := by
  rw [Iter.valueAs, GValue.type_setValueFromXmlNode, GValue.type_init]

theorem readings_strings (glib : GLib) (nodes : List Node) :
    readings glib (fun _ => some (some .string)) (nodes.map fun _ => none) nodes =
      some (nodes.map fun node => (node.name, some (Iter.valueAs glib node .string))) := by
  induction nodes with
  | nil => rfl
  | cons node nodes ih =>
    rw [List.map_cons, readings, ih]
    rfl

/-- Reading every node by its own type tells the types apart from strings. -/
theorem string_of_readings (glib : GLib) {nodes : List Node}
    (h : readings glib typeOf (nodes.map fun _ => none) nodes =
      some (nodes.map fun node => (node.name, some (Iter.valueAs glib node .string)))) :
    ∀ node ∈ nodes, typeOf node = some (some .string) := by
  induction nodes with
  | nil => exact fun _ hn => by cases hn
  | cons node nodes ih =>
    rw [List.map_cons, readings] at h
    obtain ⟨value, hvalue, h⟩ := Option.bind_eq_some_iff.1 h
    obtain ⟨rest, hrest, h⟩ := Option.bind_eq_some_iff.1 h
    obtain ⟨hhead, rfl⟩ := List.cons.inj (Option.some.inj h)
    obtain rfl : value = some (Iter.valueAs glib node .string) := congrArg Prod.snd hhead
    obtain ⟨found, hfound, hmap⟩ := Option.map_eq_some_iff.1 hvalue
    obtain ⟨type, rfl, htype⟩ := Option.map_eq_some_iff.1 hmap
    have hstring : type = .string := by
      rw [← type_valueAs glib node type, htype, type_valueAs]
    intro n hn
    rcases List.mem_cons.1 hn with rfl | hn
    · rw [hfound, hstring]
    · exact ih hrest n hn

end

/-! ## With and without the introspection -/

/-- The proxy has no introspection, or it has every child of the parameter element as an argument of
type string. -/
def Untyped (proxy : ServiceInfo) (name : Str) (params : Node) : Prop :=
  ∀ introspection, proxy.introspection = some introspection →
    ∀ node ∈ params.children, Iter.typeOf (some introspection) name node = some (some .string)

/-- What a query shows of the parameter element, with the types `typeOf` gives its children. -/
def shown (env : Env) (typeOf : Node → Option (Option GType)) (params : Node) :
    Query → Option Results
  | .list outArgs => some (.list (outArgs.map fun arg =>
      readOutParameter env.toGLib arg.1 (GValue.init env.toGLib arg.2) params))
  | .hash hash => some (.hash (hash.mapValues fun name value =>
      readOutParameter env.toGLib name value params))
  | .iterator types => (readings env.toGLib typeOf types params.children).map .iterator

/-- An action that has succeeded. -/
structure Succeeded (introspection : Option Introspection) (name : Str) (params : Node)
    (action : Action) : Prop where
  introspection : action.proxy.bind ServiceInfo.introspection = introspection
  name : action.name = name
  pending : action.pending = false
  error : action.error = none
  params : action.params = some params

section
variable {introspection : Option Introspection} {name : Str} {params : Node}

theorem ask_of_succeeded (h : Succeeded introspection name params action) (query : Query) :
    Query.ask env query action =
      (shown env (Iter.typeOf introspection name) params query).map fun results =>
        (results, action) := by
  have hr : results env action = some (.ok params, action) := results_of_params h.error h.params
  cases query with
  | list outArgs => simp only [Query.ask, getResultList, hr]; rfl
  | hash hash => simp only [Query.ask, getResultHash, hr]; rfl
  | iterator types =>
    have hread := readAll_iterate env.toGLib introspection h.params types
    rw [h.name] at hread
    simp only [Query.ask, iterate_of_not_pending h.pending, hr, h.introspection, Option.bind_eq_bind,
      Option.bind_some]
    show (Iter.readAll _ types ⟨action, [], introspection, false⟩).bind _ = _
    rw [hread, shown]
    cases readings env.toGLib _ types params.children <;> rfl

/-- Two succeeded actions show the same as long as every query shows the same of their parameters. -/
theorem askAll_congr {introspection' : Option Introspection}
    (h : Succeeded introspection name params action)
    (h' : Succeeded introspection' name params action')
    (hshown : ∀ query, shown env (Iter.typeOf introspection name) params query =
      shown env (Iter.typeOf introspection' name) params query) (queries : List Query) :
    askAll env queries action = askAll env queries action' := by
  induction queries with
  | nil => rfl
  | cons query queries ih =>
    rw [askAll, askAll, ask_of_succeeded h, ask_of_succeeded h', ← hshown query]
    cases shown env (Iter.typeOf introspection name) params query with
    | none => rfl
    | some results => exact congrArg (some results :: ·) ih

/-- Without the introspection an action shows the same if and only if all arguments are strings. -/
theorem askAll_iff (env : Env) (h : Succeeded proxy.introspection name params action)
    (h' : Succeeded none name params action') :
    (∀ queries, askAll env queries action' = askAll env queries action) ↔
      Untyped proxy name params := by
  cases hi : proxy.introspection with
  | none =>
    rw [hi] at h
    constructor
    · intro _ i hi'
      cases hi.symm.trans hi'
    · intro _ queries
      exact askAll_congr h' h (fun _ => rfl) queries
  | some introspection =>
    rw [hi] at h
    constructor
    · intro hsame i hi'
      obtain rfl := Option.some.inj (hi.symm.trans hi')
      have hask := hsame [.iterator (params.children.map fun _ => none)]
      rw [askAll, askAll, ask_of_succeeded h, ask_of_succeeded h', shown, shown] at hask
      have hstrings := readings_strings env.toGLib params.children
      change readings _ (Iter.typeOf none name) _ _ = _ at hstrings
      rw [hstrings] at hask
      apply string_of_readings env.toGLib
      cases hr : readings env.toGLib (Iter.typeOf (some introspection) name)
        (params.children.map fun _ => none) params.children with
      | none => rw [hr] at hask; cases hask
      | some shownTyped =>
        rw [hr] at hask
        injection hask with hask
        injection hask with hask
        injection hask with hask
        rw [hask]
    · intro huntyped queries
      refine askAll_congr h' h (fun query => ?_) queries
      cases query with
      | list outArgs => rfl
      | hash hash => rfl
      | iterator types =>
        rw [shown, shown, readings_congr (huntyped introspection hi)]
        rfl

end

end GUPnP.ServiceProxyAction
