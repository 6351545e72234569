import GUPnP.ServiceIntrospection.Lookup
import GUPnP.ServiceProxyAction.Proof.Results

/-!
# Iterating over the results of an action

`next` walks over the children of the parameter element (`advance_of_next`). These are its out
arguments as long as nothing else stands between them, and `next` may be called once after the last
one (`calls_eq_iff`): it does not skip text and comments, and it does not remember that it has come to
the end.

`getValue` looks for the action in the introspection and does not check that it found it, so it is
safe with a description that has the action and a state variable, and only with such
(`getValue_safe_iff`).
-/

set_option autoImplicit false

namespace GUPnP.ServiceProxyAction

open Xml

variable {env : Env} {action action' : Action} {iter : Iter} {params : Node}

/-! ## Positions -/

namespace Iter

/-- The iterator after `n` calls of `next` that all returned `TRUE`. -/
def advance : Nat → Iter → Option Iter
  | 0, iter => some iter
  | n + 1, iter => do
    let (iter, available) ← iter.next
    if available then advance n iter else none

/-- What `n` calls of `next` show, together with `getName` where they return `TRUE`. -/
def calls : Nat → Iter → Option (List (Option (Option Str)))
  | 0, _ => some []
  | n + 1, iter => do
    let (iter, available) ← iter.next
    let rest ← calls n iter
    some ((if available then some iter.getName else none) :: rest)

end Iter

/-- Results are read from the parameter element of the checked action. -/
theorem results_ok (h : results env action = some (.ok params, action')) :
    action'.params = some params ∧ action'.proxy = action.proxy ∧ action'.name = action.name := by
  cases he : action.error with
  | some error =>
    rw [results_of_error he] at h
    cases h
  | none =>
    unfold results at h
    rw [he] at h
    obtain ⟨checked, hcheck, h⟩ := Option.bind_eq_some_iff.1 h
    have hchecked := checkResponse_checked hcheck
    cases hc : checked.error with
    | some error =>
      rw [hc] at h
      cases h
    | none =>
      rw [hc] at h
      obtain ⟨found, hfound, h⟩ := Option.bind_eq_some_iff.1 h
      cases h
      exact ⟨hfound, hchecked.proxy, hchecked.name⟩

/-- A new iterator is before the children of the parameter element. -/
theorem iterate_spec (h : iterate env action = some (.ok iter, action')) :
    iter = ⟨action', [], action.proxy.bind ServiceInfo.introspection, false⟩ ∧
      action'.name = action.name ∧ ∃ params, action'.params = some params := by
  unfold iterate at h
  split at h
  · cases h
  obtain ⟨⟨found, checked⟩, hresults, h⟩ := Option.bind_eq_some_iff.1 h
  cases found with
  | error error => cases h
  | ok params =>
    cases h
    obtain ⟨hparams, hproxy, hname⟩ := results_ok hresults
    exact ⟨by rw [hproxy], hname, params, hparams⟩

section
variable {i : Option Introspection}

theorem next_new (hparams : action.params = some params) :
    (⟨action, [], i, false⟩ : Iter).next =
      some (⟨action, params.children, i, true⟩, !params.children.isEmpty) := by
  simp only [Iter.next, hparams]
  rfl

/-- Calls that all return `TRUE` go forward by one node each. -/
theorem advance_of_next {nodes : List Node} (n : Nat)
    (hnext : iter.next = some (⟨action, nodes, i, true⟩, !nodes.isEmpty)) :
    iter.advance (n + 1) =
      if n < nodes.length then some ⟨action, nodes.drop n, i, true⟩ else none := by
  induction n generalizing iter nodes with
  | zero =>
    rw [Iter.advance, hnext]
    cases nodes <;> rfl
  | succ n ih =>
    rw [Iter.advance, hnext]
    cases nodes with
    | nil => rfl
    | cons node nodes =>
      show Iter.advance (n + 1) ⟨action, node :: nodes, i, true⟩ = _
      rw [ih rfl, List.length_cons, List.drop_succ_cons]
      simp only [Nat.add_lt_add_iff_right]

end

/-! ## Calls -/

/-- What `n` calls of an iterator over these nodes are to show. -/
def enumeration (nodes : List Node) (n : Nat) : List (Option (Option Str)) :=
  (List.range n).map fun k => nodes[k]?.map Node.name

/-- The out arguments. -/
def outArguments (params : Node) : List Node := params.children.filter Node.isElement

/-- `n` calls show the out arguments in their order, and then that there are no more. -/
def Enumerates (iter : Iter) (params : Node) (n : Nat) : Prop :=
  iter.calls n = some (enumeration (outArguments params) n)

/-- As far as `n` calls go, the children have the names of the out arguments in their order. -/
def InStep (params : Node) (n : Nat) : Prop :=
  (params.children.take n).map Node.name = ((outArguments params).take n).map Node.name

theorem enumeration_cons (node : Node) (nodes : List Node) (n : Nat) :
    enumeration (node :: nodes) (n + 1) = some node.name :: enumeration nodes n := by
  rw [enumeration, List.range_succ_eq_map, List.map_cons, List.map_map]
  rfl

/-- Two enumerations are the same as far as the names are. -/
theorem enumeration_inj (xs ys : List Node) (n : Nat) :
    enumeration xs n = enumeration ys n ↔
      (xs.take n).map Node.name = (ys.take n).map Node.name := by
  constructor
  · intro h
    refine List.ext_getElem? fun k => ?_
    rw [List.getElem?_map, List.getElem?_map, List.getElem?_take, List.getElem?_take]
    by_cases hk : k < n
    · rw [if_pos hk, if_pos hk]
      have hat := congrArg (·[k]?) h
      simpa only [enumeration, List.getElem?_map, List.getElem?_range hk, Option.map_some,
        Option.some.injEq] using hat
    · rw [if_neg hk, if_neg hk]
  · intro h
    refine List.map_congr_left fun k hk => ?_
    have hat := congrArg (·[k]?) h
    simpa only [List.getElem?_map, List.getElem?_take, if_pos (List.mem_range.1 hk)] using hat

section
variable {i : Option Introspection}

/-- The calls show the nodes to their end, and fail after it. -/
theorem calls_of_next {nodes : List Node} (n : Nat)
    (hnext : iter.next = some (⟨action, nodes, i, true⟩, !nodes.isEmpty)) :
    iter.calls n = if n ≤ nodes.length + 1 then some (enumeration nodes n) else none := by
  induction n generalizing iter nodes with
  | zero => rfl
  | succ n ih =>
    rw [Iter.calls, hnext]
    cases nodes with
    | nil =>
      -- the next call would look behind the end
      cases n with
      | zero => rfl
      | succ n => rfl
    | cons node nodes =>
      show (Iter.calls n ⟨action, node :: nodes, i, true⟩).bind _ = _
      rw [ih rfl, enumeration_cons, List.length_cons]
      simp only [Nat.add_le_add_iff_right]
      by_cases hn : n ≤ nodes.length + 1
      · rw [if_pos hn, if_pos hn]
        rfl
      · rw [if_neg hn, if_neg hn]
        rfl

end

/-- The names that a loop reads which calls `next` until it returns `FALSE` are those of the out
arguments exactly where there is nothing but out arguments. -/
theorem inStep_end (params : Node) :
    InStep params (params.children.length + 1) ↔ ∀ node ∈ params.children, node.isElement := by
  have hlength : (outArguments params).length ≤ params.children.length := List.length_filter_le ..
  unfold InStep
  rw [List.take_of_length_le (by omega), List.take_of_length_le (by omega)]
  constructor
  · intro h
    have heq := congrArg List.length h
    rw [List.length_map, List.length_map] at heq
    exact List.length_filter_eq_length_iff.1 heq.symm
  · intro h
    rw [outArguments, List.filter_eq_self.2 h]

/-- **The calls show the out arguments exactly as far as nothing stands between these**, and as long as
there are not two more calls than nodes. -/
theorem calls_eq_iff (hiter : iterate env action = some (.ok iter, action'))
    (hparams : action'.params = some params) (n : Nat) :
    Enumerates iter params n ↔ n ≤ params.children.length + 1 ∧ InStep params n := by
  obtain ⟨rfl, -, -⟩ := iterate_spec hiter
  unfold Enumerates
  rw [calls_of_next n (next_new hparams)]
  by_cases hn : n ≤ params.children.length + 1
  · rw [if_pos hn, Option.some.injEq, enumeration_inj]
    exact (and_iff_right hn).symm
  · rw [if_neg hn]
    refine ⟨fun h => ?_, fun h => absurd h.1 hn⟩
    cases h

/-- The document of a response to `GetVolume` with this content. -/
def responseDocument (children : List Node) : Node :=
  .document [.element "Envelope".toList [] [.element "Body".toList []
    [.element "GetVolumeResponse".toList [] children]]]

/-- An environment in which every response is that document. -/
def responseEnv (children : List Node) : Env where
  toGLib := .plain
  xmlReadMemory := fun _ => some (responseDocument children)
  acceptLanguage := none

/-- A call of `GetVolume` that is completed, of a proxy with this introspection. -/
def completedCall (introspection : Option Introspection) : Action :=
  { newPlain "GetVolume".toList with
    proxy := some ⟨none, none, introspection⟩
    msg := some ⟨"POST".toList, [], [], [], 200, "OK".toList⟩
    response := some [] }

/-- The volume as an out argument. -/
def currentVolume : Node := .element "CurrentVolume".toList [] [.text ['5']]

theorem calls_eq_iff_single :
    ∃ iter action' params, iterate (responseEnv [currentVolume]) (completedCall none) =
        some (.ok iter, action') ∧ action'.params = some params ∧
      (Enumerates iter params 2 ↔ 2 ≤ params.children.length + 1 ∧ InStep params 2) := by
  have hiter : iterate (responseEnv [currentVolume]) (completedCall none) =
    some (.ok _, _) := rfl
  exact ⟨_, _, _, hiter, rfl, calls_eq_iff hiter rfl 2⟩

/-- A line break before the argument is shown as an argument, and a second call after the argument
fails. -/
theorem calls_go_astray :
    (∃ iter action' params,
      iterate (responseEnv [.text ['\n'], currentVolume]) (completedCall none) =
          some (.ok iter, action') ∧ action'.params = some params ∧
        iter.calls 1 = some [some (some "text".toList)] ∧ ¬ Enumerates iter params 1) ∧
    ∃ iter action' params,
      iterate (responseEnv [currentVolume]) (completedCall none) = some (.ok iter, action') ∧
        action'.params = some params ∧ iter.calls 3 = none ∧ ¬ Enumerates iter params 3 := by
  refine ⟨⟨_, _, _, rfl, rfl, rfl, ?_⟩, _, _, _, rfl, rfl, rfl, ?_⟩
  · unfold Enumerates
    decide
  · unfold Enumerates
    decide

/-! ## Values -/

section
variable {s : ServiceIntrospection.Introspection} {scpd : Node}

/-- The type the introspection has for an argument of an action. -/
def Introspected (s : ServiceIntrospection.Introspection) (actionName : Str) (node : Node)
    (type : GType) : Prop :=
  ∃ info argName arg variableInfo, s.getAction actionName = some info ∧ node.name = some argName ∧
    ServiceIntrospection.IsFirst ServiceIntrospection.ActionArgInfo.name argName info.arguments arg ∧
    s.getStateVariable arg.relatedStateVariable = some variableInfo ∧ variableInfo.type = type

/-- `getValue` returns, and what it returns is of the introspected type. -/
def SafeValue (glib : GLib) (s : ServiceIntrospection.Introspection) (iter : Iter) : Prop :=
  ∃ value, iter.getValue glib = some value ∧
    ∀ v ∈ value, ∃ node, iter.current.head? = some node ∧
      Introspected s iter.action.name node v.type

theorem findArgument_forActions {info : ServiceIntrospection.ActionInfo} {node : Node}
    {arg : ActionArgInfo}
    (h : Iter.findArgument ⟨info.name, info.arguments.map fun arg =>
      ⟨arg.name, arg.relatedStateVariable⟩⟩ node.name = some arg) :
    ∃ argName found, node.name = some argName ∧
      ServiceIntrospection.IsFirst ServiceIntrospection.ActionArgInfo.name argName info.arguments
        found ∧ found.relatedStateVariable = arg.relatedStateVariable := by
  unfold Iter.findArgument at h
  rw [List.find?_map] at h
  obtain ⟨found, hfound, rfl⟩ := Option.map_eq_some_iff.1 h
  have hname : some found.name = node.name := by simpa using List.find?_some hfound
  refine ⟨found.name, found, hname.symm, ServiceIntrospection.isFirst_of_find ?_, rfl⟩
  rw [← hfound, ← hname]
  congr 1
  funext arg
  simp only [Function.comp_apply, Option.some.injEq]

/-- The type of a node is the introspected one. -/
theorem introspected_of_typeOf {actionName : Str} {node : Node} {type : GType}
    (h : Iter.typeOf (some s.forActions) actionName node = some (some type)) :
    Introspected s actionName node type := by
  unfold Iter.typeOf at h
  obtain ⟨actionInfo, haction, h⟩ := Option.bind_eq_some_iff.1 h
  rw [ServiceIntrospection.forActions_getAction] at haction
  obtain ⟨info, hinfo, rfl⟩ := Option.map_eq_some_iff.1 haction
  obtain ⟨arg, harg, h⟩ := Option.bind_eq_some_iff.1 (Option.some.inj h)
  obtain ⟨variableInfo', hvariable, rfl⟩ := Option.map_eq_some_iff.1 h
  rw [ServiceIntrospection.forActions_getStateVariable] at hvariable
  obtain ⟨variableInfo, hfound, rfl⟩ := Option.map_eq_some_iff.1 hvariable
  obtain ⟨argName, first, hname, hfirst, hrelated⟩ := findArgument_forActions harg
  exact ⟨info, argName, first, variableInfo, hinfo, hname, hfirst, by rw [hrelated]; exact hfound, rfl⟩

/-- The chain of the lookups fails where the first one finds nothing. -/
theorem typeOf_isSome (s : ServiceIntrospection.Introspection) (actionName : Str) (node : Node) :
    (Iter.typeOf (some s.forActions) actionName node).isSome ↔ (s.getAction actionName).isSome := by
  unfold Iter.typeOf
  dsimp only
  rw [ServiceIntrospection.forActions_getAction]
  cases s.getAction actionName <;> rfl

/-- A value is safe where the introspection has the action. -/
theorem safeValue_iff (glib : GLib) (s : ServiceIntrospection.Introspection) (node : Node)
    (nodes : List Node) :
    SafeValue glib s ⟨action, node :: nodes, some s.forActions, true⟩ ↔
      (s.getAction action.name).isSome := by
  rw [← typeOf_isSome s action.name node, SafeValue]
  have hget : Iter.getValue glib ⟨action, node :: nodes, some s.forActions, true⟩ =
      (Iter.typeOf (some s.forActions) action.name node).map
        (Option.map (Iter.valueAs glib node)) := by
    simp only [Iter.getValue, List.head?_cons, Option.bind_eq_bind, Option.bind_some]
    cases Iter.typeOf (some s.forActions) action.name node <;> rfl
  rw [hget]
  constructor
  · rintro ⟨value, hvalue, -⟩
    obtain ⟨type, htype, -⟩ := Option.map_eq_some_iff.1 hvalue
    rw [htype]
    rfl
  · intro hsome
    obtain ⟨type, htype⟩ := Option.isSome_iff_exists.1 hsome
    refine ⟨type.map (Iter.valueAs glib node), by rw [htype]; rfl, fun v hv => ?_⟩
    obtain ⟨found, rfl, rfl⟩ := Option.map_eq_some_iff.1 hv
    refine ⟨node, rfl, ?_⟩
    rw [type_valueAs]
    exact introspected_of_typeOf htype

/-- **`getValue` is safe at every position exactly if the description has the action**, and a state
variable, without which the introspection finds no action. -/
theorem getValue_safe_iff {position : Iter} {n : Nat}
    (hnew : ServiceIntrospection.new env.toGLib scpd = some (.ok s))
    (hproxy : action.proxy.bind ServiceInfo.introspection = some s.forActions)
    (hiter : iterate env action = some (.ok iter, action'))
    (hposition : iter.advance (n + 1) = some position) :
    SafeValue env.toGLib s position ↔
      ServiceIntrospection.DescribesVariable scpd ∧
        ServiceIntrospection.DeclaresAction scpd action.name := by
  obtain ⟨rfl, hname, params, hparams⟩ := iterate_spec hiter
  rw [advance_of_next n (next_new hparams)] at hposition
  by_cases hn : n < params.children.length
  · rw [if_pos hn, List.drop_eq_getElem_cons hn, hproxy] at hposition
    obtain rfl := Option.some.inj hposition
    rw [safeValue_iff, hname, ServiceIntrospection.getAction_isSome_iff env.toGLib hnew]
  · rw [if_neg hn] at hposition
    cases hposition

end

/-- A service description with this action, whose result is the volume. -/
def volumeDescription (actionName : Str) (table : List Node) : Node :=
  let leaf (name content : Str) : Node := .element name [] [.text content]
  let argument : Node := .element "argument".toList []
    [leaf "name".toList "CurrentVolume".toList, leaf "direction".toList "out".toList,
      leaf "relatedStateVariable".toList "Volume".toList]
  .document [.element "scpd".toList [] (.element "actionList".toList []
    [.element "action".toList [] [leaf "name".toList actionName,
      .element "argumentList".toList [] [argument]]] :: table)]

/-- The volume as a state variable. -/
def volumeTable : Node :=
  .element "serviceStateTable".toList [] [.element "stateVariable".toList []
    [.element "name".toList [] [.text "Volume".toList],
      .element "dataType".toList [] [.text "ui2".toList]]]

theorem getValue_safe_iff_volume :
    ∃ s iter action' position,
      ServiceIntrospection.new GLib.plain (volumeDescription "GetVolume".toList [volumeTable]) =
          some (.ok s) ∧
        iterate (responseEnv [currentVolume]) (completedCall (some s.forActions)) =
          some (.ok iter, action') ∧ iter.advance 1 = some position ∧
        (SafeValue GLib.plain s position ↔
          ServiceIntrospection.DescribesVariable
              (volumeDescription "GetVolume".toList [volumeTable]) ∧
            ServiceIntrospection.DeclaresAction
              (volumeDescription "GetVolume".toList [volumeTable]) "GetVolume".toList) := by
  obtain ⟨s, hnew⟩ : ∃ s, ServiceIntrospection.new (responseEnv [currentVolume]).toGLib
    (volumeDescription "GetVolume".toList [volumeTable]) = some (.ok s) := ⟨_, rfl⟩
  have hiter : iterate (responseEnv [currentVolume]) (completedCall (some s.forActions)) =
    some (.ok _, _) := rfl
  exact ⟨s, _, _, _, hnew, hiter, rfl, getValue_safe_iff (n := 0) hnew rfl hiter rfl⟩

/-- With this description the value of the first result of `GetVolume` is read through `NULL`. -/
def ReadsNull (scpd : Node) : Prop :=
  ∃ s iter action' position, ServiceIntrospection.new GLib.plain scpd = some (.ok s) ∧
    iterate (responseEnv [currentVolume]) (completedCall (some s.forActions)) =
      some (.ok iter, action') ∧ iter.advance 1 = some position ∧
    position.getValue GLib.plain = none ∧ ¬ SafeValue GLib.plain s position

/-- It is with a description that has no state variables, and with one that does not have the action. -/
theorem getValue_fails :
    ReadsNull (volumeDescription "GetVolume".toList []) ∧
      ReadsNull (volumeDescription "SetVolume".toList [volumeTable]) := by
  constructor
  · refine ⟨_, _, _, _, rfl, rfl, rfl, rfl, ?_⟩
    rintro ⟨value, hvalue, -⟩
    cases hvalue
  · refine ⟨_, _, _, _, rfl, rfl, rfl, rfl, ?_⟩
    rintro ⟨value, hvalue, -⟩
    cases hvalue

end GUPnP.ServiceProxyAction
