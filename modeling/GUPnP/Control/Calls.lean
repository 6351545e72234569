import GUPnP.Control.Results
import GUPnP.Control.Server

/-!
# Calls of actions, from the control point to the implementation and back

An application implements actions as functions from the values of the arguments to an outcome
(`Application`). `call_returns_outcome`: where a proxy calls an action, synchronously or not, the
message goes to the handler of the control URL, the handler invokes the implementation with the
arguments of the call, and the call returns what the implementation made of them. An action that is not
implemented and a variable that does not exist are errors of their own.
-/

set_option autoImplicit false

namespace GUPnP.Control

open Xml Markup ServiceProxyAction Service

/-! ## Applications -/

/-- How an implementation ends an action: with a success after some results, or with an error between
results. -/
inductive Outcome where
  | success (calls : List ResultCall)
  | failure (before after : List ResultCall) (errorCode : UInt32) (description : Str)

/-- An implementation of an action: the arguments it reads with their types, and what it makes of
their values. -/
structure Implementation where
  inputs : List (Str × GType)
  body : List GValue → Outcome

/-- The implementations of an application, and the values of its state variables. -/
structure Application where
  implementation : Str → Option Implementation
  stateVariable : Str → Option GValue

section
variable (server : ControlServer)

def Outcome.end (outcome : Outcome) (action : ActionResponse) : Option ActionResponse :=
  match outcome with
  | success calls => succeed server.toGLib server.gzip server.serverId calls action
  | failure before after errorCode description =>
    fail server.toGLib server.gzip server.serverId before after errorCode (some description) action

/-- The value of an argument, as an implementation reads it. -/
def readInput (action : ActionResponse) (input : Str × GType) : Option GValue :=
  (action.toServiceAction.getValue server.toGLib input.1
    (GValue.init server.toGLib input.2)).map Prod.fst

/-- An implementation as a handler of `action-invoked`. -/
def Implementation.invoke (implementation : Implementation) (action : ActionResponse) :
    Option ActionResponse := do
  let values ← implementation.inputs.mapM (readInput server action)
  (implementation.body values).end server action

/-- The handlers an application connects, each for its action. -/
def Application.handlers (application : Application) : SignalHandlers where
  hasClassHandler := false
  hasHandlerPending name := (application.implementation name).isSome
  actionInvoked action :=
    match application.implementation action.name with
    | none => some action
    | some implementation => implementation.invoke server action
  queryVariable := application.stateVariable

/-- The response of the service to the message of a call, whose other headers the session adds. -/
def serviceResponse (env : Env) (handlers : SignalHandlers) (proxy : ServiceInfo)
    (headers : List (Str × Str)) (http10 : Bool) (action : Action) : Option Response := do
  let msg ← (prepareActionMsg env proxy "POST".toList action).1.msg
  let handled ← controlServerHandler server handlers
    ⟨msg.method, http10, headers ++ msg.requestHeaders, msg.requestBody⟩
  let answer ← handled.answer
  some (.received answer.status answer.reasonPhrase false (answer.decoded server.gzip))

end

/-! ## What a call should return -/

/-- An outcome after another result. -/
def Outcome.after (call : ResultCall) : Outcome → Outcome
  | success calls => success (call :: calls)
  | failure before after errorCode description =>
    failure (call :: before) after errorCode description

/-- The values of these variables, unless one of them does not exist. -/
def queryOutcome (stateVariable : Str → Option GValue) : List Str → Outcome
  | [] => .success []
  | varName :: rest =>
    match stateVariable varName with
    | none => .failure [] [] 402 "Invalid Args".toList
    | some value => (queryOutcome stateVariable rest).after (.setValue varName value)

/-- The variables that a query asks for. -/
def queriedNames (args : List ActionArgument) : List Str :=
  (args.filter (·.name = "varName".toList)).map (·.value.text)

/-- The value of an argument by its name, or the initial value of its type. -/
def argumentValue (glib : GLib) (args : List ActionArgument) (input : Str × GType) : GValue :=
  match args.find? (·.name = input.1) with
  | some arg => arg.value
  | none => GValue.init glib input.2

/-- What the application makes of a call with these arguments. -/
def Application.outcome (glib : GLib) (application : Application) (name : Str)
    (args : List ActionArgument) : Outcome :=
  if name = "QueryStateVariable".toList then
    queryOutcome application.stateVariable (queriedNames args)
  else
    match application.implementation name with
    | none => .failure [] [] 401 "Invalid Action".toList
    | some implementation => implementation.body (implementation.inputs.map (argumentValue glib args))

/-- The arguments an application reads have the types they are called with. -/
def Application.Reads (application : Application) (name : Str) (args : List ActionArgument) : Prop :=
  ∀ implementation, application.implementation name = some implementation →
    ∀ input ∈ implementation.inputs, ∀ arg ∈ args, arg.name = input.1 → arg.value.type = input.2

/-- An outcome that can be written: results with names of their own, or an error code that is an
`int`. -/
def Outcome.Ok : Outcome → Prop
  | success calls => (∀ result ∈ allResults calls, IsName result.name ∧ result.value.Carried) ∧
      ((allResults calls).map ActionArgument.name).Nodup
  | failure _ _ errorCode description =>
      errorCode.toNat < 2 ^ 31 ∧ (GValue.string (some description)).Carried

/-- An action shows the results of an outcome, or the error. -/
def Shown (env : Env) (outcome : Outcome) (action : Action) : Prop :=
  match outcome with
  | .success calls => ResultsShown env (allResults calls) action
  | .failure _ _ errorCode description =>
    ErrorShown env ⟨.control, errorCode.toNat, description⟩ action

/-- A call has returned with an outcome: without an error, or with the error. -/
def Returns (env : Env) (outcome : Outcome) (call : Call) : Prop :=
  ∃ error final, call = .returned error final ∧ Shown env outcome final ∧
    error.map Error.kind =
      match outcome with
      | .success _ => none
      | .failure _ _ errorCode _ => some (ErrorDomain.control, (errorCode.toNat : Int))

variable {env : Env} {server : ControlServer} {application : Application} {proxy : ServiceInfo}
  {action : Action} {args : List ActionArgument} {name serviceType : Str} {outcome : Outcome}

/-! ## The message at the handler -/

theorem splitSoapAction_spec (name : Str) (h : '#' ∉ serviceType) :
    splitSoapAction (['"'] ++ serviceType ++ ['#'] ++ name ++ ['"']) = some (serviceType, name) := by
  have hbefore : ∀ c ∈ '"' :: serviceType, (decide (c ≠ '#')) = true := by
    intro c hc
    refine decide_eq_true ?_
    rintro rfl
    rcases List.mem_cons.1 hc with hc | hc
    · exact absurd hc (by decide)
    · exact h hc
  have hsplit : ['"'] ++ serviceType ++ ['#'] ++ name ++ ['"'] =
      ('"' :: serviceType) ++ '#' :: (name ++ ['"']) := by
    simp only [List.append_assoc, List.cons_append, List.nil_append]
  have hlast : beforeLast '"' (name ++ ['"']) = name := by
    rw [beforeLast, List.reverse_append]
    simp only [List.reverse_cons, List.reverse_nil, List.nil_append, List.cons_append,
      ne_eq, not_true_eq_false, decide_false, Bool.false_eq_true, not_false_eq_true,
      List.dropWhile_cons_of_neg, List.reverse_reverse]
  rw [hsplit, splitSoapAction, List.dropWhile_append_of_pos hbefore,
    List.takeWhile_append_of_pos hbefore]
  simp only [ne_eq, not_true_eq_false, decide_false, Bool.false_eq_true, not_false_eq_true,
    List.dropWhile_cons_of_neg, List.takeWhile_cons_of_neg, List.append_nil, List.head?_cons,
    ↓reduceIte, List.tail_cons, hlast]

/-- The last header of a name is found behind others. -/
theorem headersGetOne_append (name : Str) (headers rest : List (Str × Str)) :
    headersGetOne name (headers ++ rest) =
      (headersGetOne name rest).or (headersGetOne name headers) := by
  rw [headersGetOne, List.reverse_append, List.find?_append, Option.map_or]
  rfl

theorem headersGetOne_cons_of_same {header : Str × Str} {name : Str}
    (h : sameHeader header.1 name = true) (rest : List (Str × Str)) :
    headersGetOne name (header :: rest) = (headersGetOne name rest).or (some header.2) := by
  have happend := headersGetOne_append name [header] rest
  rwa [headersGetOne.eq_1 name [header], List.reverse_singleton, List.find?_cons, h] at happend

theorem headersGetOne_eq_none {name : Str} {headers : List (Str × Str)}
    (h : ∀ header ∈ headers, sameHeader header.1 name = false) :
    headersGetOne name headers = none := by
  have hnone : headers.reverse.find? (fun header => sameHeader header.1 name) = none := by
    refine List.find?_eq_none.2 fun header hmem => ?_
    rw [h header (List.mem_reverse.1 hmem)]
    exact Bool.false_ne_true
  rw [headersGetOne, hnone]
  rfl

/-- What a message has behind its `SOAPAction` header. -/
def otherHeaders (env : Env) : List (Str × Str) :=
  (env.acceptLanguage.toList.map fun language => ("Accept-Language".toList, language)) ++
    [("Accept-Encoding".toList, "gzip".toList),
      ("Content-Type".toList, "text/xml; charset=\"utf-8\"".toList)]

theorem requestHeaders_post (env : Env) (serviceType : Str) (action : Action) :
    requestHeaders env serviceType action "POST".toList =
      ("SOAPAction".toList, ['"'] ++ serviceType ++ ['#'] ++ action.name ++ ['"']) ::
        otherHeaders env := by
  unfold requestHeaders otherHeaders
  dsimp only
  rw [if_pos rfl]
  rfl

theorem headersGetOne_otherHeaders (env : Env) {name : Str}
    (hlanguage : sameHeader "Accept-Language".toList name = false)
    (hencoding : sameHeader "Accept-Encoding".toList name = false)
    (htype : sameHeader "Content-Type".toList name = false) :
    headersGetOne name (otherHeaders env) = none := by
  have hfixed : headersGetOne name [("Accept-Encoding".toList, "gzip".toList),
      ("Content-Type".toList, "text/xml; charset=\"utf-8\"".toList)] = none := by
    refine headersGetOne_eq_none fun header hmem => ?_
    rcases List.mem_cons.1 hmem with rfl | hmem
    · exact hencoding
    · obtain rfl := List.mem_singleton.1 hmem
      exact htype
  rw [otherHeaders, headersGetOne_append, hfixed, Option.none_or]
  refine headersGetOne_eq_none fun header hmem => ?_
  obtain ⟨language, -, rfl⟩ := List.mem_map.1 hmem
  exact hlanguage

/-- The headers of a message do not hide those that the session adds. -/
theorem headersGetOne_request (env : Env) (serviceType : Str) (action : Action)
    (headers : List (Str × Str)) :
    headersGetOne "SOAPAction".toList (headers ++ requestHeaders env serviceType action
        "POST".toList) = some (['"'] ++ serviceType ++ ['#'] ++ action.name ++ ['"']) ∧
      headersGetOne "Host".toList (headers ++ requestHeaders env serviceType action
        "POST".toList) = headersGetOne "Host".toList headers := by
  have hsoap : headersGetOne "SOAPAction".toList (otherHeaders env) = none :=
    headersGetOne_otherHeaders env (by decide) (by decide) (by decide)
  have hhost : headersGetOne "Host".toList (otherHeaders env) = none :=
    headersGetOne_otherHeaders env (by decide) (by decide) (by decide)
  have hdiffer : sameHeader "SOAPAction".toList "Host".toList = false := by decide
  have hself : sameHeader "SOAPAction".toList "SOAPAction".toList = true := by decide
  have hother : headersGetOne "Host".toList
      (("SOAPAction".toList, ['"'] ++ serviceType ++ ['#'] ++ action.name ++ ['"']) ::
        otherHeaders env) = none := by
    rw [← List.singleton_append, headersGetOne_append, hhost, Option.none_or]
    refine headersGetOne_eq_none fun header hmem => ?_
    obtain rfl := List.mem_singleton.1 hmem
    exact hdiffer
  rw [requestHeaders_post, headersGetOne_append, headersGetOne_append, hother,
    headersGetOne_cons_of_same hself, hsoap]
  exact ⟨rfl, rfl⟩

/-! ## The action at the handler -/

/-- The handler starts the action of a message with its arguments. -/
theorem startAction_request (env : Env) {body : Str} (http10 : Bool)
    {headers : List (Str × Str)} (hhash : '#' ∉ serviceType)
    (hhost : server.validateHostHeader (headersGetOne "Host".toList headers) = true)
    (hbody : body ≠ []) (hread : server.xmlReadMemory body = some (requestDocument action.name args)) :
    ∃ acceptGzip, startAction server ⟨"POST".toList, http10,
        headers ++ requestHeaders env serviceType action "POST".toList, body⟩ =
      .ok (.new ⟨action.name, .element action.name [] (args.map argumentNode), args.length⟩
        serviceType http10 acceptGzip) := by
  obtain ⟨hsoap, hsame⟩ := headersGetOne_request env serviceType action headers
  refine ⟨acceptsGzip server (headers ++ requestHeaders env serviceType action "POST".toList), ?_⟩
  unfold startAction
  dsimp only
  rw [if_neg (not_not.2 rfl), if_neg hbody, hsame, hhost, hsoap]
  simp only [Bool.not_true, Bool.false_eq_true, ↓reduceIte, splitSoapAction_spec _ hhash, hread,
    ofDocument_requestDocument]

/-- An element is not found by another name. -/
theorem findArgument_arguments_none (h : ∀ arg ∈ args, arg.name ≠ name) :
    ServiceAction.findArgument name (args.map argumentNode) = some none := by
  induction args with
  | nil => rfl
  | cons arg args ih =>
    have hname : (argumentNode arg).name = some arg.name := rfl
    rw [List.map_cons, ServiceAction.findArgument, hname, Option.bind_eq_bind, Option.bind_some,
      if_neg (h arg List.mem_cons_self)]
    exact ih fun a ha => h a (List.mem_cons_of_mem arg ha)

/-- An implementation reads what it would read of the arguments themselves. -/
theorem readInput_argument (server : ControlServer) {started : ActionResponse} {input : Str × GType}
    (hnode : started.node = .element name [] (args.map argumentNode))
    (hdistinct : (args.map ActionArgument.name).Nodup) (hcarried : ∀ arg ∈ args, arg.value.Carried)
    (htype : ∀ arg ∈ args, arg.name = input.1 → arg.value.type = input.2) :
    readInput server started input = some (argumentValue server.toGLib args input) := by
  obtain ⟨⟨startedName, node, count⟩, msg, acceptGzip, responseStr⟩ := started
  obtain rfl : node = _ := hnode
  unfold readInput argumentValue
  cases hfind : args.find? (·.name = input.1) with
  | some arg =>
    have hmem := List.mem_of_find?_eq_some hfind
    have hname : arg.name = input.1 := by simpa using List.find?_some hfind
    have hvalue : (GValue.init server.toGLib input.2).type = arg.value.type := by
      rw [GValue.type_init, htype arg hmem hname]
    rw [← hname]
    dsimp only
    exact congrArg (Option.map Prod.fst)
      (getValue_argument hdistinct hmem (hcarried arg hmem) hvalue count)
  | none =>
    have hother : ∀ arg ∈ args, arg.name ≠ input.1 := by
      intro arg harg
      simpa using List.find?_eq_none.1 hfind arg harg
    unfold ServiceAction.getValue
    simp only [Node.children, findArgument_arguments_none hother, Option.bind_eq_bind,
      Option.bind_some, Option.map_some]

theorem mapM_readInput {started : ActionResponse} {inputs : List (Str × GType)}
    {value : Str × GType → GValue}
    (h : ∀ input ∈ inputs, readInput server started input = some (value input)) :
    inputs.mapM (readInput server started) = some (inputs.map value) := by
  induction inputs with
  | nil => rfl
  | cons input inputs ih =>
    rw [List.mapM_cons, h input List.mem_cons_self, ih fun i hi => h i (List.mem_cons_of_mem input hi)]
    rfl

/-- An implementation is invoked with the values of the arguments. -/
theorem invoke_arguments {started : ActionResponse} {implementation : Implementation}
    (hnode : started.node = .element name [] (args.map argumentNode))
    (hdistinct : (args.map ActionArgument.name).Nodup) (hcarried : ∀ arg ∈ args, arg.value.Carried)
    (htypes : ∀ input ∈ implementation.inputs, ∀ arg ∈ args, arg.name = input.1 →
      arg.value.type = input.2) :
    implementation.invoke server started =
      (implementation.body (implementation.inputs.map
        (argumentValue server.toGLib args))).end server started := by
  have hvalues := mapM_readInput fun input hinput =>
    readInput_argument server hnode hdistinct hcarried (htypes input hinput)
  unfold Implementation.invoke
  rw [hvalues]
  rfl

theorem end_after (server : ControlServer) (call : ResultCall) (outcome : Outcome)
    (started : ActionResponse) :
    (outcome.after call).end server started =
      (call.apply server.toGLib started).bind (outcome.end server) := by
  cases outcome with
  | success calls =>
    simp only [Outcome.after, Outcome.end, succeed, setAll, List.foldlM_cons, Option.bind_eq_bind,
      Option.bind_assoc]
    rfl
  | failure before after errorCode description =>
    simp only [Outcome.after, Outcome.end, fail, setAll, List.foldlM_cons, Option.bind_eq_bind,
      Option.bind_assoc]
    rfl

/-- An error without results. -/
theorem end_failure (server : ControlServer) (errorCode : UInt32) (description : Str)
    (started : ActionResponse) :
    (Outcome.failure [] [] errorCode description).end server started =
      started.returnError server.gzip server.serverId errorCode (some description) := by
  simp only [Outcome.end, fail, setAll, List.foldlM_nil, Option.bind_eq_bind, Option.pure_def,
    Option.bind_some]
  exact Option.bind_fun_some _

/-- A query is answered with the variables it asks for, in their order. -/
theorem queryStateVariables_arguments (started : ActionResponse) (args : List ActionArgument) :
    queryStateVariables server (application.handlers server) (args.map argumentNode) started =
      (queryOutcome application.stateVariable (queriedNames args)).end server started := by
  induction args generalizing started with
  | nil => rfl
  | cons arg args ih =>
    have hname : (argumentNode arg).name = some arg.name := rfl
    rw [List.map_cons, queryStateVariables, hname, Option.bind_eq_bind, Option.bind_some]
    by_cases hvar : arg.name = "varName".toList
    · have hqueried : queriedNames (arg :: args) = arg.value.text :: queriedNames args := by
        simp only [queriedNames, List.filter_cons, hvar, decide_true, ↓reduceIte, List.map_cons]
      rw [if_neg (not_not.2 hvar), content_argumentNode, hqueried, queryOutcome]
      have hquery : (application.handlers server).queryVariable = application.stateVariable := rfl
      rw [hquery]
      cases application.stateVariable arg.value.text with
      | none => exact (end_failure server 402 _ started).symm
      | some value =>
        rw [end_after]
        exact congrArg (started.setValue server.toGLib arg.value.text value).bind (funext ih)
    · have hqueried : queriedNames (arg :: args) = queriedNames args := by
        simp only [queriedNames, List.filter_cons, hvar, decide_false, Bool.false_eq_true, ↓reduceIte]
      rw [if_pos hvar, hqueried]
      exact ih started

/-- Every action ends with the outcome of the application. -/
theorem dispatchAction_spec (server : ControlServer) (application : Application)
    (started : ActionResponse)
    (hnode : started.node = .element name [] (args.map argumentNode))
    (hdistinct : (args.map ActionArgument.name).Nodup) (hcarried : ∀ arg ∈ args, arg.value.Carried)
    (hreads : application.Reads started.name args) :
    dispatchAction server (application.handlers server) started =
      (application.outcome server.toGLib started.name args).end server started := by
  unfold dispatchAction Application.outcome
  by_cases hquery : started.name = "QueryStateVariable".toList
  · rw [if_pos hquery, if_pos hquery, queryStateVariable, hnode]
    exact queryStateVariables_arguments started args
  · rw [if_neg hquery, if_neg hquery]
    simp only [Application.handlers, Bool.false_or]
    cases himpl : application.implementation started.name with
    | none => exact (end_failure server 401 _ started).symm
    | some implementation =>
      exact invoke_arguments hnode hdistinct hcarried (hreads implementation himpl)

/-! ## The response -/

theorem ended_of_finalizeAction {gzip : Gzip} {serverId : Str} {running ended : ActionResponse}
    (h : running.finalizeAction gzip serverId = some ended) :
    ended.responseStr = none ∧ ended.msg.status = running.msg.status := by
  unfold ActionResponse.finalizeAction at h
  obtain ⟨responseStr, -, h⟩ := Option.bind_eq_some_iff.1 h
  obtain rfl := Option.some.inj h
  exact ⟨rfl, rfl⟩

theorem responseStr_of_end {started ended : ActionResponse}
    (hrunning : started.msg.status ≠ 500) (hstr : started.responseStr.isSome)
    (h : outcome.end server started = some ended) : ended.responseStr = none := by
  obtain ⟨str, hstr⟩ := Option.isSome_iff_exists.1 hstr
  cases outcome with
  | success calls =>
    rw [Outcome.end, succeed, setAll_of_running _ _ hrunning hstr, Option.bind_eq_bind,
      Option.bind_some] at h
    exact (ended_of_finalizeAction h).1
  | failure before after errorCode description =>
    rw [Outcome.end, fail, setAll_of_running _ _ hrunning hstr, Option.bind_eq_bind,
      Option.bind_some] at h
    obtain ⟨failed, hfailed, h⟩ := Option.bind_eq_some_iff.1 h
    rw [returnError_some _ _ _ _ rfl] at hfailed
    obtain ⟨hnone, hstatus⟩ := ended_of_finalizeAction hfailed
    rw [setAll_of_failed hstatus] at h
    obtain rfl := Option.some.inj h
    exact hnone

/-- What an action shows depends on its checked state. -/
theorem resultsShown_of_same {results : List ActionArgument} {state checked final final' : Action}
    (h : ResultsShown env results state) (hcheck : checkResponse env state = some checked)
    (hfinal : checkResponse env final = some final') (herror : final'.error = checked.error)
    (hparams : final'.params = checked.params) : ResultsShown env results final := by
  obtain ⟨shown, hshown, hnone, hsome⟩ := h.accepted
  obtain rfl := Option.some.inj (hcheck.symm.trans hshown)
  obtain ⟨params, hp⟩ := Option.isSome_iff_exists.1 hsome
  have hstate : ServiceProxyAction.results env state = some (.ok params, checked) := by
    rw [results_of_checkResponse hcheck, results_of_params hnone hp]
  have hresults : ServiceProxyAction.results env final = some (.ok params, final') := by
    rw [results_of_checkResponse hfinal,
      results_of_params (herror.trans hnone) (hparams.trans hp)]
  refine ⟨⟨final', hfinal, herror.trans hnone, by rw [hparams, hp]; rfl⟩, fun outArgs => ?_,
    fun hash => ?_⟩
  · obtain ⟨values, last, hlist, hvalues⟩ := h.list outArgs
    rw [getResultList, hstate] at hlist
    obtain ⟨hread, -⟩ := Prod.mk.inj (Option.some.inj hlist)
    refine ⟨values, final', ?_, hvalues⟩
    rw [getResultList, hresults, ← hread]
    rfl
  · obtain ⟨read, last, hhash, hread⟩ := h.hash hash
    rw [getResultHash, hstate] at hhash
    obtain ⟨hsame, -⟩ := Prod.mk.inj (Option.some.inj hhash)
    refine ⟨read, final', ?_, hread⟩
    rw [getResultHash, hresults, ← hsame]
    rfl

/-- A call has returned with an action like the one in this state. -/
structure EndsWith (env : Env) (checked : Action) (call : Call) : Prop where
  returned : ∃ error final final', call = .returned error final ∧ final.pending = false ∧
    checkResponse env final = some final' ∧ final'.error = checked.error ∧
    final'.params = checked.params ∧ error.map Error.kind = checked.error.map Error.kind

theorem Shown.checked {state : Action} (h : Shown env outcome state) :
    ∃ checked, checkResponse env state = some checked := by
  cases outcome with
  | success calls =>
    obtain ⟨checked, hcheck, -⟩ := ResultsShown.accepted h
    exact ⟨checked, hcheck⟩
  | failure before after errorCode description =>
    obtain ⟨checked, hcheck, -⟩ := ErrorShown.refused h
    exact ⟨checked, hcheck⟩

/-- A call that has ended with such an action has returned its outcome. -/
theorem returns_of_endsWith {state checked : Action} {call : Call}
    (hcheck : checkResponse env state = some checked) (h : EndsWith env checked call)
    (hshown : Shown env outcome state) : Returns env outcome call := by
  obtain ⟨error, final, final', rfl, hpending, hfinal, herror, hparams, hkind⟩ := h.returned
  refine ⟨error, final, rfl, ?_⟩
  cases outcome with
  | success calls =>
    obtain ⟨accepted, haccepted, hnone, -⟩ := ResultsShown.accepted hshown
    obtain rfl := Option.some.inj (hcheck.symm.trans haccepted)
    rw [hnone] at hkind
    exact ⟨resultsShown_of_same hshown hcheck hfinal herror hparams, hkind⟩
  | failure before after errorCode description =>
    obtain ⟨refused, hrefused, hsome, hnone⟩ := ErrorShown.refused hshown
    obtain rfl := Option.some.inj (hcheck.symm.trans hrefused)
    rw [hsome] at hkind
    exact ⟨errorShown_of_error hpending hfinal (hparams.trans hnone) (herror.trans hsome), hkind⟩

theorem endsWith_settled {state checked : Action} (hpending : state.pending = false)
    (hcheck : checkResponse env state = some checked) :
    EndsWith env checked (settled env state) := by
  have hp : checked.pending = false := (checkResponse_checked hcheck).pending.trans hpending
  unfold settled callActionOut
  rw [hcheck]
  dsimp only
  cases herror : checked.error with
  | some error => exact ⟨some error, checked, checked, rfl, hp, checkResponse_idem hcheck, rfl, rfl,
      by rw [herror]⟩
  | none =>
    have hdone := (checkResponse_checked hcheck).done
    rw [herror] at hdone
    exact ⟨none, { checked with proxy := none, error := none },
      { checked with proxy := none, error := none }, rfl, hp,
      checkResponse_of_done (.inl (hdone.resolve_right (by decide))), herror.symm, rfl,
      by rw [herror]⟩

theorem endsWith_settles {state checked : Action} {call : Call}
    (hcheck : checkResponse env state = some checked) (h : Settles env state call) :
    EndsWith env checked call := by
  unfold Settles at h
  rw [hcheck] at h
  obtain ⟨error, final, rfl, hpending, hfinal, hkind⟩ := h
  exact ⟨error, final, checked, rfl, hpending, hfinal, rfl, rfl, hkind⟩

/-! ## The whole way -/

/-- An outcome is shown by an action that was answered with its response. -/
theorem end_spec (server : ControlServer) {chars service : List Char} (node : Node) (count : Nat)
    (http10 acceptGzip : Bool) (hparse : ReadsDefaults env.xmlReadMemory) (hname : IsNcName chars)
    (hservice : IsNamespaceName service) (hok : outcome.Ok) :
    ∃ ended, outcome.end server (.new ⟨utf8 chars, node, count⟩ (utf8 service) http10 acceptGzip) =
        some ended ∧ ended.msg.status ≠ 405 ∧
      ∀ state, Answered server.gzip ended.msg state → Shown env outcome state := by
  cases outcome with
  | success calls =>
    obtain ⟨hresults, hdistinct⟩ := hok
    obtain ⟨parameters, hwritten⟩ := exists_allWritten server.toGLib hresults
    have hstarted : (⟨utf8 chars, node, count⟩ : ServiceAction).name = utf8 chars := rfl
    obtain ⟨ended, hended, hstatus, hdecoded⟩ := succeed_spec service http10 acceptGzip server.gzip
      server.serverId hstarted hwritten
    refine ⟨ended, hended, by omega, fun state hanswered => ?_⟩
    exact resultsShown_of_answer hparse (isNcName_responseName hname) hservice hwritten
      (fun result h => (hresults result h).2) hdistinct hstatus hdecoded hanswered
  | failure before after errorCode description =>
    obtain ⟨hcode, text, htext, rfl⟩ := hok
    obtain ⟨ended, hended, hstatus, hdecoded⟩ := fail_spec server.toGLib ⟨utf8 chars, node, count⟩
      before after (utf8 service) http10 acceptGzip server.gzip server.serverId errorCode text
    exact ⟨ended, hended, by omega, fun state hanswered =>
      errorShown_of_answer hparse hcode htext hstatus hdecoded hanswered⟩

theorem pending_addArguments (action : Action) (names : List Str) (values : List GValue) :
    (addArguments action names values).pending = action.pending := by
  induction names generalizing action values with
  | nil => rfl
  | cons name names ih =>
    cases values with
    | nil => rfl
    | cons value values =>
      rw [addArguments, ih]
      unfold addArgument
      split <;> rfl

/-- The action of a call, before it is sent. -/
theorem newFromList_spec (name : Str) (hdistinct : (args.map ActionArgument.name).Nodup) :
    ∃ action, newFromList name (args.map ActionArgument.name) (args.map ActionArgument.value) =
        action ∧ action.name = name ∧ action.args = args ∧ action.pending = false := by
  have hmap : MapOk (newPlain name) := by
    intro n
    constructor
    · intro hsome
      cases hsome
    · intro hmem
      cases hmem
  have hfresh : ∀ arg ∈ args, arg.name ∉ (newPlain name).args.map ActionArgument.name :=
    fun _ _ hmem => absurd hmem List.not_mem_nil
  obtain ⟨action, -, hlist, hname, hargs⟩ := addAll_of_fresh hmap hdistinct hfresh
  have hpending := pending_addArguments (newPlain name) (args.map ActionArgument.name)
    (args.map ActionArgument.value)
  rw [hlist] at hpending
  exact ⟨action, hlist, hname, hargs, hpending⟩

/-- The message of a call, which the service reads as the document of the request. -/
theorem prepareActionMsg_request (env : Env) {chars service : List Char} {controlUrl : Str}
    (hserver : Reads server.xmlReadMemory) (hproxy : proxy.serviceType = some (utf8 service))
    (hurl : proxy.controlUrl = some controlUrl) (hchars : IsNcName chars)
    (hservice : IsNamespaceName service) (hname : action.name = utf8 chars)
    (hargs : ∀ arg ∈ action.args, IsName arg.name ∧ arg.value.Carried) :
    ∃ prepared body, (prepareActionMsg env proxy "POST".toList action).1.msg =
        some ⟨"POST".toList, controlUrl,
          requestHeaders env (utf8 service) prepared "POST".toList, body, 0, []⟩ ∧
      prepared.name = utf8 chars ∧ body ≠ [] ∧
      server.xmlReadMemory body = some (requestDocument (utf8 chars) action.args) := by
  obtain ⟨parameters, hwritten⟩ := exists_allWritten env.toGLib hargs
  have hreset : (reset action).name = utf8 chars := hname
  have hserialize := serialize_render service hreset hwritten
  have hread := hserver (requestTree chars service parameters) rfl
    (requestTree_wellFormed hchars hservice (ok_of_allWritten hwritten))
  rw [toNode_requestTree hwritten] at hread
  refine ⟨serialize env.toGLib (reset action) (utf8 service), _, ?_, hname, ?_, hread⟩
  · unfold prepareActionMsg
    rw [hproxy, hurl]
    dsimp only
    rw [hserialize]
    rfl
  · intro hnil
    rw [utf8_eq_nil] at hnil
    exact absurd (List.append_eq_nil_iff.1 hnil).1 (by decide)

/-- A call returns what the implementation makes of its arguments, and the error of the library where
there is no implementation. -/
theorem call_returns_outcome {env : Env} {server : ControlServer}
    (hparse : ReadsDefaults env.xmlReadMemory) (hserver : Reads server.xmlReadMemory)
    (application : Application) {proxy : ServiceInfo} {serviceType controlUrl : Str}
    (hproxy : proxy.serviceType = some serviceType) (hurl : proxy.controlUrl = some controlUrl)
    (hservice : IsServiceType serviceType) (hhash : '#' ∉ serviceType) {headers : List (Str × Str)}
    (hhost : server.validateHostHeader (headersGetOne "Host".toList headers) = true) (http10 : Bool)
    {name : Str} (hname : IsName name) (args : List ActionArgument)
    (hargs : ∀ arg ∈ args, IsName arg.name ∧ arg.value.Carried)
    (hdistinct : (args.map ActionArgument.name).Nodup) (hreads : application.Reads name args)
    (hok : (application.outcome server.toGLib name args).Ok) :
    ∃ action response,
      newFromList name (args.map ActionArgument.name) (args.map ActionArgument.value) = action ∧
      serviceResponse server env (application.handlers server) proxy headers http10 action =
        some response ∧
      (∀ mPost, Returns env (application.outcome server.toGLib name args)
        (callAction env proxy response mPost action)) ∧
      Returns env (application.outcome server.toGLib name args)
        (callActionAsyncFinish env proxy [response] action) := by
  obtain ⟨chars, hchars, rfl⟩ := hname
  obtain ⟨service, hnamespace, rfl⟩ := hservice
  obtain ⟨action, hlist, hactionName, hactionArgs, hpending⟩ := newFromList_spec (utf8 chars) hdistinct
  -- The message at the handler, and the response.
  obtain ⟨prepared, body, hmsg, hpreparedName, hbody, hread⟩ := prepareActionMsg_request env
    hserver hproxy hurl hchars hnamespace hactionName (hactionArgs ▸ hargs)
  rw [hactionArgs, ← hpreparedName] at hread
  obtain ⟨acceptGzip, hstart⟩ := startAction_request env http10 hhash hhost hbody hread
  rw [hpreparedName] at hstart
  obtain ⟨ended, hended, hstatus, hshown⟩ := end_spec server
    (.element (utf8 chars) [] (args.map argumentNode)) args.length http10 acceptGzip hparse hchars
    hnamespace hok
  have hdispatch := (dispatchAction_spec server application
    (.new ⟨utf8 chars, .element (utf8 chars) [] (args.map argumentNode), args.length⟩ (utf8 service)
      http10 acceptGzip) rfl hdistinct (fun arg h => (hargs arg h).2) hreads).trans hended
  have hanswer : (Handled.started ended).answer = some ended.msg := by
    rw [Handled.answer, responseStr_of_end (Nat.zero_ne_add_one 499) rfl hended]
    rfl
  let response : Response := .received ended.msg.status ended.msg.reasonPhrase false
    (ended.msg.decoded server.gzip)
  have hresponse : serviceResponse server env (application.handlers server) proxy headers http10
      action = some response := by
    unfold serviceResponse controlServerHandler
    rw [hmsg]
    simp only [Option.bind_eq_bind, Option.bind_some, hstart, hdispatch, Option.map_some, hanswer]
    rfl
  -- The call with the response.
  obtain ⟨hmissing, -⟩ | ⟨-, ready, hready, hprepared⟩ :=
    prepareActionMsg_cases env proxy "POST".toList hpending
  · rw [hproxy, hurl] at hmissing
    rcases hmissing with hmissing | hmissing <;> cases hmissing
  have hsent := hprepared.sent response
  have hstate := hshown _ ⟨proxy, "POST".toList, _, false, hsent⟩
  obtain ⟨checked, hcheck⟩ := hstate.checked
  have hallowed : response.status ≠ some 405 := fun h => hstatus (Option.some.inj h)
  refine ⟨action, response, hlist, hresponse, fun mPost => ?_, ?_⟩
  · rw [callAction_of_allowed hpending hready hprepared hallowed]
    exact returns_of_endsWith hcheck (endsWith_settled hsent.pending hcheck) hstate
  · have hasync : callActionAsync env proxy action = .waiting (setPending true ready) := by
      unfold callActionAsync
      rw [hready]
      rfl
    unfold callActionAsyncFinish
    rw [hasync]
    exact returns_of_endsWith hcheck (endsWith_settles hcheck
      (settles_of_final env response hprepared fun h => absurd h hallowed)) hstate

/-- A service at one address, with the parser. -/
def plainServer : ControlServer :=
  ⟨.plain, fun host => host == some "192.0.2.1:80".toList, parse, fun _ => [], uncompressed, []⟩

/-- An application whose `Seek` returns two of its arguments, and which has one state variable. -/
def seekApplication : Application where
  implementation name :=
    if name = "Seek".toList then
      some ⟨[("Offset".toList, .int), ("Target".toList, .string)], fun values =>
        match values with
        | [offset, target] =>
          .success [.setValue "NewOffset".toList offset, .setValue "NewTarget".toList target]
        | _ => .failure [] [] 402 "Invalid Args".toList⟩
    else none
  stateVariable varName := if varName = "Volume".toList then some (.uint 7) else none

/-- What `Seek` should return. -/
def seekOutcome : Outcome :=
  .success [.setValue "NewOffset".toList (.int (-5)),
    .setValue "NewTarget".toList (.string (some "<&\">".toList))]

theorem seekOutcome_ok : seekOutcome.Ok := by
  refine ⟨fun result hresult => ?_, by decide⟩
  have hresult : result ∈ [⟨"NewOffset".toList, .int (-5)⟩,
      (⟨"NewTarget".toList, .string (some "<&\">".toList)⟩ : ActionArgument)] := hresult
  rcases List.mem_cons.1 hresult with rfl | hresult
  · exact ⟨isName_of_ascii (isNcName_of_all rfl (by decide) (by decide)) (by decide), trivial⟩
  · obtain rfl := List.mem_singleton.1 hresult
    exact ⟨isName_of_ascii (isNcName_of_all rfl (by decide) (by decide)) (by decide),
      (seekArguments_ok ⟨"Target".toList, .string (some "<&\">".toList)⟩
        (.tail _ List.mem_cons_self)).2⟩

theorem seekApplication_reads : seekApplication.Reads "Seek".toList seekArguments := by
  intro implementation himpl
  obtain rfl := Option.some.inj himpl
  decide

theorem call_returns_outcome_sample :
    ∃ action response,
      newFromList "Seek".toList (seekArguments.map ActionArgument.name)
        (seekArguments.map ActionArgument.value) = action ∧
      serviceResponse plainServer plainEnv (seekApplication.handlers plainServer)
        ⟨some "urn:schemas-upnp-org:service:AVTransport:1".toList, some "/control".toList, none⟩
        [("Host".toList, "192.0.2.1:80".toList)] false action = some response ∧
      (∀ mPost, Returns plainEnv seekOutcome (callAction plainEnv
        ⟨some "urn:schemas-upnp-org:service:AVTransport:1".toList, some "/control".toList, none⟩
        response mPost action)) ∧
      Returns plainEnv seekOutcome (callActionAsyncFinish plainEnv
        ⟨some "urn:schemas-upnp-org:service:AVTransport:1".toList, some "/control".toList, none⟩
        [response] action) := by
  have houtcome : seekApplication.outcome plainServer.toGLib "Seek".toList seekArguments =
      seekOutcome := rfl
  have hhost : plainServer.validateHostHeader
      (headersGetOne "Host".toList [("Host".toList, "192.0.2.1:80".toList)]) = true := by decide
  rw [← houtcome]
  exact call_returns_outcome readsDefaults_parse reads_parse seekApplication rfl rfl isServiceType_seek
    (by decide) hhost false isName_seek seekArguments seekArguments_ok (by decide)
    seekApplication_reads (houtcome ▸ seekOutcome_ok)

end GUPnP.Control
