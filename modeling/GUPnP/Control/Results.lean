import GUPnP.Control.Fault
import GUPnP.ServiceProxyAction.Proof.Sending

/-!
# The results of an action on their way back

`results_arrive`: what the service sets as results the control point reads by name, and an error that
the service returns is the error of the action. The parser is any that reads well-formed documents.
-/

set_option autoImplicit false

namespace GUPnP.Control

open Xml Markup ServiceProxyAction Service

variable {glib : GLib} {gzip : Gzip} {serverId : Str} {env : Env} {action : Action}
  {results : List ActionArgument} {name : Str}

/-! ## Finding the parameter element -/

theorem firstNamed_singleton (name : Str) (attributes : List (Str × Str)) (children : List Node) :
    firstNamed name [.element name attributes children] =
      some (.element name attributes children) := by
  simp only [firstNamed, List.find?_cons, Node.name, beq_self_eq_true]

/-- An element is no blank. -/
theorem realNode_element (name : Str) (attributes : List (Str × Str)) (children rest : List Node) :
    realNode (.element name attributes children :: rest) =
      .element name attributes children :: rest := rfl

theorem parameterList_envelope (attributes attributes' attributes'' : List (Str × Str)) (name : Str)
    (children : List Node) :
    parameterList (.document [.element "Envelope".toList attributes
      [.element "Body".toList attributes' [.element name attributes'' children]]]) =
      some (some (.element name attributes'' children)) := by
  have hheader : "Body".toList ≠ "Header".toList := by decide
  have henvelope : getElement (.document [.element "Envelope".toList attributes
      [.element "Body".toList attributes' [.element name attributes'' children]]])
      ["Envelope".toList] = some (.element "Envelope".toList attributes
        [.element "Body".toList attributes' [.element name attributes'' children]]) := by
    rw [getElement_singleton, Node.children, firstNamed_singleton]
  rw [parameterList, henvelope]
  simp only [Node.children, realNode_element, Node.name, Option.bind_eq_bind, Option.bind_some,
    hheader, ↓reduceIte, ne_eq, not_true_eq_false, List.head?_cons]

/-! ## Reading results -/

/-- The element with the results. -/
def resultsNode (name : Str) (results : List ActionArgument) : Node :=
  .element name [] (results.map argumentNode)

theorem firstNamed_argument (hdistinct : (results.map ActionArgument.name).Nodup)
    {result : ActionArgument} (h : result ∈ results) :
    firstNamed result.name (results.map argumentNode) = some (argumentNode result) := by
  induction results with
  | nil => cases h
  | cons first results ih =>
    rw [List.map_cons, List.nodup_cons] at hdistinct
    have hname : ∀ r : ActionArgument, (argumentNode r).name = some r.name := fun _ => rfl
    rw [List.map_cons, firstNamed, List.find?_cons, hname]
    rcases List.mem_cons.1 h with rfl | h
    · rw [beq_self_eq_true]
    · have hne : (some first.name == some result.name) = false := by
        refine beq_eq_false_iff_ne.2 fun hsame => hdistinct.1 ?_
        rw [Option.some.inj hsame]
        exact List.mem_map_of_mem h
      rw [hne]
      exact ih hdistinct.2 h

/-- Each result is read back by its name, as its own type. -/
theorem readOutParameter_result (glib : GLib) (hdistinct : (results.map ActionArgument.name).Nodup)
    {result : ActionArgument} (h : result ∈ results) (hcarried : result.value.Carried)
    {value : GValue} (htype : value.type = result.value.type) :
    readOutParameter glib result.name value (resultsNode name results) = result.value := by
  unfold readOutParameter
  rw [getElement_singleton, resultsNode, Node.children, firstNamed_argument hdistinct h]
  dsimp only
  rw [GValue.setValueFromXmlNode, content_argumentNode,
    GValue.setValueFromString_text glib hcarried htype]

/-! ## Reading a fault -/

theorem faultOf_faultNode {n : Nat} (h : n < 2 ^ 31) (description reasonPhrase : Str) :
    faultOf (faultNode (CString.printU n) description) reasonPhrase =
      ⟨.control, n, description⟩ := by
  have herror : getElement (faultNode (CString.printU n) description)
      ["detail".toList, "UPnPError".toList] = some (.element "UPnPError".toList []
        [textNode "errorCode".toList (CString.printU n),
          textNode "errorDescription".toList description]) := rfl
  have hcode : getChildElementContentInt (.element "UPnPError".toList []
      [textNode "errorCode".toList (CString.printU n),
        textNode "errorDescription".toList description]) "errorCode".toList = n := by
    have hcontent : getChildElementContent (.element "UPnPError".toList []
        [textNode "errorCode".toList (CString.printU n),
          textNode "errorDescription".toList description]) "errorCode".toList =
        some (textNode "errorCode".toList (CString.printU n)).content := rfl
    rw [getChildElementContentInt, hcontent, content_textNode]
    exact CString.atoi_printU h
  have hdescription : getChildElementContent (.element "UPnPError".toList []
      [textNode "errorCode".toList (CString.printU n),
        textNode "errorDescription".toList description]) "errorDescription".toList =
      some description := by
    have hcontent : getChildElementContent (.element "UPnPError".toList []
        [textNode "errorCode".toList (CString.printU n),
          textNode "errorDescription".toList description]) "errorDescription".toList =
        some (textNode "errorDescription".toList description).content := rfl
    rw [hcontent, content_textNode]
  have hvalid : (n : Int) ≠ -1 := by omega
  rw [faultOf, herror]
  dsimp only
  rw [hcode, if_neg hvalid, hdescription]
  rfl

/-! ## What a control point sees -/

/-- The proxy accepts the response, and shows each result to who asks for its name and type. -/
structure ResultsShown (env : Env) (results : List ActionArgument) (action : Action) : Prop where
  accepted : ∃ checked, checkResponse env action = some checked ∧ checked.error = none ∧
    checked.params.isSome
  list : ∀ outArgs, ∃ values final,
    getResultList env outArgs action = some (.ok values, final) ∧
    List.Forall₂ (fun out value => ∀ result ∈ results, out = (result.name, result.value.type) →
      value = result.value) outArgs values
  hash : ∀ hash, ∃ read final, getResultHash env hash action = some (.ok read, final) ∧
    ∀ result ∈ results, ∀ value, hash.lookup result.name = some value →
      value.type = result.value.type → read.lookup result.name = some result.value

/-- The proxy has this error, and shows nothing else. -/
structure ErrorShown (env : Env) (error : Error) (action : Action) : Prop where
  refused : ∃ checked, checkResponse env action = some checked ∧ checked.error = some error ∧
    checked.params = none
  list : ∀ outArgs, ∃ final, getResultList env outArgs action = some (.error error, final)
  hash : ∀ hash, ∃ final, getResultHash env hash action = some (.error error, final)
  iterator : ∃ final, iterate env action = some (.error (some error), final)

/-- The action of a proxy that was answered with the message of the service. -/
def Answered (gzip : Gzip) (msg : ServerMessage) (action : Action) : Prop :=
  ∃ proxy method name redirected, Sent proxy method name
    (.received msg.status msg.reasonPhrase redirected (msg.decoded gzip)) action

theorem resultsShown_of_params {checked : Action}
    (hdistinct : (results.map ActionArgument.name).Nodup)
    (hcarried : ∀ result ∈ results, result.value.Carried)
    (hcheck : checkResponse env action = some checked) (herror : checked.error = none)
    (hparams : checked.params = some (resultsNode name results)) :
    ResultsShown env results action := by
  have hresults : ServiceProxyAction.results env action =
      some (.ok (resultsNode name results), checked) := by
    rw [results_of_checkResponse hcheck, results_of_params herror hparams]
  refine ⟨⟨checked, hcheck, herror, by rw [hparams]; rfl⟩, fun outArgs => ?_, fun hash => ?_⟩
  · refine ⟨_, checked, by rw [getResultList, hresults]; rfl, ?_⟩
    rw [List.forall₂_map_right_iff, List.forall₂_same]
    rintro ⟨outName, type⟩ _ result hresult hout
    obtain ⟨rfl, rfl⟩ := Prod.mk.inj hout
    exact readOutParameter_result env.toGLib hdistinct hresult (hcarried result hresult)
      (GValue.type_init env.toGLib _)
  · refine ⟨_, checked, by rw [getResultHash, hresults]; rfl, ?_⟩
    intro result hresult value hlookup htype
    rw [Table.lookup_mapValues, hlookup, Option.map_some]
    exact congrArg some (readOutParameter_result env.toGLib hdistinct hresult
      (hcarried result hresult) htype)

theorem errorShown_of_error {checked : Action} {error : Error} (hpending : action.pending = false)
    (hcheck : checkResponse env action = some checked) (hparams : checked.params = none)
    (herror : checked.error = some error) : ErrorShown env error action := by
  have hresults : ServiceProxyAction.results env action = some (.error error, checked) := by
    rw [results_of_checkResponse hcheck, results_of_error herror]
  refine ⟨⟨checked, hcheck, herror, hparams⟩, fun outArgs => ⟨checked, ?_⟩,
    fun hash => ⟨checked, ?_⟩, checked, ?_⟩
  · rw [getResultList, hresults]
    rfl
  · rw [getResultHash, hresults]
    rfl
  · rw [iterate_of_not_pending hpending, hresults]
    rfl

/-! ## The whole way -/

/-- An implementation that sets these results and succeeds. -/
def succeed (glib : GLib) (gzip : Gzip) (serverId : Str) (calls : List ResultCall)
    (action : ActionResponse) : Option ActionResponse := do
  let action ← setAll glib calls action
  action.returnSuccess gzip serverId

/-- An implementation that returns an error after some results, and goes on setting others. -/
def fail (glib : GLib) (gzip : Gzip) (serverId : Str) (before after : List ResultCall)
    (errorCode : UInt32) (errorDescription : Option Str) (action : ActionResponse) :
    Option ActionResponse := do
  let action ← setAll glib before action
  let action ← action.returnError gzip serverId errorCode errorDescription
  setAll glib after action

section
variable {started : ServiceAction} {calls before after : List ResultCall}

/-- A successful action is answered with the document of its results. -/
theorem succeed_spec {name : List Char} (serviceType : List Char) (http10 acceptGzip : Bool)
    {parameters : List Parameter} (gzip : Gzip) (serverId : Str) (hname : started.name = utf8 name)
    (hwritten : List.Forall₂ (Written glib) (allResults calls) parameters) :
    ∃ ended, succeed glib gzip serverId calls
        (.new started (utf8 serviceType) http10 acceptGzip) = some ended ∧
      ended.msg.status = 200 ∧ ended.msg.decoded gzip =
        utf8 (xmlDeclaration ++ (requestTree (responseName name) serviceType parameters).render) := by
  let running : ActionResponse := { ActionResponse.new started (utf8 serviceType) http10 acceptGzip with
    responseStr := some (ActionResponse.newActionResponseStr started.name
      (some (utf8 serviceType)) ++ argumentsStr glib (allResults calls))
    msg := { ServerMessage.new http10 with status := 200, reasonPhrase := "OK".toList } }
  have hset := setAll_of_running glib (.new started (utf8 serviceType) http10 acceptGzip)
    (Nat.zero_ne_add_one 499) rfl calls
  obtain ⟨ended, hended, hstatus, -, hdecoded⟩ :=
    finalizeAction_spec running http10 gzip serverId rfl rfl rfl
  have hrender := render_success running serviceType hname (show 200 ≠ 500 by decide) hwritten
  refine ⟨ended, ?_, hstatus, hdecoded.trans hrender⟩
  rw [succeed, hset]
  exact hended

theorem returnError_some (gzip : Gzip) (serverId : Str) (errorCode : UInt32) (text : Str)
    {action : ActionResponse} {str : Str} (hstr : action.responseStr = some str) :
    action.returnError gzip serverId errorCode (some text) =
      ActionResponse.finalizeAction gzip serverId { action with
        responseStr := some (ActionResponse.faultStr errorCode text)
        msg := { action.msg with
          status := 500, reasonPhrase := "Internal server error".toList } } := by
  rw [ActionResponse.returnError, Option.some_or]
  dsimp only
  rw [hstr, Option.bind_eq_bind, Option.bind_some]

/-- An action that fails is answered with the fault, whatever was set before and after. -/
theorem fail_spec (glib : GLib) (started : ServiceAction) (before after : List ResultCall)
    (serviceType : Str) (http10 acceptGzip : Bool) (gzip : Gzip) (serverId : Str)
    (errorCode : UInt32) (text : List Char) :
    ∃ ended, fail glib gzip serverId before after errorCode (some (utf8 text))
        (.new started serviceType http10 acceptGzip) = some ended ∧
      ended.msg.status = 500 ∧ ended.msg.decoded gzip =
        utf8 (xmlDeclaration ++ (faultTree [controlDefault] (digits errorCode.toNat)
          (text.map escape)).render) := by
  let running : ActionResponse := { ActionResponse.new started serviceType http10 acceptGzip with
    responseStr := some (ActionResponse.faultStr errorCode (utf8 text))
    msg := { ServerMessage.new http10 with
      status := 500, reasonPhrase := "Internal server error".toList } }
  have hset := setAll_of_running glib (.new started serviceType http10 acceptGzip)
    (Nat.zero_ne_add_one 499) rfl before
  obtain ⟨ended, hended, hstatus, -, hdecoded⟩ :=
    finalizeAction_spec running http10 gzip serverId rfl rfl rfl
  refine ⟨ended, ?_, hstatus, hdecoded.trans (render_fault errorCode text rfl)⟩
  have hreturn : ActionResponse.returnError gzip serverId errorCode (some (utf8 text))
      { ActionResponse.new started serviceType http10 acceptGzip with
        responseStr := some (ActionResponse.newActionResponseStr started.name (some serviceType) ++
          argumentsStr glib (allResults before)) } = some ended := by
    rw [returnError_some gzip serverId errorCode (utf8 text) rfl]
    exact hended
  rw [fail, hset, Option.bind_eq_bind, Option.bind_some, hreturn]
  exact setAll_of_failed hstatus after

end

/-- The response of a success is read back as its results. -/
theorem resultsShown_of_answer {msg : ServerMessage} {chars serviceType : List Char}
    {parameters : List Parameter} (hparse : ReadsDefaults env.xmlReadMemory)
    (hncname : IsNcName (responseName chars)) (hnamespace : IsNamespaceName serviceType)
    (hwritten : List.Forall₂ (Written glib) results parameters)
    (hcarried : ∀ result ∈ results, result.value.Carried)
    (hdistinct : (results.map ActionArgument.name).Nodup) (hstatus : msg.status = 200)
    (hdecoded : msg.decoded gzip = utf8 (xmlDeclaration ++
      (requestTree (responseName chars) serviceType parameters).render))
    (hanswered : Answered gzip msg action) : ResultsShown env results action := by
  obtain ⟨proxy, method, name, redirected, hsent⟩ := hanswered
  rw [hstatus] at hsent
  have hread := reads_of_readsDefaults hparse (requestTree (responseName chars) serviceType parameters)
    rfl (requestTree_wellFormed hncname hnamespace (ok_of_allWritten hwritten))
  rw [toNode_requestTree hwritten, ← hdecoded] at hread
  obtain ⟨checked, hcheck, herror, hparams⟩ :=
    succeeded_of_response hsent hread (parameterList_envelope _ _ _ _ _)
  exact resultsShown_of_params hdistinct hcarried hcheck herror hparams

/-- The response of a failure is read back as the error. -/
theorem errorShown_of_answer {msg : ServerMessage} {errorCode : UInt32} {text : List Char}
    (hparse : ReadsDefaults env.xmlReadMemory) (hcode : errorCode.toNat < 2 ^ 31)
    (htext : ∀ c ∈ text, IsXmlChar c ∧ c ≠ '\r') (hstatus : msg.status = 500)
    (hdecoded : msg.decoded gzip = utf8 (xmlDeclaration ++ (faultTree [controlDefault]
      (digits errorCode.toNat) (text.map escape)).render))
    (hanswered : Answered gzip msg action) :
    ErrorShown env ⟨.control, errorCode.toNat, utf8 text⟩ action := by
  obtain ⟨proxy, method, name, redirected, hsent⟩ := hanswered
  rw [hstatus] at hsent
  have hescaped : ∀ i ∈ text.map escape, i.WellFormed := by
    intro i hi
    obtain ⟨c, hc, rfl⟩ := List.mem_map.1 hi
    exact escape_wellFormed (htext c hc).1 (htext c hc).2
  have hwellFormed := faultTree_wellFormed (digits_ok errorCode.toNat) hescaped
  rw [← withoutDefaults_faultTree] at hwellFormed
  have hread := hparse (faultTree [controlDefault] (digits errorCode.toNat) (text.map escape)) rfl
    (defaultsWellFormed_faultTree _ _) hwellFormed
  rw [withoutDefaults_faultTree, toNode_faultTree, ← hdecoded] at hread
  obtain ⟨checked, hcheck, hparams, herror⟩ :=
    failed_of_response hsent hread (parameterList_envelope _ _ _ _ _)
  have hpending : action.pending = false := hsent.pending
  refine errorShown_of_error hpending hcheck hparams ?_
  rw [herror]
  exact congrArg some (faultOf_faultNode hcode (utf8 text) _)

/-- The control point sees what the service has set: each result by its name and type, or the error
the service returned at any point. -/
theorem results_arrive {env : Env} (hparse : ReadsDefaults env.xmlReadMemory) (glib : GLib)
    (gzip : Gzip) (serverId : Str) (started : ServiceAction) (serviceType : Str)
    (http10 acceptGzip : Bool) (calls : List ResultCall) (hname : IsName started.name)
    (hservice : IsServiceType serviceType)
    (hresults : ∀ result ∈ allResults calls, IsName result.name ∧ result.value.Carried)
    (hdistinct : ((allResults calls).map ActionArgument.name).Nodup) :
    (∃ ended, succeed glib gzip serverId calls (.new started serviceType http10 acceptGzip) =
        some ended ∧
      ∀ action, Answered gzip ended.msg action → ResultsShown env (allResults calls) action) ∧
    ∀ before after errorCode description, before ++ after = calls →
      errorCode.toNat < 2 ^ 31 → (GValue.string (some description)).Carried →
      ∃ ended, fail glib gzip serverId before after errorCode (some description)
          (.new started serviceType http10 acceptGzip) = some ended ∧
        ∀ action, Answered gzip ended.msg action →
          ErrorShown env ⟨.control, errorCode.toNat, description⟩ action := by
  constructor
  · obtain ⟨chars, hchars, hbytes⟩ := hname
    obtain ⟨service, hnamespace, rfl⟩ := hservice
    obtain ⟨parameters, hwritten⟩ := exists_allWritten glib hresults
    obtain ⟨ended, hended, hstatus, hdecoded⟩ :=
      succeed_spec service http10 acceptGzip gzip serverId hbytes hwritten
    exact ⟨ended, hended, fun action => resultsShown_of_answer hparse (isNcName_responseName hchars)
      hnamespace hwritten (fun result h => (hresults result h).2) hdistinct hstatus hdecoded⟩
  · intro before after errorCode description _ hcode hdescription
    obtain ⟨text, htext, rfl⟩ := hdescription
    obtain ⟨ended, hended, hstatus, hdecoded⟩ := fail_spec glib started before after serviceType http10
      acceptGzip gzip serverId errorCode text
    exact ⟨ended, hended, fun action => errorShown_of_answer hparse hcode htext hstatus hdecoded⟩

/-- The results of `GetVolume`, set one by one and from lists. -/
def volumeCalls : List ResultCall :=
  [.setValue "CurrentVolume".toList (.uint 7),
    .setValues ["Muted".toList, "Title".toList] [.boolean true, .string (some "<&\">".toList)]]

theorem volumeCalls_ok :
    ∀ result ∈ allResults volumeCalls, IsName result.name ∧ result.value.Carried := by
  intro result hresult
  have hresult : result ∈ [⟨"CurrentVolume".toList, .uint 7⟩, ⟨"Muted".toList, .boolean true⟩,
      (⟨"Title".toList, .string (some "<&\">".toList)⟩ : ActionArgument)] := hresult
  rcases List.mem_cons.1 hresult with rfl | hresult
  · exact ⟨isName_of_ascii (isNcName_of_all rfl (by decide) (by decide)) (by decide), trivial⟩
  rcases List.mem_cons.1 hresult with rfl | hresult
  · exact ⟨isName_of_ascii (isNcName_of_all rfl (by decide) (by decide)) (by decide), trivial⟩
  · obtain rfl := List.mem_singleton.1 hresult
    have hplain : "<&\">".toList.all (fun c => decide (IsXmlChar c ∧ c ≠ '\r')) = true := by decide
    exact ⟨isName_of_ascii (isNcName_of_all rfl (by decide) (by decide)) (by decide), "<&\">".toList,
      fun c hc => of_decide_eq_true (List.all_eq_true.1 hplain c hc),
      (utf8_of_all (by decide)).symm⟩

theorem isName_getVolume : IsName "GetVolume".toList :=
  isName_of_ascii (isNcName_of_all rfl (by decide) (by decide)) (by decide)

/-- Bodies that are not compressed. -/
def uncompressed : Gzip := ⟨id, id, fun _ => rfl⟩

/-- A control point with the parser. -/
def plainEnv : Env := ⟨.plain, parse, none⟩

/-- The action of a service without arguments. -/
def startedAction (name : Str) : ServiceAction := ⟨name, .element name [] [], 0⟩

/-- The proxy of a service. -/
def plainProxy : ServiceInfo := ⟨some [], some [], none⟩

/-- The action of a proxy that got a response. -/
def answered (msg : ServerMessage) : Action :=
  sendAndRead (.received msg.status msg.reasonPhrase false (msg.decoded uncompressed))
    (prepareActionMsg plainEnv plainProxy "POST".toList (newPlain [])).1

theorem answered_answered (msg : ServerMessage) : Answered uncompressed msg (answered msg) := by
  have hpending : (newPlain []).pending = false := rfl
  rcases prepareActionMsg_cases plainEnv plainProxy "POST".toList hpending with
    ⟨hmissing, -⟩ | ⟨-, ready, hready, hprepared⟩
  · rcases hmissing with hmissing | hmissing <;> cases hmissing
  · refine ⟨plainProxy, "POST".toList, [], false, ?_⟩
    rw [answered, hready]
    exact hprepared.sent _

theorem results_arrive_sample :
    (∃ ended, succeed .plain uncompressed [] volumeCalls
        (.new (startedAction "GetVolume".toList)
          "urn:schemas-upnp-org:service:AVTransport:1".toList false false) = some ended ∧
      ResultsShown plainEnv (allResults volumeCalls) (answered ended.msg)) ∧
    ∃ ended, fail .plain uncompressed [] volumeCalls [] 718 (some "<&\">".toList)
        (.new (startedAction "GetVolume".toList)
          "urn:schemas-upnp-org:service:AVTransport:1".toList false false) = some ended ∧
      ErrorShown plainEnv ⟨.control, 718, "<&\">".toList⟩ (answered ended.msg) := by
  have hparse : ReadsDefaults plainEnv.xmlReadMemory := readsDefaults_parse
  obtain ⟨⟨ended, hended, hshown⟩, hfail⟩ := results_arrive hparse .plain
    uncompressed [] (startedAction "GetVolume".toList) _ false false volumeCalls isName_getVolume
    isServiceType_seek volumeCalls_ok (by decide)
  have hcarried := (volumeCalls_ok ⟨"Title".toList, .string (some "<&\">".toList)⟩
    (.tail _ (.tail _ (.head _)))).2
  obtain ⟨ended', hended', hshown'⟩ := hfail volumeCalls [] 718 _ (List.append_nil _) (by decide)
    hcarried
  exact ⟨⟨ended, hended, hshown _ (answered_answered _)⟩, ended', hended',
    hshown' _ (answered_answered _)⟩

/-- What a control point reads of a result by this name and type. -/
def readBack (actionName serviceType name : Str) (value : GValue) : Option (List GValue) := do
  let ended ← succeed .plain uncompressed [] [.setValue name value]
    (.new (startedAction actionName) serviceType false false)
  let (values, _) ← getResultList plainEnv [(name, value.type)] (answered ended.msg)
  values.toOption

/-- A result `u:a` has a valid XML name, but in the response its prefix is the one of the action, and
the control point knows it as `a`. -/
theorem result_lost :
    readBack "Get".toList "urn:x".toList "u:a".toList (.int 1) = some [.int 0] ∧
      readBack "Get".toList "urn:x".toList "a".toList (.int 1) = some [.int 1] := by
  decide +kernel

end GUPnP.Control
