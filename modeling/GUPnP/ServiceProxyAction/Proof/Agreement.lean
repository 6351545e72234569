import GUPnP.ServiceProxyAction.Proof.Sending

/-!
# Synchronous and asynchronous calls

Both calls bring the action to the state in which the last response was received (`Settles`), and
there both of them, or the first query, run `checkResponse`. What is left of the difference is that
a synchronous call clears the proxy of the action: an iterator over its results does not know the
introspection and shows every value as a string.

They also take a POST that was redirected and then refused for a different thing. The synchronous
call tries an M-POST, the task looks at the method the message has now and gives up.
-/

set_option autoImplicit false

namespace GUPnP.ServiceProxyAction

open Xml

variable {env : Env} {proxy : ServiceInfo} {action action' : Action} {method : Str}

/-! ## Agreement -/

/-- Two calls agree: both succeed or both fail with an error of the same domain and code, and
afterwards any queries show the same of their actions. -/
def Agree (env : Env) (call call' : Call) : Prop :=
  match call, call' with
  | .crashed, .crashed => True
  | .returned error action, .returned error' action' =>
    error.map Error.kind = error'.map Error.kind ∧
      ∀ queries, askAll env queries action = askAll env queries action'
  | _, _ => False

/-! ## When calls agree -/

/-- If this response is a result, an iterator shows all of it as strings. -/
def ReadsAsStrings (env : Env) (proxy : ServiceInfo) (name : Str) (response : Response) : Prop :=
  ∀ reasonPhrase redirected body document params,
    response = .received 200 reasonPhrase redirected body →
    env.xmlReadMemory body = some document →
    parameterList document = some (some params) →
    Untyped proxy name params

section
variable {name : Str} {response : Response} {checked : Action} {error : Option Error}

/-- A call that fails agrees with the synchronous one, and its response is no result. -/
theorem agree_of_failed {e : Error} (h : Sent proxy method name response action)
    (hcheck : checkResponse env action = some checked) (herror : checked.error = some e)
    (hkind : error.map Error.kind = checked.error.map Error.kind)
    (hask : ∀ queries, askAll env queries action' = askAll env queries checked) :
    Agree env (callActionOut checked) (.returned error action') ↔
      ReadsAsStrings env proxy name response := by
  have hout : callActionOut checked = .returned (some e) checked := by
    unfold callActionOut
    rw [herror]
  rw [hout]
  refine ⟨fun _ reasonPhrase redirected body document params hr hx hfound => ?_, fun _ => ?_⟩
  · subst hr
    obtain ⟨_, hgood, hnone, -⟩ := succeeded_of_response h hx hfound
    obtain rfl := Option.some.inj (hcheck.symm.trans hgood)
    cases herror.symm.trans hnone
  · exact ⟨by rw [hkind, herror], fun queries => (hask queries).symm⟩

/-- A call that succeeds agrees with the synchronous one if and only if its result reads as
strings. -/
theorem agree_of_succeeded (h : Sent proxy method name response action)
    (hcheck : checkResponse env action = some checked) (herror : checked.error = none)
    (hkind : error.map Error.kind = checked.error.map Error.kind)
    (hask : ∀ queries, askAll env queries action' = askAll env queries checked) :
    Agree env (callActionOut checked) (.returned error action') ↔
      ReadsAsStrings env proxy name response := by
  have hout : callActionOut checked = .returned none { checked with proxy := none } := by
    unfold callActionOut
    rw [herror]
  obtain ⟨reasonPhrase, redirected, body, document, params, hr, hx, hfound, hparams⟩ :=
    response_of_succeeded h hcheck herror
  have hstate := checkResponse_checked hcheck
  have hp : checked.pending = false := hstate.pending.trans h.pending
  have hproxy : checked.proxy.bind ServiceInfo.introspection = proxy.introspection := by
    rw [hstate.proxy, h.proxy]
    rfl
  have hname : checked.name = name := hstate.name.trans h.name
  have hasync : Succeeded proxy.introspection name params checked :=
    ⟨hproxy, hname, hp, herror, hparams⟩
  have hsync : Succeeded none name params { checked with proxy := none } :=
    ⟨rfl, hname, hp, herror, hparams⟩
  have hiff := askAll_iff env hasync hsync
  rw [hout]
  constructor
  · intro ⟨_, hsame⟩ _ _ _ _ _ hr' hx' hfound'
    rw [hr] at hr'
    injection hr' with _ _ _ hbody
    subst hbody
    obtain rfl := Option.some.inj (hx.symm.trans hx')
    obtain rfl := Option.some.inj (Option.some.inj (hfound.symm.trans hfound'))
    exact hiff.1 fun queries => (hsame queries).trans (hask queries)
  · intro hstrings
    refine ⟨by rw [hkind, herror], fun queries => ?_⟩
    rw [hask queries]
    exact hiff.2 (hstrings _ _ _ _ _ hr hx hfound) queries

/-- A call that settles agrees with the synchronous one if and only if its result reads as strings. -/
theorem agree_of_settles {call : Call} (h : Sent proxy method name response action)
    (hset : Settles env action call) :
    Agree env (settled env action) call ↔ ReadsAsStrings env proxy name response := by
  unfold Settles at hset
  unfold settled
  cases hcheck : checkResponse env action with
  | none =>
    rw [hcheck] at hset
    subst hset
    refine ⟨fun _ reasonPhrase redirected body document params hr hx hfound => ?_, fun _ => trivial⟩
    subst hr
    obtain ⟨checked, hgood, -⟩ := succeeded_of_response h hx hfound
    cases hcheck.symm.trans hgood
  | some checked =>
    rw [hcheck] at hset
    obtain ⟨error, action', rfl, hpending, hcheck', hkind⟩ := hset
    have hask : ∀ queries, askAll env queries action' = askAll env queries checked :=
      askAll_of_checkResponse hcheck' hpending
    cases herror : checked.error with
    | some e => exact agree_of_failed h hcheck herror hkind hask
    | none => exact agree_of_succeeded h hcheck herror hkind hask

end

/-- A call that was refused agrees with the synchronous one if and only if that was refused, too. -/
theorem agree_of_refused {name : Str} {response : Response} {refused checked : Action} {call : Call}
    {error : Error} (h : Sent proxy method name response action) (hset : Settles env refused call)
    (hcheck : checkResponse env refused = some checked) (herror : checked.error = some error)
    (hkind : error.kind = (.server, ServerError.other.toCode)) :
    Agree env (settled env action) call ↔ Refuses response := by
  unfold Settles at hset
  rw [hcheck] at hset
  obtain ⟨_, action', rfl, hpending, hcheck', hcall⟩ := hset
  rw [herror, Option.map_some, hkind] at hcall
  rw [refuses_iff env h]
  unfold settled
  cases hsync : checkResponse env action with
  | none =>
    constructor
    · exact False.elim
    · intro ⟨_, _, hsome, _⟩
      cases hsome
  | some synced =>
    have hp : synced.pending = false := (checkResponse_checked hsync).pending.trans h.pending
    dsimp only [callActionOut]
    cases he : synced.error with
    | none =>
      constructor
      · intro hagree
        cases hagree.1.trans hcall
      · intro ⟨_, e, hsome, he', _⟩
        obtain rfl := Option.some.inj hsome
        cases he.symm.trans he'
    | some e =>
      constructor
      · intro hagree
        exact ⟨synced, e, rfl, he, Option.some.inj (hagree.1.trans hcall)⟩
      · intro ⟨_, e', hsome, he', hkind'⟩
        obtain rfl := Option.some.inj hsome
        obtain rfl := Option.some.inj (he.symm.trans he')
        refine ⟨by rw [hcall, Option.map_some, hkind'], fun queries => ?_⟩
        have hpc : checked.pending = false := (checkResponse_checked hcheck').pending.trans hpending
        rw [askAll_of_checkResponse hcheck' hpending, askAll_of_error he hp,
          askAll_of_error herror hpc, hkind, hkind']

/-- When the two ways to call an action agree. -/
def AgreeWhen (env : Env) (proxy : ServiceInfo) (name : Str) (post mPost : Response) : Prop :=
  proxy.serviceType = none ∨ proxy.controlUrl = none ∨
    if post.status = some 405 then
      if post.wasRedirected then Refuses mPost else ReadsAsStrings env proxy name mPost
    else ReadsAsStrings env proxy name post

section
variable {post mPost : Response}

/-- The two ways to call an action. -/
def AgreeOn (env : Env) (proxy : ServiceInfo) (post mPost : Response) (action : Action) : Prop :=
  Agree env (callAction env proxy post mPost action)
    (callActionAsyncFinish env proxy [post, mPost] action)

/-- No message is sent. -/
theorem agree_of_missing (h : action.pending = false)
    (hmissing : proxy.serviceType = none ∨ proxy.controlUrl = none) :
    AgreeOn env proxy post mPost action := by
  obtain ⟨-, error, hprep⟩ | ⟨hthere, -⟩ :=
    prepareActionMsg_cases env proxy "POST".toList h
  · have hsync : callAction env proxy post mPost action = .returned (some error) (reset action) := by
      unfold callAction
      rw [h, hprep]
      rfl
    have hasync : callActionAsyncFinish env proxy [post, mPost] action =
        .returned (some error) (reset action) := by
      unfold callActionAsyncFinish callActionAsync
      rw [hprep]
      have hself : setPending false (reset action) = reset action := setPending_self h
      exact congrArg (Call.returned _) hself
    unfold AgreeOn
    rw [hsync, hasync]
    exact ⟨rfl, fun _ => rfl⟩
  · exact absurd hmissing hthere

theorem callActionAsyncFinish_of_ready {ready : Action}
    (h : prepareActionMsg env proxy "POST".toList action = (ready, none)) :
    callActionAsyncFinish env proxy [post, mPost] action = callActionFinish
      (Call.step env (actionTaskGotResponse env post (setPending true ready)) mPost) := by
  unfold callActionAsyncFinish callActionAsync
  rw [h]
  rfl

/-- The response to the POST is the last one. -/
theorem agree_of_allowed (h : action.pending = false)
    (hthere : ¬ (proxy.serviceType = none ∨ proxy.controlUrl = none))
    (hpost : post.status ≠ some 405) :
    AgreeOn env proxy post mPost action ↔ ReadsAsStrings env proxy action.name post := by
  obtain ⟨hmissing, -⟩ | ⟨-, ready, hprep, hready⟩ :=
    prepareActionMsg_cases env proxy "POST".toList h
  · exact absurd hmissing hthere
  have hset := settles_of_final env post hready
    fun hstatus => absurd hstatus hpost
  unfold AgreeOn
  rw [callAction_of_allowed h hprep hready hpost, callActionAsyncFinish_of_ready hprep,
    step_of_settles hset]
  exact agree_of_settles (hready.sent post) hset

/-- The POST is not allowed. -/
theorem agree_of_notAllowed (h : action.pending = false)
    (hthere : ¬ (proxy.serviceType = none ∨ proxy.controlUrl = none))
    (hpost : post.status = some 405) :
    AgreeOn env proxy post mPost action ↔
      if post.wasRedirected then Refuses mPost else ReadsAsStrings env proxy action.name mPost := by
  obtain ⟨hmissing, -⟩ | ⟨-, ready, hprep, hready⟩ :=
    prepareActionMsg_cases env proxy "POST".toList h
  · exact absurd hmissing hthere
  have hsent := hready.sent post
  have hname : (sendAndRead post ready).name = action.name := hsent.name
  obtain ⟨hmissing, -⟩ | ⟨-, ready', hprep', hready'⟩ := prepareActionMsg_cases env
    proxy "M-POST".toList hsent.pending
  · exact absurd hmissing hthere
  rw [hname] at hready'
  unfold AgreeOn
  rw [callAction_of_notAllowed h hprep hready hpost hprep' hready',
    callActionAsyncFinish_of_ready hprep]
  by_cases hredirected : post.wasRedirected
  · rw [if_pos hredirected]
    have hset := settles_of_final env post hready fun _ => .inl hredirected
    rw [step_of_settles hset]
    cases post with
    | failed error => cases hpost
    | received status reasonPhrase redirected body =>
      obtain rfl : status = 405 := Option.some.inj hpost
      exact agree_of_refused (hready'.sent mPost) hset
        (checkResponse_of_status hsent (by omega)) rfl rfl
  · rw [if_neg hredirected, actionTaskGotResponse_of_notAllowed hready hpost hredirected hprep']
    have hset := settles_of_final env mPost hready' fun _ => .inr (by decide)
    exact agree_of_settles (hready'.sent mPost) hset

end

/-- The two ways to call an action agree if and only if a proxy that is introspected has all results
as strings, or the call fails; a redirected POST that is not allowed has to be refused again. -/
theorem calls_agree (env : Env) (proxy : ServiceInfo) (post mPost : Response) (action : Action)
    (h : action.pending = false) :
    Agree env (callAction env proxy post mPost action)
        (callActionAsyncFinish env proxy [post, mPost] action) ↔
      AgreeWhen env proxy action.name post mPost := by
  show AgreeOn env proxy post mPost action ↔ _
  by_cases hmissing : proxy.serviceType = none ∨ proxy.controlUrl = none
  · refine ⟨fun _ => ?_, fun _ => agree_of_missing h hmissing⟩
    rcases hmissing with hmissing | hmissing
    · exact .inl hmissing
    · exact .inr (.inl hmissing)
  · have hagree : AgreeOn env proxy post mPost action ↔
        if post.status = some 405 then
          if post.wasRedirected then Refuses mPost else ReadsAsStrings env proxy action.name mPost
        else ReadsAsStrings env proxy action.name post := by
      by_cases hpost : post.status = some 405
      · rw [if_pos hpost]
        exact agree_of_notAllowed h hmissing hpost
      · rw [if_neg hpost]
        exact agree_of_allowed h hmissing hpost
    rw [hagree, AgreeWhen, ← or_assoc, or_iff_right hmissing]

/-! ## A volume that is a number -/

/-- The document of a response to `GetVolume`. -/
def volumeDocument : Node :=
  .document [.element "Envelope".toList [] [.element "Body".toList []
    [.element "GetVolumeResponse".toList []
      [.element "CurrentVolume".toList [] [.text ['5']]]]]]

def volumeBody : Str :=
  "<Envelope><Body><GetVolumeResponse>".toList ++ "<CurrentVolume>5</CurrentVolume>".toList ++
    "</GetVolumeResponse></Body></Envelope>".toList

/-- What the environment of the call makes of its response. -/
def volumeEnv : Env where
  toGLib := .plain
  xmlReadMemory := fun data => if data = volumeBody then some volumeDocument else none
  acceptLanguage := none

/-- A proxy that is introspected: the volume is a `ui2`. -/
def volumeProxy : ServiceInfo where
  serviceType := some "urn:schemas-upnp-org:service:RenderingControl:1".toList
  controlUrl := some "http://127.0.0.1/control".toList
  introspection := some
    ⟨[⟨"Volume".toList, .uint⟩],
      [⟨"GetVolume".toList, [⟨"CurrentVolume".toList, "Volume".toList⟩]⟩]⟩

def volumeResponse : Response := .received 200 "OK".toList false volumeBody

theorem calls_agree_sample :
    (newPlain "GetVolume".toList).pending = false ∧
      (Agree volumeEnv
        (callAction volumeEnv volumeProxy volumeResponse volumeResponse (newPlain "GetVolume".toList))
        (callActionAsyncFinish volumeEnv volumeProxy [volumeResponse, volumeResponse]
          (newPlain "GetVolume".toList)) ↔
      AgreeWhen volumeEnv volumeProxy "GetVolume".toList volumeResponse volumeResponse) :=
  ⟨rfl, calls_agree volumeEnv volumeProxy volumeResponse volumeResponse _ rfl⟩

/-- After a synchronous call the volume is the string `5`, after an asynchronous one the number. -/
theorem calls_differ :
    ¬ Agree volumeEnv
      (callAction volumeEnv volumeProxy volumeResponse volumeResponse (newPlain "GetVolume".toList))
      (callActionAsyncFinish volumeEnv volumeProxy [volumeResponse, volumeResponse]
        (newPlain "GetVolume".toList)) := by
  intro h
  have hthere : ¬ (volumeProxy.serviceType = none ∨ volumeProxy.controlUrl = none) := by
    intro hmissing
    rcases hmissing with hmissing | hmissing <;> cases hmissing
  have hpost : volumeResponse.status ≠ some 405 := by
    show (some 200 : Option Nat) ≠ some 405
    decide
  have hiff : AgreeOn volumeEnv volumeProxy volumeResponse volumeResponse
      (newPlain "GetVolume".toList) ↔
        ReadsAsStrings volumeEnv volumeProxy "GetVolume".toList volumeResponse :=
    agree_of_allowed rfl hthere hpost
  unfold AgreeOn at hiff
  rw [hiff] at h
  have hread : volumeEnv.xmlReadMemory volumeBody = some volumeDocument := by
    show (if volumeBody = volumeBody then some volumeDocument else none) = some volumeDocument
    exact if_pos rfl
  have hstring := h "OK".toList false volumeBody volumeDocument _ rfl hread rfl _ rfl _
    List.mem_cons_self
  exact absurd hstring (by decide)

end GUPnP.ServiceProxyAction
