import GUPnP.ServiceProxyAction.Proof.Results

/-!
# What the two calls do with the responses

The synchronous call and the task send the same messages: the POST and, where it is not allowed, the
M-POST (`callAction_of_notAllowed`, `actionTaskGotResponse_of_notAllowed`). With the last response the
synchronous call is `settled` and the task `Settles` (`settles_of_final`). What the last response
makes of a call is in `checkResponse_of_status`, `checkResponse_of_read` and `refuses_iff`.
-/

set_option autoImplicit false

namespace GUPnP.ServiceProxyAction

open Xml

variable {env : Env} {proxy : ServiceInfo} {action : Action} {method : Str}

/-! ## The pending flag -/

/-- The action with this pending flag. -/
def setPending (pending : Bool) (action : Action) : Action := { action with pending := pending }

theorem setPending_self {p : Bool} (h : action.pending = p) : setPending p action = action := by
  obtain rfl := h
  rfl

theorem setPending_setPending {p q : Bool} (h : action.pending = p) :
    setPending p (setPending q action) = action := setPending_self h

theorem sendAndRead_setPending (response : Response) (p : Bool) (action : Action) :
    sendAndRead response (setPending p action) = setPending p (sendAndRead response action) := by
  cases response <;> rfl

theorem prepareActionMsg_setPending (p : Bool) (action : Action) :
    prepareActionMsg env proxy method (setPending p action) =
      (setPending p (prepareActionMsg env proxy method action).1,
        (prepareActionMsg env proxy method action).2) := by
  unfold prepareActionMsg
  cases proxy.serviceType with
  | none => rfl
  | some serviceType => cases proxy.controlUrl <;> rfl

/-- A new message does not depend on the response the action still has. -/
theorem prepareActionMsg_clear (action : Action) :
    prepareActionMsg env proxy method { action with response := none } =
      prepareActionMsg env proxy method action := rfl

theorem checkResponse_setPending (p : Bool) (action : Action) :
    checkResponse env (setPending p action) =
      (checkResponse env action).map (setPending p) := by
  obtain ⟨aproxy, name, headerPos, msg, response, msgStr, error, args, argMap, pending, params⟩ :=
    action
  unfold checkResponse
  cases params with
  | some params => rfl
  | none =>
  cases error with
  | some error => rfl
  | none =>
  cases msg with
  | none => rfl
  | some msg =>
  cases response with
  | none => rfl
  | some data =>
  simp only [setPending, Option.isSome_none, Bool.false_eq_true, ↓reduceIte]
  split
  · rfl
  cases env.xmlReadMemory data with
  | none => dsimp only; split <;> rfl
  | some response =>
    dsimp only
    cases parameterList response with
    | none => rfl
    | some found =>
      cases found with
      | none => rfl
      | some params =>
        simp only [Option.bind_eq_bind, Option.bind_some]
        split <;> rfl

/-! ## Sending a message -/

/-- An action whose message is ready to be sent. -/
structure Prepared (proxy : ServiceInfo) (method name : Str) (action : Action) : Prop where
  proxy : action.proxy = some proxy
  name : action.name = name
  pending : action.pending = false
  error : action.error = none
  params : action.params = none
  response : action.response = none
  msg : ∃ msg, action.msg = some msg ∧ msg.method = method

/-- `prepareActionMsg` fails where the proxy lacks its service type or its control URL, and else the
message is ready. -/
theorem prepareActionMsg_cases (env : Env) (proxy : ServiceInfo) (method : Str)
    (h : action.pending = false) :
    ((proxy.serviceType = none ∨ proxy.controlUrl = none) ∧
      ∃ error, prepareActionMsg env proxy method action = (reset action, some error)) ∨
    (¬ (proxy.serviceType = none ∨ proxy.controlUrl = none) ∧
      ∃ ready, prepareActionMsg env proxy method action = (ready, none) ∧
        Prepared proxy method action.name ready) := by
  unfold prepareActionMsg
  cases hs : proxy.serviceType with
  | none => exact .inl ⟨.inl rfl, _, rfl⟩
  | some serviceType =>
    cases hc : proxy.controlUrl with
    | none => exact .inl ⟨.inr rfl, _, rfl⟩
    | some controlUrl =>
      refine .inr ⟨fun hn => ?_, _, rfl, ⟨rfl, rfl, h, rfl, rfl, rfl, _, rfl, rfl⟩⟩
      rcases hn with hn | hn <;> cases hn

/-- An action whose message was sent, with what the session reported. -/
structure Sent (proxy : ServiceInfo) (method name : Str) (response : Response) (action : Action) :
    Prop where
  proxy : action.proxy = some proxy
  name : action.name = name
  pending : action.pending = false
  params : action.params = none
  answer : match response with
    | .failed error => action.error = some error
    | .received status reasonPhrase redirected body =>
      action.error = none ∧ action.response = some body ∧
        ∃ msg : Message, msg.method = method ∧
          action.msg = some (msg.receive status reasonPhrase redirected)

theorem Prepared.sent {name : Str} (h : Prepared proxy method name action) (response : Response) :
    Sent proxy method name response (sendAndRead response action) := by
  obtain ⟨msg, hmsg, hmethod⟩ := h.msg
  cases response with
  | failed error => exact ⟨h.proxy, h.name, h.pending, h.params, rfl⟩
  | received status reasonPhrase redirected body =>
    refine ⟨h.proxy, h.name, h.pending, h.params, h.error, rfl, msg, hmethod, ?_⟩
    rw [sendAndRead, hmsg]
    rfl

theorem Sent.status {name : Str} {status : Nat} {reasonPhrase body : Str} {redirected : Bool}
    (h : Sent proxy method name (.received status reasonPhrase redirected body) action) :
    action.msg.map Message.status = some status := by
  obtain ⟨-, -, msg, -, hmsg⟩ := h.answer
  rw [hmsg]
  rfl

/-- After a redirection, and for another message than the POST, the method is not `POST`. -/
theorem Sent.method_ne_post {name : Str} {status : Nat} {reasonPhrase body : Str} {redirected : Bool}
    (h : Sent proxy method name (.received status reasonPhrase redirected body) action)
    (hother : redirected ∨ method ≠ "POST".toList) :
    action.msg.map Message.method ≠ some "POST".toList := by
  obtain ⟨-, -, msg, hmethod, hmsg⟩ := h.answer
  rw [hmsg]
  intro hsame
  have hsame := Option.some.inj hsame
  cases redirected with
  | true =>
    have hget : "GET".toList = "POST".toList := hsame
    exact absurd hget (by decide)
  | false =>
    rcases hother with hr | hm
    · cases hr
    · exact hm (hmethod.symm.trans hsame)

/-! ## The last response -/

/-- A response that is refused settles the action as a server error of the code `other`. -/
theorem checkResponse_of_status {name : Str} {status : Nat} {reasonPhrase body : Str}
    {redirected : Bool}
    (h : Sent proxy method name (.received status reasonPhrase redirected body) action)
    (hstatus : status ≠ 200 ∧ status ≠ 500) :
    checkResponse env action =
      some { action with error := some ((codeFromStatusCode status).error reasonPhrase) } := by
  obtain ⟨-, -, -, hparams, herror, hresponse, msg, -, hmsg⟩ := h
  unfold checkResponse
  rw [hparams, herror, hmsg, hresponse]
  exact if_pos hstatus

theorem kind_ne_other {e : ServerError} (h : e ≠ .other) (message : Str) :
    (e.error message).kind ≠ (.server, ServerError.other.toCode) := by
  intro hkind
  have hcode : e.toCode = ServerError.other.toCode := congrArg Prod.snd hkind
  cases e with
  | other => exact h rfl
  | _ => exact absurd hcode (by decide)

theorem kind_faultOf (params : Node) (reasonPhrase : Str) :
    (faultOf params reasonPhrase).kind ≠ (.server, ServerError.other.toCode) := by
  unfold faultOf
  split
  · exact kind_ne_other (by decide) _
  dsimp only
  split
  · exact kind_ne_other (by decide) _
  · intro h
    cases congrArg Prod.fst h

/-- A response that is read ends in an error other than a refusal, or in the parameter element of a
response with status 200. -/
theorem checkResponse_of_read {name : Str} {status : Nat} {reasonPhrase body : Str}
    {redirected : Bool} {checked : Action}
    (h : Sent proxy method name (.received status reasonPhrase redirected body) action)
    (hstatus : status = 200 ∨ status = 500) (hcheck : checkResponse env action = some checked) :
    (∃ error, checked.error = some error ∧ error.kind ≠ (.server, ServerError.other.toCode)) ∨
      (status = 200 ∧ checked.error = none ∧ ∃ document params,
        env.xmlReadMemory body = some document ∧ parameterList document = some (some params) ∧
        checked.params = some params) := by
  obtain ⟨herror, hresponse, msg, -, hmsg⟩ := h.answer
  have hread : ¬ (status ≠ 200 ∧ status ≠ 500) := by omega
  have hs : (msg.receive status reasonPhrase redirected).status = status := rfl
  unfold checkResponse at hcheck
  rw [h.params, herror, hmsg, hresponse] at hcheck
  simp only [Option.isSome_none, Bool.false_eq_true, ↓reduceIte, hs, hread] at hcheck
  cases hx : env.xmlReadMemory body with
  | none =>
    rw [hx] at hcheck
    dsimp only at hcheck
    split at hcheck <;> obtain rfl := Option.some.inj hcheck
    · exact .inl ⟨_, rfl, kind_ne_other (by decide) _⟩
    · exact .inl ⟨_, rfl, kind_ne_other (by decide) _⟩
  | some document =>
    rw [hx] at hcheck
    obtain ⟨found, hfound, hcheck⟩ := Option.bind_eq_some_iff.1 hcheck
    cases found with
    | none =>
      obtain rfl := Option.some.inj hcheck
      exact .inl ⟨_, rfl, kind_ne_other (by decide) _⟩
    | some params =>
      dsimp only at hcheck
      split at hcheck <;> obtain rfl := Option.some.inj hcheck
      · exact .inl ⟨_, rfl, kind_faultOf params _⟩
      · exact .inr ⟨by omega, rfl, document, params, rfl, hfound, rfl⟩

/-- A call succeeds only if its last response has status 200 and a parameter element. -/
theorem response_of_succeeded {name : Str} {response : Response} {checked : Action}
    (h : Sent proxy method name response action) (hcheck : checkResponse env action = some checked)
    (herror : checked.error = none) :
    ∃ reasonPhrase redirected body document params,
      response = .received 200 reasonPhrase redirected body ∧
      env.xmlReadMemory body = some document ∧ parameterList document = some (some params) ∧
      checked.params = some params := by
  cases response with
  | failed error =>
    have hfailed : action.error = some error := h.answer
    rw [checkResponse_of_done (.inr (by rw [hfailed]; rfl))] at hcheck
    obtain rfl := Option.some.inj hcheck
    cases hfailed.symm.trans herror
  | received status reasonPhrase redirected body =>
    by_cases hstatus : status ≠ 200 ∧ status ≠ 500
    · rw [checkResponse_of_status h hstatus] at hcheck
      obtain rfl := Option.some.inj hcheck
      cases herror
    · rcases checkResponse_of_read h (by omega) hcheck with ⟨error, he, -⟩ | ⟨h200, -, hgood⟩
      · cases he.symm.trans herror
      · obtain ⟨document, params, hx, hfound, hparams⟩ := hgood
        subst h200
        exact ⟨reasonPhrase, redirected, body, document, params, rfl, hx, hfound, hparams⟩

/-- A response with status 200 and a parameter element makes the call succeed. -/
theorem succeeded_of_response {name : Str} {reasonPhrase body : Str} {redirected : Bool}
    {document params : Node}
    (h : Sent proxy method name (.received 200 reasonPhrase redirected body) action)
    (hx : env.xmlReadMemory body = some document)
    (hfound : parameterList document = some (some params)) :
    ∃ checked, checkResponse env action = some checked ∧ checked.error = none ∧
      checked.params = some params := by
  obtain ⟨herror, hresponse, msg, -, hmsg⟩ := h.answer
  have hs : (msg.receive 200 reasonPhrase redirected).status = 200 := rfl
  refine ⟨{ action with response := none, params := some params }, ?_, herror, rfl⟩
  unfold checkResponse
  rw [h.params, herror, hmsg, hresponse]
  simp only [Option.isSome_none, Bool.false_eq_true, ↓reduceIte, hs, hx, hfound, Option.bind_eq_bind,
    Option.bind_some]
  rfl

/-- A response with status 500 and a parameter element is a fault. -/
theorem failed_of_response {name : Str} {reasonPhrase body : Str} {redirected : Bool}
    {document params : Node}
    (h : Sent proxy method name (.received 500 reasonPhrase redirected body) action)
    (hx : env.xmlReadMemory body = some document)
    (hfound : parameterList document = some (some params)) :
    ∃ checked, checkResponse env action = some checked ∧ checked.params = none ∧
      checked.error = some (faultOf params reasonPhrase) := by
  obtain ⟨herror, hresponse, msg, -, hmsg⟩ := h.answer
  have hs : (msg.receive 500 reasonPhrase redirected).status = 500 := rfl
  have hreason : (msg.receive 500 reasonPhrase redirected).reasonPhrase = reasonPhrase := rfl
  refine ⟨{ action with response := none, error := some (faultOf params reasonPhrase) }, ?_, h.params,
    rfl⟩
  unfold checkResponse
  rw [h.params, herror, hmsg, hresponse]
  simp only [Option.isSome_none, Bool.false_eq_true, ↓reduceIte, hs, hreason, hx, hfound,
    Option.bind_eq_bind, Option.bind_some]
  rfl

/-- The response refuses the message, as a server error of the code `other`. -/
def Refuses : Response → Prop
  | .failed error => error.kind = (.server, ServerError.other.toCode)
  | .received status _ _ _ => status ≠ 200 ∧ status ≠ 404 ∧ status ≠ 500 ∧ status ≠ 501

theorem codeFromStatusCode_eq_other {status : Nat} (hstatus : status ≠ 200 ∧ status ≠ 500) :
    codeFromStatusCode status = .other ↔
      status ≠ 200 ∧ status ≠ 404 ∧ status ≠ 500 ∧ status ≠ 501 := by
  unfold codeFromStatusCode
  rw [if_neg hstatus.2]
  constructor
  · intro h
    split at h
    · cases h
    split at h
    · cases h
    · omega
  · intro h
    rw [if_neg (by omega), if_neg (by omega)]

theorem refuses_iff (env : Env) {name : Str} {response : Response}
    (h : Sent proxy method name response action) :
    Refuses response ↔ ∃ checked error, checkResponse env action = some checked ∧
      checked.error = some error ∧ error.kind = (.server, ServerError.other.toCode) := by
  cases response with
  | failed error =>
    have hfailed : action.error = some error := h.answer
    have hcheck : checkResponse env action = some action :=
      checkResponse_of_done (.inr (by rw [hfailed]; rfl))
    constructor
    · intro hr
      exact ⟨action, error, hcheck, hfailed, hr⟩
    · intro ⟨checked, e, hcheck', he, hkind⟩
      obtain rfl := Option.some.inj (hcheck.symm.trans hcheck')
      obtain rfl := Option.some.inj (hfailed.symm.trans he)
      exact hkind
  | received status reasonPhrase redirected body =>
    by_cases hstatus : status ≠ 200 ∧ status ≠ 500
    · rw [checkResponse_of_status h hstatus]
      refine Iff.trans (codeFromStatusCode_eq_other hstatus).symm ?_
      constructor
      · intro hcode
        exact ⟨_, _, rfl, rfl, by rw [hcode]; rfl⟩
      · intro ⟨checked, error, hchecked, he, hkind⟩
        obtain rfl := Option.some.inj hchecked
        obtain rfl := Option.some.inj he
        by_contra hcode
        exact kind_ne_other hcode reasonPhrase hkind
    · constructor
      · intro hr
        exact absurd ⟨hr.1, hr.2.2.1⟩ hstatus
      · intro ⟨checked, error, hcheck, he, hkind⟩
        rcases checkResponse_of_read h (by omega) hcheck with ⟨e, he', hne⟩ | ⟨-, hnone, -⟩
        · obtain rfl := Option.some.inj (he.symm.trans he')
          exact absurd hkind hne
        · cases he.symm.trans hnone

/-! ## Where a call ends -/

/-- The synchronous call after its last response. -/
def settled (env : Env) (action : Action) : Call :=
  match checkResponse env action with
  | none => .crashed
  | some action => callActionOut action

/-- A call has ended in the state of an action after its last response, as far as queries and the
kind of the error tell. -/
def Settles (env : Env) (action : Action) (call : Call) : Prop :=
  match checkResponse env action with
  | none => call = .crashed
  | some checked => ∃ error action', call = .returned error action' ∧ action'.pending = false ∧
      checkResponse env action' = some checked ∧
      error.map Error.kind = checked.error.map Error.kind

/-- The task ends with the response it does not send another message after. -/
theorem settles_of_final (env : Env) {name : Str} (response : Response)
    (hprep : Prepared proxy method name action)
    (hfinal : response.status = some 405 → response.wasRedirected ∨ method ≠ "POST".toList) :
    Settles env (sendAndRead response action)
      (callActionFinish (actionTaskGotResponse env response (setPending true action))) := by
  have hsent := hprep.sent response
  generalize hs : sendAndRead response action = s at hsent ⊢
  have hback : setPending false (setPending true s) = s := setPending_setPending hsent.pending
  unfold Settles actionTaskGotResponse
  rw [sendAndRead_setPending, hs]
  cases response with
  | failed error =>
    have herror : s.error = some error := hsent.answer
    have hcheck : checkResponse env s = some s :=
      checkResponse_of_done (.inr (by rw [herror]; rfl))
    rw [hcheck]
    refine ⟨some error, s, ?_, hsent.pending, hcheck, by rw [herror]⟩
    exact congrArg (Call.returned (some error)) hback
  | received status reasonPhrase redirected body =>
    dsimp only
    have hstatus : (setPending true s).msg.map Message.status = some status := hsent.status
    unfold actionTaskGotStatus
    rw [hstatus]
    by_cases h405 : status = 405
    · subst h405
      have hother : (setPending true s).msg.map Message.method ≠ some "POST".toList :=
        hsent.method_ne_post (hfinal rfl)
      have hcheck : checkResponse env s =
          some { s with error := some ((codeFromStatusCode 405).error reasonPhrase) } :=
        checkResponse_of_status hsent (by omega)
      rw [if_pos rfl, if_neg hother, hcheck]
      exact ⟨_, s, congrArg (Call.returned _) hback, hsent.pending, hcheck, rfl⟩
    · rw [if_neg fun h => h405 (Option.some.inj h), checkResponse_setPending]
      cases hcheck : checkResponse env s with
      | none => rfl
      | some checked =>
        have hp : checked.pending = false := (checkResponse_checked hcheck).pending.trans hsent.pending
        refine ⟨checked.error, checked, ?_, hp, checkResponse_idem hcheck, rfl⟩
        exact congrArg (Call.returned _) (setPending_setPending hp)

/-- A call settles only after it has ended. -/
theorem step_of_settles {call : Call} (h : Settles env action (callActionFinish call))
    (response : Response) : Call.step env call response = call := by
  cases call with
  | waiting action' =>
    unfold Settles at h
    split at h
    · cases h
    · obtain ⟨_, _, h, -⟩ := h
      cases h
  | _ => rfl

theorem settled_of_error (h : action.error.isSome) : settled env action = callActionOut action := by
  unfold settled
  rw [checkResponse_of_done (.inr h)]

/-- A synchronous call ends where its last response settles it. -/
theorem callAction_of_ready {post mPost : Response} {ready : Action} (hp : action.pending = false)
    (h : prepareActionMsg env proxy "POST".toList action = (ready, none)) :
    callAction env proxy post mPost action =
      settled env (if (sendAndRead post ready).error.isSome then sendAndRead post ready
        else callActionRetry env proxy mPost (sendAndRead post ready)) := by
  unfold callAction
  rw [hp, h]
  simp only [Bool.false_eq_true, ↓reduceIte]
  split
  · rename_i herror
    exact (settled_of_error herror).symm
  split
  · rename_i herror
    exact (settled_of_error herror).symm
  · rfl

theorem response_eq_self (h : action.response = none) : { action with response := none } = action := by
  obtain ⟨_, _, _, _, _, _, _, _, _, _, _⟩ := action
  subst h
  rfl

/-- The first response of a call that is not tried again. -/
theorem callAction_of_allowed {post mPost : Response} {ready : Action} (hp : action.pending = false)
    (h : prepareActionMsg env proxy "POST".toList action = (ready, none))
    (hready : Prepared proxy "POST".toList action.name ready) (hpost : post.status ≠ some 405) :
    callAction env proxy post mPost action = settled env (sendAndRead post ready) := by
  rw [callAction_of_ready hp h]
  split
  · rfl
  · rename_i herror
    have hsent := hready.sent post
    cases post with
    | failed error =>
      have hfailed : (sendAndRead (.failed error) ready).error = some error := hsent.answer
      rw [hfailed] at herror
      exact absurd rfl herror
    | received status reasonPhrase redirected body =>
      have hstatus : (some status : Option Nat) ≠ some 405 := hpost
      unfold callActionRetry
      rw [hsent.status, if_neg hstatus]

/-- The message a call tries again with, after a POST that is not allowed. -/
theorem callAction_of_notAllowed {post mPost : Response} {ready ready' : Action}
    (hp : action.pending = false)
    (h : prepareActionMsg env proxy "POST".toList action = (ready, none))
    (hready : Prepared proxy "POST".toList action.name ready) (hpost : post.status = some 405)
    (h' : prepareActionMsg env proxy "M-POST".toList (sendAndRead post ready) = (ready', none))
    (hready' : Prepared proxy "M-POST".toList action.name ready') :
    callAction env proxy post mPost action = settled env (sendAndRead mPost ready') := by
  have hsent := hready.sent post
  rw [callAction_of_ready hp h]
  cases post with
  | failed error => cases hpost
  | received status reasonPhrase redirected body =>
    have hstatus : (some status : Option Nat) = some 405 := hpost
    rw [hsent.answer.1, if_neg (by decide)]
    unfold callActionRetry
    rw [hsent.status, if_pos hstatus, h']
    dsimp only
    rw [response_eq_self hready'.response]

/-- The task sends the same message again. -/
theorem actionTaskGotResponse_of_notAllowed {post : Response} {ready ready' : Action}
    (hready : Prepared proxy "POST".toList action.name ready) (hpost : post.status = some 405)
    (hredirected : ¬ post.wasRedirected)
    (h' : prepareActionMsg env proxy "M-POST".toList (sendAndRead post ready) = (ready', none)) :
    actionTaskGotResponse env post (setPending true ready) = .waiting (setPending true ready') := by
  have hsent := hready.sent post
  unfold actionTaskGotResponse
  rw [sendAndRead_setPending]
  cases post with
  | failed error => cases hpost
  | received status reasonPhrase redirected body =>
    generalize sendAndRead (.received status reasonPhrase redirected body) ready = s at hsent h' ⊢
    obtain ⟨-, -, msg, hmethod, hmsg⟩ := hsent.answer
    have hstatus : (setPending true s).msg.map Message.status = some 405 :=
      hsent.status.trans hpost
    have hsame : (setPending true s).msg.map Message.method = some "POST".toList := by
      show s.msg.map _ = _
      rw [hmsg, ← hmethod]
      exact congrArg some (if_neg hredirected)
    have hproxy : (setPending true s).proxy = some proxy := hsent.proxy
    dsimp only
    unfold actionTaskGotStatus
    rw [if_pos hstatus, if_pos hsame]
    split
    · rename_i hnone
      cases hproxy.symm.trans hnone
    · rename_i found hfound
      obtain rfl := Option.some.inj (hproxy.symm.trans hfound)
      rw [prepareActionMsg_clear, prepareActionMsg_setPending, h']
      rfl

end GUPnP.ServiceProxyAction
