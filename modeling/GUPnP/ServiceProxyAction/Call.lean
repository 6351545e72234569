import GUPnP.ServiceProxyAction.Model

/-!
# Calling an action (`gupnp-service-proxy.c`)

The two ways to call an action: `callAction` waits for the responses itself, while
`callActionAsync` starts a task, a state machine that takes one step for each response
(`actionTaskGotResponse`) until it returns. Both send a POST and, where the server does not allow
that, an M-POST. The proxy lives until the call has returned, and no call is cancelled.
-/

set_option autoImplicit false

namespace GUPnP.ServiceProxyAction

/-- What the session reports for a message: an error, or a response. A redirection may have turned
the request into a GET. -/
inductive Response where
  | failed (error : Error)
  | received (status : Nat) (reasonPhrase : Str) (redirected : Bool) (body : Str)
  deriving DecidableEq, Repr

/-- The status of a response, if it is one. -/
def Response.status : Response → Option Nat
  | failed _ => none
  | received status _ _ _ => some status

/-- Whether the message was redirected on its way to this response. -/
def Response.wasRedirected : Response → Bool
  | failed _ => false
  | received _ _ redirected _ => redirected

/-- Where a call stands. A call that has returned without an error returned the action, and one that
was `refused` returned `NULL` without an error. -/
inductive Call where
  | waiting (action : Action)
  | returned (error : Option Error) (action : Action)
  | refused (action : Action)
  | crashed

section
variable (env : Env)

/-- The headers of a request. -/
def requestHeaders (serviceType : Str) (action : Action) (method : Str) : List (Str × Str) :=
  let fullAction := ['"'] ++ serviceType ++ ['#'] ++ action.name ++ ['"']
  (if method = "POST".toList then [("SOAPAction".toList, fullAction)]
    else [("s-SOAPAction".toList, fullAction),
      ("Man".toList, "\"http://schemas.xmlsoap.org/soap/envelope/\"; ns=s".toList)]) ++
  (env.acceptLanguage.toList.map fun language => ("Accept-Language".toList, language)) ++
  [("Accept-Encoding".toList, "gzip".toList),
    ("Content-Type".toList, "text/xml; charset=\"utf-8\"".toList)]

/-- `prepare_action_msg`: the action afterwards, and the error if it fails. -/
def prepareActionMsg (proxy : ServiceInfo) (method : Str) (action : Action) :
    Action × Option Error :=
  let action := reset action
  match proxy.serviceType with
  | none => (action, some (ServerError.other.error "No service type defined".toList))
  | some serviceType =>
    match proxy.controlUrl with
    | none => (action, some (ServerError.invalidUrl.error "No valid control URL defined".toList))
    | some controlUrl =>
      let action := serialize env.toGLib action serviceType
      ({ action with
          msg := some ⟨method, controlUrl, requestHeaders env serviceType action method,
            action.msgStr.getD [], 0, []⟩
          msgStr := none
          proxy := some proxy }, none)

/-- The message after its response. -/
def Message.receive (msg : Message) (status : Nat) (reasonPhrase : Str) (redirected : Bool) :
    Message :=
  { msg with status := status, reasonPhrase := reasonPhrase,
             method := if redirected then "GET".toList else msg.method }

/-- What `soup_session_send_and_read` leaves in the action: its response or its error. -/
def sendAndRead (response : Response) (action : Action) : Action :=
  match response with
  | .failed error => { action with response := none, error := some error }
  | .received status reasonPhrase redirected body =>
    { action with msg := action.msg.map (·.receive status reasonPhrase redirected)
                  response := some body }

/-! ## Synchronous calls -/

/-- The end of `gupnp_service_proxy_call_action`, from its label `out` on. -/
def callActionOut (action : Action) : Call :=
  match action.error with
  | some error => .returned (some error) action
  | none => .returned none { action with proxy := none }

/-- The part of `gupnp_service_proxy_call_action` that tries again. -/
def callActionRetry (proxy : ServiceInfo) (mPost : Response) (action : Action) : Action :=
  if action.msg.map Message.status = some 405 then
    match prepareActionMsg env proxy "M-POST".toList action with
    | (action, some error) => { action with error := some error }
    | (action, none) => sendAndRead mPost { action with response := none }
  else action

/-- `gupnp_service_proxy_call_action`, where the session reports `post` and then `mPost`. -/
def callAction (proxy : ServiceInfo) (post mPost : Response) (action : Action) : Call :=
  if action.pending then .refused action
  else
    match prepareActionMsg env proxy "POST".toList action with
    | (action, some error) => .returned (some error) action
    | (action, none) =>
      let action := sendAndRead post action
      if action.error.isSome then callActionOut action
      else
        let action := callActionRetry env proxy mPost action
        if action.error.isSome then callActionOut action
        else
          match checkResponse env action with
          | none => .crashed
          | some action => callActionOut action

/-! ## Asynchronous calls -/

/-- `gupnp_service_proxy_action_queue_task`. -/
def actionQueueTask (action : Action) : Call := .waiting { action with pending := true }

/-- The part of `action_task_got_response` after a response without an error. The message has the
method it was sent with, or the one after a redirection. -/
def actionTaskGotStatus (action : Action) : Call :=
  if action.msg.map Message.status = some 405 then
    if action.msg.map Message.method = some "POST".toList then
      match action.proxy with
      | none => .crashed
      | some proxy =>
        match prepareActionMsg env proxy "M-POST".toList { action with response := none } with
        | (action, some error) => .returned (some error) action
        | (action, none) => actionQueueTask action
    else
      .returned (some (ServerError.other.error "Server does not allow any POST messages".toList))
        action
  else
    match checkResponse env action with
    | none => .crashed
    | some action => .returned action.error action

/-- `action_task_got_response`. -/
def actionTaskGotResponse (response : Response) (action : Action) : Call :=
  match response with
  | .failed error => .returned (some error) (sendAndRead response action)
  | .received .. => actionTaskGotStatus env (sendAndRead response action)

/-- One step of the task: the session reports a response for the message that is in flight. -/
def Call.step (call : Call) (response : Response) : Call :=
  match call with
  | waiting action => actionTaskGotResponse env response action
  | call => call

/-- `gupnp_service_proxy_call_action_finish`. -/
def callActionFinish : Call → Call
  | .returned error action => .returned error { action with pending := false }
  | call => call

/-- `gupnp_service_proxy_call_action_async`. -/
def callActionAsync (proxy : ServiceInfo) (action : Action) : Call :=
  match prepareActionMsg env proxy "POST".toList action with
  | (action, some error) => .returned (some error) action
  | (action, none) => actionQueueTask action

/-- An asynchronous call up to `finish`, where the session reports these responses. -/
def callActionAsyncFinish (proxy : ServiceInfo) (responses : List Response) (action : Action) :
    Call :=
  callActionFinish (responses.foldl (Call.step env) (callActionAsync env proxy action))

/-! ## Looking at the results -/

/-- A look at the results of an action. -/
inductive Query where
  | list (outArgs : List (Str × GType))
  | hash (hash : Table Str GValue)
  | iterator (types : List (Option GType))

/-- What it shows. -/
inductive Results where
  | failed (kind : Option (ErrorDomain × Int))
  | list (values : List GValue)
  | hash (hash : Table Str GValue)
  | iterator (readings : List (Option Str × Option GValue))

/-- What a query shows of an action, and the action afterwards. -/
def Query.ask (query : Query) (action : Action) : Option (Results × Action) :=
  match query with
  | .list outArgs => do
    match ← getResultList env outArgs action with
    | (.error error, action) => some (.failed (some error.kind), action)
    | (.ok values, action) => some (.list values, action)
  | .hash outHash => do
    match ← getResultHash env outHash action with
    | (.error error, action) => some (.failed (some error.kind), action)
    | (.ok outHash, action) => some (.hash outHash, action)
  | .iterator types => do
    match ← iterate env action with
    | (.error error, action) => some (.failed (error.map Error.kind), action)
    | (.ok iter, action) =>
      let readings ← iter.readAll env.toGLib types
      some (.iterator readings, action)

/-- What a sequence of queries shows; it ends where one dereferences `NULL`. -/
def askAll : List Query → Action → List (Option Results)
  | [], _ => []
  | query :: queries, action =>
    match Query.ask env query action with
    | none => [none]
    | some (results, action) => some results :: askAll queries action

end

end GUPnP.ServiceProxyAction
