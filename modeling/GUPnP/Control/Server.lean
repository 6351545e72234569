import GUPnP.Service.ActionResponse

/-!
# The handler of the control URL (`gupnp-service.c`)

`controlServerHandler` checks a request step by step. One that fails a check is answered at once, with
a status of its own; of the others `startAction` makes an action, whose message waits until the action
has ended. `QueryStateVariable` is answered by the library itself, every other action by the handlers
of the signal `action-invoked`, which are parameters like those of `query-variable`.
-/

set_option autoImplicit false

namespace GUPnP.Service

open Xml

/-! ## Requests -/

/-- A request at the control URL. -/
structure ControlRequest where
  method : Str
  http10 : Bool
  headers : List (Str × Str)
  body : Str
  deriving DecidableEq, Repr

/-- Whether two names are equal up to the case of their letters. -/
def sameHeader (a b : Str) : Bool := a.map Char.toLower == b.map Char.toLower

/-- `soup_message_headers_get_one`, which is the last header of the name. -/
def headersGetOne (name : Str) (headers : List (Str × Str)) : Option Str :=
  (headers.reverse.find? fun header => sameHeader header.1 name).map Prod.snd

/-- `soup_message_headers_get_list`. -/
def headersGetList (name : Str) (headers : List (Str × Str)) : Option Str :=
  match headers.filter fun header => sameHeader header.1 name with
  | [] => none
  | found => some (List.intercalate ", ".toList (found.map Prod.snd))

/-- A string that ends at its last `c`, where there is one. -/
def beforeLast (c : Char) (s : Str) : Str :=
  match s.reverse.dropWhile (· ≠ c) with
  | [] => s
  | _ :: before => before.reverse

/-- The service type and the name of the action in a `SOAPAction` header. -/
def splitSoapAction (soapAction : Str) : Option (Str × Str) :=
  match soapAction.dropWhile (· ≠ '#') with
  | [] => none
  | _ :: actionName =>
    let serviceType := soapAction.takeWhile (· ≠ '#')
    some (if serviceType.head? = some '"' then serviceType.tail else serviceType,
      beforeLast '"' actionName)

/-! ## The handler -/

/-- What the handler uses of the context, libsoup and libxml2. -/
structure ControlServer extends GLib where
  /-- `gupnp_context_validate_host_header` -/
  validateHostHeader : Option Str → Bool
  /-- `xmlReadMemory` -/
  xmlReadMemory : Str → Option Node
  /-- `soup_header_parse_quality_list` -/
  parseQualityList : Str → List Str
  gzip : Gzip
  serverId : Str

/-- The handlers of the signals of a service: the class handler of `action-invoked`, whether an
action has handlers that are connected and not blocked, and what they all make of an action until the
emission returns; and the value the handlers of `query-variable` set for a variable. -/
structure SignalHandlers where
  hasClassHandler : Bool
  hasHandlerPending : Str → Bool
  actionInvoked : ActionResponse → Option ActionResponse
  queryVariable : Str → Option GValue

/-- What becomes of a request: an answer, or an action that its message waits for. -/
inductive Handled where
  | refused (msg : ServerMessage)
  | started (action : ActionResponse)

/-- The answer to the request, if there is one when the handler returns: an action that has ended has
handed its response over. -/
def Handled.answer : Handled → Option ServerMessage
  | refused msg => some msg
  | started action => if action.responseStr.isSome then none else some action.msg

/-- `soup_server_message_set_status` on the message of a request. -/
def ServerMessage.refusal (http10 : Bool) (status : Nat) (reasonPhrase : Str) : ServerMessage :=
  { ServerMessage.new http10 with status := status, reasonPhrase := reasonPhrase }

section
variable (server : ControlServer)

/-- Whether the client accepts responses that are compressed. -/
def acceptsGzip (headers : List (Str × Str)) : Bool :=
  match headersGetList "Accept-Encoding".toList headers with
  | none => false
  | some acceptEncoding =>
    (server.parseQualityList acceptEncoding).any fun coding => sameHeader coding "gzip".toList

/-- `control_server_handler` until it tells the server that the response is not ready yet. -/
def startAction (request : ControlRequest) : Except ServerMessage ActionResponse :=
  if request.method ≠ "POST".toList then
    .error (.refusal false 501 "Not implemented".toList)
  else if request.body = [] then
    .error (.refusal false 400 "Bad request".toList)
  else
    let refuse status (reasonPhrase : Str) : Except ServerMessage ActionResponse :=
      .error (.refusal request.http10 status reasonPhrase)
    if !server.validateHostHeader (headersGetOne "Host".toList request.headers) then
      refuse 412 "Host header mismatch".toList
    else
      match headersGetOne "SOAPAction".toList request.headers with
      | none => refuse 412 "No SOAPAction header".toList
      | some soapAction =>
        match splitSoapAction soapAction with
        | none => refuse 412 "No action name".toList
        | some (serviceType, actionName) =>
          match server.xmlReadMemory request.body with
          | none => refuse 400 "Unable to parse action".toList
          | some doc =>
            match ServiceAction.ofDocument doc actionName with
            | none => refuse 412 "Missing <action>".toList
            | some action =>
              .ok (.new action serviceType request.http10 (acceptsGzip server request.headers))

variable (handlers : SignalHandlers)

/-- The loop of `query_state_variable`, and the success behind it. -/
def queryStateVariables : List Node → ActionResponse → Option ActionResponse
  | [], action => action.returnSuccess server.gzip server.serverId
  | node :: rest, action => do
    let name ← node.name
    if name ≠ "varName".toList then queryStateVariables rest action
    else
      match handlers.queryVariable node.content with
      | none => action.returnError server.gzip server.serverId 402 (some "Invalid Args".toList)
      | some value =>
        let action ← action.setValue server.toGLib node.content value
        queryStateVariables rest action

/-- `query_state_variable`. -/
def queryStateVariable (action : ActionResponse) : Option ActionResponse :=
  queryStateVariables server handlers action.node.children action

/-- The end of `control_server_handler`, for an action that was started. -/
def dispatchAction (action : ActionResponse) : Option ActionResponse :=
  if action.name = "QueryStateVariable".toList then queryStateVariable server handlers action
  else if handlers.hasClassHandler || handlers.hasHandlerPending action.name then
    handlers.actionInvoked action
  else action.returnError server.gzip server.serverId 401 (some "Invalid Action".toList)

/-- `control_server_handler`. -/
def controlServerHandler (request : ControlRequest) : Option Handled :=
  match startAction server request with
  | .error msg => some (.refused msg)
  | .ok action => (dispatchAction server handlers action).map .started

end

end GUPnP.Service
