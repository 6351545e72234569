import GUPnP.Base.Table
import GUPnP.GValue.Model

/-!
# Actions of a service proxy (`gupnp-service-proxy-action.c`)

An action keeps its arguments, the message that carries it and what came back. `serialize` writes the
request, `checkResponse` takes a response apart, and the results are read from the element it finds:
by name (`getResultList`, `getResultHash`) or one after the other (`iterate` and `Iter`).

A function that may dereference `NULL` returns an `Option`, and `none` where it does.
-/

set_option autoImplicit false

namespace GUPnP

/-! ## Errors -/

/-- The domain of a `GError`; `other` are the domains of libsoup and GIO. -/
inductive ErrorDomain where
  | server
  | control
  | other (quark : Nat)
  deriving DecidableEq, Repr

/-- A `GError`. -/
structure Error where
  domain : ErrorDomain
  code : Int
  message : Str
  deriving DecidableEq, Repr

/-- What callers match an error by. -/
def Error.kind (error : Error) : ErrorDomain × Int := (error.domain, error.code)

/-- `GUPnPServerError`. -/
inductive ServerError where
  | internalServerError
  | notFound
  | notImplemented
  | invalidResponse
  | invalidUrl
  | other
  deriving DecidableEq, Repr

def ServerError.toCode : ServerError → Int
  | internalServerError => 0
  | notFound => 1
  | notImplemented => 2
  | invalidResponse => 3
  | invalidUrl => 4
  | other => 5

/-- An error of the domain `GUPNP_SERVER_ERROR`. -/
def ServerError.error (e : ServerError) (message : Str) : Error := ⟨.server, e.toCode, message⟩

/-- `code_from_status_code`. -/
def codeFromStatusCode (statusCode : Nat) : ServerError :=
  if statusCode = 500 then .internalServerError
  else if statusCode = 501 then .notImplemented
  else if statusCode = 404 then .notFound
  else .other

namespace ServiceProxyAction

open Xml

/-! ## Introspection -/

structure ActionArgInfo where
  name : Str
  relatedStateVariable : Str

structure ActionInfo where
  name : Str
  arguments : List ActionArgInfo

structure StateVariableInfo where
  name : Str
  type : GType

/-- What a `GUPnPServiceIntrospection` knows. -/
structure Introspection where
  stateVariables : List StateVariableInfo
  actions : List ActionInfo

/-- `gupnp_service_introspection_get_state_variable`. -/
def Introspection.getStateVariable (i : Introspection) (variableName : Str) :
    Option StateVariableInfo :=
  if i.stateVariables = [] then none else i.stateVariables.find? fun v => v.name = variableName

/-- `gupnp_service_introspection_get_action`. -/
def Introspection.getAction (i : Introspection) (actionName : Str) : Option ActionInfo :=
  if i.stateVariables = [] then none else i.actions.find? fun a => a.name = actionName

/-! ## Types -/

/-- A `SoupMessage`: the request, and the status line of the response once there is one. -/
structure Message where
  method : Str
  uri : Str
  requestHeaders : List (Str × Str)
  requestBody : Str
  status : Nat
  reasonPhrase : Str
  deriving DecidableEq, Repr

/-- What an action uses of a service proxy; `controlUrl` is rewritten for the context. -/
structure ServiceInfo where
  serviceType : Option Str
  controlUrl : Option Str
  introspection : Option Introspection

/-- `ActionArgument`. -/
structure ActionArgument where
  name : Str
  value : GValue
  deriving DecidableEq, Repr

/-- `GUPnPServiceProxyAction`. `argMap` has the position of each argument in `args`. The document the
node `params` belongs to comes and goes with it, so there is no `doc`. -/
structure Action where
  proxy : Option ServiceInfo
  name : Str
  headerPos : Nat
  msg : Option Message
  response : Option Str
  msgStr : Option Str
  error : Option Error
  args : List ActionArgument
  argMap : Table Str Nat
  pending : Bool
  params : Option Node

/-- What the actions use of GLib, libxml2 and the locale. -/
structure Env extends GLib where
  /-- `xmlReadMemory` -/
  xmlReadMemory : Str → Option Node
  /-- The language `http_request_set_accept_language` finds. -/
  acceptLanguage : Option Str

/-! ## Building an action -/

/-- `gupnp_service_proxy_action_new_plain`. -/
def newPlain (name : Str) : Action where
  proxy := none
  name := name
  headerPos := 0
  msg := none
  response := none
  msgStr := none
  error := none
  args := []
  argMap := ∅
  pending := false
  params := none

/-- `gupnp_service_proxy_action_add_argument`; it refuses a name it has. -/
def addArgument (action : Action) (name : Str) (value : GValue) : Option Action :=
  if (action.argMap.lookup name).isSome then none
  else some { action with
    args := action.args ++ [⟨name, value⟩]
    argMap := action.argMap.insert name action.args.length }

/-- `gupnp_service_proxy_action_set`: the action afterwards, whether it was modified, and the error.
`typeName` is `G_VALUE_TYPE_NAME`, and `location` says whether the caller has a place for an error,
without which nothing is done. -/
def set (typeName : GType → Str) (location : Bool) (action : Action) (key : Str) (value : GValue) :
    Option (Action × Bool × Option Error) :=
  if !location then some (action, false, none)
  else
    match action.argMap.lookup key with
    | none => some (action, false, some (ServerError.other.error ("Unknown argument: ".toList ++ key)))
    | some position => do
      let arg ← action.args[position]?
      if value.type ≠ arg.value.type then
        some (action, false, some (ServerError.other.error ("Type mismatch for ".toList ++ key ++
          ". Expected ".toList ++ typeName arg.value.type ++ ", got ".toList ++
          typeName value.type)))
      else
        some ({ action with args := action.args.set position { arg with value := value } }, true,
          none)

/-- The loop of `gupnp_service_proxy_action_new_from_list`, which ignores a refusal. -/
def addArguments (action : Action) : List Str → List GValue → Action
  | name :: names, value :: values =>
    addArguments ((addArgument action name value).getD action) names values
  | _, _ => action

/-- `gupnp_service_proxy_action_new_from_list`. -/
def newFromList (actionName : Str) (inNames : List Str) (inValues : List GValue) : Action :=
  addArguments (newPlain actionName) inNames inValues

/-- `gupnp_service_proxy_action_reset`. -/
def reset (action : Action) : Action :=
  { action with proxy := none, error := none, msg := none, msgStr := none, response := none,
                params := none }

/-! ## The request -/

/-- `write_in_parameter`. -/
def writeInParameter (glib : GLib) (msgStr : Str) (arg : ActionArgument) : Str :=
  msgStr ++ startElement arg.name ++ (arg.value.valueAppendToXmlString glib).1 ++
    endElement arg.name

/-- `write_footer`. -/
def writeFooter (action : Action) (msgStr : Str) : Str :=
  msgStr ++ "</u:".toList ++ action.name ++ ['>'] ++ "</s:Body></s:Envelope>".toList

/-- What every message starts with. -/
def header : Str :=
  "<?xml version=\"1.0\"?>".toList ++ "<s:Envelope xmlns:s=".toList ++
    "\"http://schemas.xmlsoap.org/soap/envelope/\" ".toList ++ "s:encodingStyle=".toList ++
    "\"http://schemas.xmlsoap.org/soap/encoding/\">".toList ++ "<s:Body>".toList

/-- `g_string_insert`. -/
def gStringInsert (str : Str) (pos : Nat) (val : Str) : Str := str.take pos ++ val ++ str.drop pos

/-- `g_string_insert` at the position of the header, which moves behind the insertion. -/
def insertAtHeader (str : Str × Nat) (val : Str) : Str × Nat :=
  (gStringInsert str.1 str.2 val, str.2 + val.length)

/-- `gupnp_service_proxy_action_serialize`. The last insertion does not move the position. -/
def serialize (glib : GLib) (action : Action) (serviceType : Str) : Action :=
  let msgStr := action.args.foldl (writeInParameter glib) header
  let msgStr := writeFooter action msgStr
  let (msgStr, headerPos) := ["<u:".toList, action.name, " xmlns:u=\"".toList, serviceType].foldl
    insertAtHeader (msgStr, header.length)
  { action with msgStr := some (gStringInsert msgStr headerPos "\">".toList)
                headerPos := headerPos }

/-! ## The response -/

/-- `_gupnp_error_set_server_error`. -/
def serverErrorOf (msg : Message) : Error := (codeFromStatusCode msg.status).error msg.reasonPhrase

/-- The path of `gupnp_service_proxy_action_check_response` from the document to the element with the
parameters. It compares the names of two nodes with `strcmp`. -/
def parameterList (response : Node) : Option (Option Node) :=
  match getElement response ["Envelope".toList] with
  | none => some none
  | some envelope =>
    match realNode envelope.children with
    | [] => some none
    | first :: siblings => do
      let name ← first.name
      match if name = "Header".toList then realNode siblings else first :: siblings with
      | [] => some none
      | body :: _ => do
        let name ← body.name
        if name ≠ "Body".toList then some none else some (realNode body.children).head?

/-- The error in the fault of a response with status 500. -/
def faultOf (params : Node) (reasonPhrase : Str) : Error :=
  match getElement params ["detail".toList, "UPnPError".toList] with
  | none => ServerError.invalidResponse.error "Invalid Fault".toList
  | some param =>
    let code := getChildElementContentInt param "errorCode".toList
    if code = -1 then ServerError.invalidResponse.error "Invalid Fault".toList
    else ⟨.control, code, (getChildElementContent param "errorDescription".toList).getD reasonPhrase⟩

/-- `gupnp_service_proxy_action_check_response`. -/
def checkResponse (env : Env) (action : Action) : Option Action :=
  if action.params.isSome then some action
  else if action.error.isSome then some action
  else
    match action.msg, action.response with
    | some msg, some data =>
      if msg.status ≠ 200 ∧ msg.status ≠ 500 then
        some { action with error := some (serverErrorOf msg) }
      else
        let action := { action with response := none }
        match env.xmlReadMemory data with
        | none =>
          if msg.status = 200 then
            some { action with error := some (ServerError.invalidResponse.error
              "Could not parse SOAP response".toList) }
          else
            some { action with error := some (ServerError.internalServerError.error
              msg.reasonPhrase) }
        | some response => do
          match ← parameterList response with
          | none =>
            some { action with error := some (ServerError.invalidResponse.error
              "Invalid Envelope".toList) }
          | some params =>
            if msg.status = 500 then
              some { action with error := some (faultOf params msg.reasonPhrase) }
            else some { action with params := some params }
    | _, _ =>
      some { action with error := some (ServerError.invalidResponse.error
        "No message, the action was not sent?".toList) }

/-! ## Results by name -/

/-- `read_out_parameter`; a value stays as it is where the response has no parameter of the name. -/
def readOutParameter (glib : GLib) (argName : Str) (value : GValue) (params : Node) : GValue :=
  match getElement params [argName] with
  | none => value
  | some param => (value.setValueFromXmlNode glib param).1

/-- How every access to the results starts: a saved error, or an error in the response. -/
def results (env : Env) (action : Action) : Option (Except Error Node × Action) :=
  match action.error with
  | some error => some (.error error, action)
  | none => do
    let action ← checkResponse env action
    match action.error with
    | some error => some (.error error, action)
    | none => do
      let params ← action.params
      some (.ok params, action)

/-- `gupnp_service_proxy_action_get_result_list`; `outArgs` has the names and types. -/
def getResultList (env : Env) (outArgs : List (Str × GType)) (action : Action) :
    Option (Except Error (List GValue) × Action) := do
  let (params, action) ← results env action
  some (params.map fun params => outArgs.map fun (name, type) =>
    readOutParameter env.toGLib name (GValue.init env.toGLib type) params, action)

/-- `gupnp_service_proxy_action_get_result_hash`. -/
def getResultHash (env : Env) (hash : Table Str GValue) (action : Action) :
    Option (Except Error (Table Str GValue) × Action) := do
  let (params, action) ← results env action
  some (params.map fun params => hash.mapValues fun name value =>
    readOutParameter env.toGLib name value params, action)

/-! ## Results one after the other -/

/-- `GUPnPServiceProxyActionIter`; `current` has the current node and its siblings after it. -/
structure Iter where
  action : Action
  current : List Node
  introspection : Option Introspection
  iterating : Bool

/-- `gupnp_service_proxy_action_iterate`; it returns `NULL` without an error for a pending action. -/
def iterate (env : Env) (action : Action) : Option (Except (Option Error) Iter × Action) :=
  if action.pending then some (.error none, action)
  else do
    let (params, action) ← results env action
    some ((params.mapError some).map fun _ =>
      ⟨action, [], action.proxy.bind (·.introspection), false⟩, action)

namespace Iter

/-- `gupnp_service_proxy_action_iter_next`. -/
def next (iter : Iter) : Option (Iter × Bool) :=
  if iter.iterating then
    match iter.current with
    | [] => none
    | _ :: rest => some ({ iter with current := rest }, !rest.isEmpty)
  else do
    let params ← iter.action.params
    some ({ iter with current := params.children, iterating := true }, !params.children.isEmpty)

/-- `gupnp_service_proxy_action_iter_get_name` -/
def getName (iter : Iter) : Option Str := iter.current.head?.bind Node.name

/-- The argument of this name, by `find_argument`. -/
def findArgument (info : ActionInfo) (name : Option Str) : Option ActionArgInfo :=
  info.arguments.find? fun arg => some arg.name = name

/-- The type `gupnp_service_proxy_action_iter_get_value` gives the value of a node. It does not check
that the introspection has the action. -/
def typeOf (introspection : Option Introspection) (actionName : Str) (node : Node) :
    Option (Option GType) :=
  match introspection with
  | none => some (some .string)
  | some introspection => do
    let actionInfo ← introspection.getAction actionName
    some ((findArgument actionInfo node.name).bind fun arg =>
      (introspection.getStateVariable arg.relatedStateVariable).map StateVariableInfo.type)

/-- The value of a node as this type. -/
def valueAs (glib : GLib) (node : Node) (type : GType) : GValue :=
  ((GValue.init glib type).setValueFromXmlNode glib node).1

/-- `gupnp_service_proxy_action_iter_get_value`; no value where it returns `FALSE`. -/
def getValue (glib : GLib) (iter : Iter) : Option (Option GValue) := do
  let node ← iter.current.head?
  let type ← typeOf iter.introspection iter.action.name node
  some (type.map (valueAs glib node))

/-- `gupnp_service_proxy_action_iter_get_value_as`. -/
def getValueAs (glib : GLib) (type : GType) (iter : Iter) : Option (Option GValue) := do
  let node ← iter.current.head?
  some (some (valueAs glib node type))

/-- What a caller reads that goes on while there is a next node: for each the name and the value, as
the type it asks for or by `getValue`. -/
def readAll (glib : GLib) : List (Option GType) → Iter → Option (List (Option Str × Option GValue))
  | [], _ => some []
  | type :: types, iter => do
    let (iter, available) ← iter.next
    if !available then some []
    else
      let name := iter.current.head?.bind Node.name
      let value ← match type with
        | none => iter.getValue glib
        | some type => iter.getValueAs glib type
      let readings ← readAll glib types iter
      some ((name, value) :: readings)

end Iter

end ServiceProxyAction

end GUPnP
