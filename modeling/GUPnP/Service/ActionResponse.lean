import GUPnP.Service.Action

/-!
# The response to an action (`gupnp-service-action.c`)

The implementation of an action sets result values, which are written to a string one after the
other, and ends with `returnSuccess` or `returnError`. Both put the string, or a fault in its place,
into an envelope and hand it over to the message.

A function that dereferences `NULL` returns `none`: the string is gone once the action has ended.
-/

set_option autoImplicit false

namespace GUPnP.Service

open Xml

/-- A `SoupServerMessage`, as far as its response goes. -/
structure ServerMessage where
  status : Nat
  reasonPhrase : Str
  headers : List (Str × Str)
  body : Str
  deriving DecidableEq, Repr

/-- The message when `control_server_handler` creates the action. A client with HTTP 1.0 is answered
with HTTP 1.1. -/
def ServerMessage.new (http10 : Bool) : ServerMessage where
  status := 0
  reasonPhrase := []
  headers := if http10 then [("Connection".toList, "close".toList)] else []
  body := []

/-- Compression of bodies, and what libsoup does on the other side. -/
structure Gzip where
  compress : Str → Str
  decompress : Str → Str
  decompress_compress : ∀ s, decompress (compress s) = s

/-- What the client's session makes of the body of the response. -/
def ServerMessage.decoded (gzip : Gzip) (msg : ServerMessage) : Str :=
  if ("Content-Encoding".toList, "gzip".toList) ∈ msg.headers then gzip.decompress msg.body
  else msg.body

/-- `GUPnPServiceAction` with the message it answers. -/
structure ActionResponse extends ServiceAction where
  msg : ServerMessage
  acceptGzip : Bool
  responseStr : Option Str

namespace ActionResponse

/-- `new_action_response_str`. -/
def newActionResponseStr (actionName : Str) (serviceType : Option Str) : Str :=
  "<u:".toList ++ actionName ++ "Response xmlns:u=".toList ++
    (match serviceType with
    | some serviceType => ['"'] ++ serviceType ++ ['"']
    | none => []) ++ ['>']

/-- The part of `control_server_handler` that creates the action; the service type is the one of the
SOAPAction header. -/
def new (action : ServiceAction) (serviceType : Str) (http10 acceptGzip : Bool) : ActionResponse where
  toServiceAction := action
  msg := .new http10
  acceptGzip := acceptGzip
  responseStr := some (newActionResponseStr action.name (some serviceType))

section
variable (glib : GLib)

/-- What is appended to the response for a value. -/
def valueStr (argument : Str) (value : GValue) : Str :=
  startElement argument ++ (value.valueAppendToXmlString glib).1 ++ endElement argument

/-- `gupnp_service_action_set_value`. -/
def setValue (argument : Str) (value : GValue) (action : ActionResponse) : Option ActionResponse :=
  if action.msg.status = 500 then some action
  else do
    let responseStr ← action.responseStr
    some { action with responseStr := some (responseStr ++ valueStr glib argument value) }

/-- The loop of `gupnp_service_action_set_values`. -/
def valuesStr : List Str → List GValue → Str
  | argName :: argNames, value :: values => valueStr glib argName value ++ valuesStr argNames values
  | _, _ => []

/-- `gupnp_service_action_set_values`. -/
def setValues (argNames : List Str) (argValues : List GValue) (action : ActionResponse) :
    Option ActionResponse :=
  if argNames = [] ∨ argValues = [] ∨ argNames.length ≠ argValues.length then some action
  else if action.msg.status = 500 then some action
  else do
    let responseStr ← action.responseStr
    some { action with responseStr := some (responseStr ++ valuesStr glib argNames argValues) }

end

/-! ## The end of an action -/

/-- What every response starts with. -/
def header : Str :=
  "<?xml version=\"1.0\"?>".toList ++ "<s:Envelope xmlns:s=".toList ++
    "\"http://schemas.xmlsoap.org/soap/envelope/\" ".toList ++ "s:encodingStyle=".toList ++
    "\"http://schemas.xmlsoap.org/soap/encoding/\">".toList ++ "<s:Body>".toList

/-- `soup_message_headers_replace`. -/
def replaceHeader (name value : Str) (headers : List (Str × Str)) : List (Str × Str) :=
  headers.filter (·.1 ≠ name) ++ [(name, value)]

section
variable (gzip : Gzip) (serverId : Str)

/-- The document `finalize_action` makes of the response. -/
def envelopeStr (action : ActionResponse) (responseStr : Str) : Str :=
  header ++ responseStr ++
    (if action.msg.status ≠ 500 then "</u:".toList ++ action.name ++ "Response>".toList else []) ++
    "</s:Body>".toList ++ "</s:Envelope>".toList

/-- `finalize_action`. -/
def finalizeAction (action : ActionResponse) : Option ActionResponse := do
  let responseStr ← action.responseStr
  let str := envelopeStr action responseStr
  let headers := replaceHeader "Content-Type".toList "text/xml; charset=\"utf-8\"".toList
    action.msg.headers
  let gzipped := action.acceptGzip && str.length > 1024
  some { action with
    msg := { action.msg with
      headers := headers ++ (if gzipped then [("Content-Encoding".toList, "gzip".toList)] else []) ++
        [("Ext".toList, []), ("Server".toList, serverId)]
      body := action.msg.body ++ if gzipped then gzip.compress str else str }
    responseStr := none }

/-- `gupnp_service_action_return_success`. -/
def returnSuccess (action : ActionResponse) : Option ActionResponse :=
  finalizeAction gzip serverId
    { action with msg := { action.msg with status := 200, reasonPhrase := "OK".toList } }

/-- The description of an error without one. -/
def defaultDescription (errorCode : UInt32) : Option Str :=
  if errorCode = 401 then some "Invalid Action".toList
  else if errorCode = 402 then some "Invalid Args".toList
  else if errorCode = 403 then some "Out of Sync".toList
  else if errorCode = 501 then some "Action Failed".toList
  else none

/-- The fault `gupnp_service_action_return_error` writes. -/
def faultStr (errorCode : UInt32) (errorDescription : Str) : Str :=
  startElement "s:Fault".toList ++
  startElement "faultcode".toList ++ "s:Client".toList ++ endElement "faultcode".toList ++
  startElement "faultstring".toList ++ "UPnPError".toList ++ endElement "faultstring".toList ++
  startElement "detail".toList ++
  startElement "UPnPError xmlns=\"urn:schemas-upnp-org:control-1-0\"".toList ++
  startElement "errorCode".toList ++ CString.printU errorCode.toNat ++
    endElement "errorCode".toList ++
  startElement "errorDescription".toList ++ addContent errorDescription ++
    endElement "errorDescription".toList ++
  endElement "UPnPError".toList ++ endElement "detail".toList ++ endElement "s:Fault".toList

/-- `gupnp_service_action_return_error`. -/
def returnError (errorCode : UInt32) (errorDescription : Option Str) (action : ActionResponse) :
    Option ActionResponse :=
  match errorDescription.or (defaultDescription errorCode) with
  | none => some action
  | some errorDescription => do
    let _ ← action.responseStr
    finalizeAction gzip serverId { action with
      responseStr := some (faultStr errorCode errorDescription)
      msg := { action.msg with status := 500, reasonPhrase := "Internal server error".toList } }

end

end ActionResponse

end GUPnP.Service
