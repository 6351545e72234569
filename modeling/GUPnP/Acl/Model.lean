import GUPnP.Base.CString
import GUPnP.Base.Table

/-!
# Access control of server handlers (`gupnp-acl.c`, `gupnp-context.c`)

A context wraps the handlers of its HTTP server: for each request `gupnp_acl_server_handler` asks the
ACL of the context, and the wrapped callback runs at once, after the decision, or not at all. A
request that waits for a decision keeps a pointer to the record of its handler, which the server frees
when the handler is removed or replaced.

Objects are numbers. The record of a handler that is freed stays readable, and its number is not used
again; in C reading it is undefined.
-/

set_option autoImplicit false

namespace GUPnP.Acl

/-! ## Types -/

/-- `AclServerHandler`. -/
structure AclServerHandler where
  service : Option Nat
  callback : Nat
  userData : Nat
  deriving DecidableEq, Repr

/-- A `SoupServerMessage`: the host it comes from and its header User-Agent. -/
structure Message where
  id : Nat
  remoteHost : Option Str
  userAgent : Option Str
  deriving DecidableEq, Repr

/-- What the server hands to a handler. -/
structure Request where
  message : Message
  path : Str
  query : Option (List (Str × Str))
  deriving DecidableEq, Repr

/-- What an ACL is asked. -/
structure Question where
  device : Option Nat
  service : Option Nat
  path : Str
  host : Option Str
  agent : Option Str
  deriving DecidableEq, Repr

/-- `AclAsyncHandler`. -/
structure AclAsyncHandler where
  message : Message
  path : Str
  query : Option (List (Str × Str))
  handler : Nat
  deriving DecidableEq, Repr

/-- What `gupnp_acl_can_sync` and then `gupnp_acl_is_allowed` return for a request. -/
inductive Verdict where
  | sync (allowed : Bool)
  | async
  deriving DecidableEq, Repr

/-- What the handler looks up elsewhere at the time of a request: the root device of a service and
the agent that GSSDP guesses for a host. -/
structure Lookups where
  rootDevice : Nat → Option Nat
  guessUserAgent : Option Str → Option Str

/-- An invocation of a wrapped callback. -/
structure Call where
  callback : Nat
  message : Message
  path : Str
  query : Option (List (Str × Str))
  userData : Nat
  deriving DecidableEq, Repr

/-- What happens in a context, for the requests in the order of their arrival. -/
inductive Entry where
  /-- A request arrives at a handler, while this ACL is set, and this is the question about it. -/
  | arrived (request : Nat) (acl : Option Nat) (handler : Nat) (data : Request) (question : Question)
  /-- An ACL answers a question. -/
  | answered (request : Nat) (acl : Nat) (question : Question) (allowed : Bool)
  /-- A message gets the status 403. -/
  | forbidden (request : Nat) (message : Message)
  /-- The record of a handler is read. -/
  | consulted (handler : Nat)
  /-- The callback of a handler runs. -/
  | invoked (request : Nat) (handler : Nat) (call : Call)
  /-- The record of a handler is freed. -/
  | freed (handler : Nat)
  deriving DecidableEq, Repr

/-- A question an ACL has not answered yet, and what is kept for its answer. -/
structure Pending where
  data : AclAsyncHandler
  acl : Nat
  question : Question
  deriving DecidableEq, Repr

/-- `handlers` are the records that were ever made, `registered` the handlers of the server by path,
as far as they are wrapped. -/
structure ContextState where
  acl : Option Nat
  handlers : List AclServerHandler
  freed : List Nat
  registered : Table Str Nat
  requests : Nat
  pending : Table Nat Pending
  log : List Entry

/-- A context without an ACL and handlers. -/
def ContextState.init : ContextState := ⟨none, [], [], ∅, 0, ∅, []⟩

def ContextState.emit (entries : List Entry) (s : ContextState) : ContextState :=
  { s with log := s.log ++ entries }

/-! ## Handlers of the server -/

/-- `acl_server_handler_free`. -/
def aclServerHandlerFree (id : Nat) (s : ContextState) : ContextState :=
  { s with freed := id :: s.freed }.emit [.freed id]

/-- `gupnp_context_remove_server_handler`. -/
def gupnpContextRemoveServerHandler (path : Str) (s : ContextState) : ContextState :=
  match s.registered.lookup path with
  | none => s
  | some id => aclServerHandlerFree id { s with registered := s.registered.erase path }

/-- `_gupnp_context_add_server_handler_with_data`, with a new record. The server drops the handler it
has for the path. -/
def gupnpContextAddServerHandlerWithData (path : Str) (handler : AclServerHandler)
    (s : ContextState) : ContextState :=
  let s := gupnpContextRemoveServerHandler path s
  { s with handlers := s.handlers ++ [handler]
           registered := s.registered.insert path s.handlers.length }

/-- `gupnp_context_add_server_handler`. -/
def gupnpContextAddServerHandler (useAcl : Bool) (path : Str) (callback userData : Nat)
    (s : ContextState) : ContextState :=
  if useAcl then gupnpContextAddServerHandlerWithData path ⟨none, callback, userData⟩ s
  else gupnpContextRemoveServerHandler path s

/-- `gupnp_context_set_acl`. -/
def gupnpContextSetAcl (acl : Option Nat) (s : ContextState) : ContextState := { s with acl := acl }

/-! ## Requests -/

/-- The question `gupnp_acl_server_handler` asks about a request. -/
def question (lookups : Lookups) (handler : AclServerHandler) (data : Request) : Question where
  device := handler.service.bind lookups.rootDevice
  service := handler.service
  path := data.path
  host := data.message.remoteHost
  agent := data.message.userAgent.or (lookups.guessUserAgent data.message.remoteHost)

/-- The callback of a handler runs for a request. -/
def invoke (request id : Nat) (handler : AclServerHandler) (message : Message) (path : Str)
    (query : Option (List (Str × Str))) : Entry :=
  .invoked request id ⟨handler.callback, message, path, query, handler.userData⟩

/-- `gupnp_acl_server_handler`. -/
def gupnpAclServerHandler (lookups : Lookups) (verdict : Verdict) (id : Nat)
    (handler : AclServerHandler) (data : Request) (s : ContextState) : ContextState :=
  let asked := question lookups handler data
  let request := s.requests
  let s := { s with requests := request + 1 }.emit
    [.arrived request s.acl id data asked, .consulted id]
  match s.acl with
  | none => s.emit [invoke request id handler data.message data.path data.query]
  | some acl =>
    match verdict with
    | .sync allowed =>
      let s := s.emit [.answered request acl asked allowed]
      if !allowed then s.emit [.forbidden request data.message]
      else s.emit [invoke request id handler data.message data.path data.query]
    | .async =>
      let handlerData : AclAsyncHandler := ⟨data.message, data.path, data.query, id⟩
      { s with pending := s.pending.insert request ⟨handlerData, acl, asked⟩ }

/-- `gupnp_acl_async_callback`. -/
def gupnpAclAsyncCallback (request : Nat) (pending : Pending) (allowed : Bool) (s : ContextState) :
    ContextState :=
  let data := pending.data
  let s := s.emit [.answered request pending.acl pending.question allowed]
  let s :=
    if !allowed then s.emit [.forbidden request data.message]
    else
      match s.handlers[data.handler]? with
      | none => s
      | some handler =>
        s.emit [.consulted data.handler,
          invoke request data.handler handler data.message data.path data.query]
  { s with pending := s.pending.erase request }

/-! ## Steps -/

/-- Handlers come and go, the ACL changes, a request arrives at the handler of a path, or an ACL
decides about a request. -/
inductive Event where
  | addServerHandler (useAcl : Bool) (path : Str) (callback userData : Nat)
  | addServerHandlerWithData (path : Str) (handler : AclServerHandler)
  | removeServerHandler (path : Str)
  | setAcl (acl : Option Nat)
  | request (handlerPath : Str) (data : Request) (lookups : Lookups) (verdict : Verdict)
  | decided (request : Nat) (allowed : Bool)

def step (s : ContextState) : Event → Option ContextState
  | .addServerHandler useAcl path callback userData =>
    some (gupnpContextAddServerHandler useAcl path callback userData s)
  | .addServerHandlerWithData path handler =>
    some (gupnpContextAddServerHandlerWithData path handler s)
  | .removeServerHandler path => some (gupnpContextRemoveServerHandler path s)
  | .setAcl acl => some (gupnpContextSetAcl acl s)
  | .request handlerPath data lookups verdict => do
    let id ← s.registered.lookup handlerPath
    let handler ← s.handlers[id]?
    some (gupnpAclServerHandler lookups verdict id handler data s)
  | .decided request allowed => do
    let pending ← s.pending.lookup request
    some (gupnpAclAsyncCallback request pending allowed s)

end GUPnP.Acl
