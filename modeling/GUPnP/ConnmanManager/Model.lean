import GUPnP.Base.CString
import GUPnP.Base.Table

/-!
# The ConnMan context manager (`gupnp-connman-manager.c`)

The manager has an entry for each service of ConnMan. A service that becomes active gets a context one
second later, by a timer; one that is active when its D-Bus proxy is there gets a context then; and a
service whose interface changes gets another one.

A service and a context are numbers, counted up, so that a service which is removed and added again is
another one. The functions for one service work on it and on the signals of the manager.
-/

set_option autoImplicit false

namespace GUPnP.ConnmanManager

/-! ## Types -/

/-- What a context has as its interface and network once it is initialised. -/
structure Client where
  interface : Option Str
  network : Option Str
  deriving DecidableEq, Repr

/-- `g_initable_new` for this interface, network and port, when it is called. -/
abbrev Initialise := Option Str → Option Str → Nat → Option Client

/-- A `GUPnPContext`. -/
structure Context where
  id : Nat
  client : Client
  deriving DecidableEq, Repr

/-- `CMServiceState`. -/
inductive CMServiceState where
  | active
  | inactive
  deriving DecidableEq, Repr

/-- `CMService`; `subscribed` is whether `sig_prop_id` is set, `timeout` whether the creation timer is
armed. -/
structure CMService where
  id : Nat
  context : Option Context
  proxy : Bool
  current : CMServiceState
  subscribed : Bool
  port : Nat
  iface : Option Str
  name : Option Str
  timeout : Bool
  deriving DecidableEq, Repr

/-- A property of a service, of the type ConnMan gives it; of `Ethernet` only its `Interface`. -/
inductive Property where
  | name (value : Str)
  | ethernet (interface : Option Str)
  | state (value : Str)
  | other
  deriving DecidableEq, Repr

/-- The signals of the manager: each is for a service and a context, and `true` stands for
`context-available`. `creations` has each context that was created by its service, with the one that
was current then. -/
structure Signals where
  nextContext : Nat
  log : List ((Nat × Nat) × Bool)
  creations : List (Nat × Option Nat)

/-! ## The context of a service -/

/-- `service_context_create`. -/
def serviceContextCreate (initialise : Initialise) (service : CMService) (signals : Signals) :
    Bool × CMService × Signals :=
  match initialise service.iface service.name service.port with
  | none => (false, { service with context := none }, signals)
  | some client =>
    (true, { service with context := some ⟨signals.nextContext, client⟩ },
      { nextContext := signals.nextContext + 1
        log := signals.log ++ [((service.id, signals.nextContext), true)]
        creations := signals.creations ++ [(service.id, service.context.map Context.id)] })

/-- `service_context_delete`. -/
def serviceContextDelete (service : CMService) (signals : Signals) : CMService × Signals :=
  match service.context with
  | none => (service, signals)
  | some context =>
    ({ service with context := none },
      { signals with log := signals.log ++ [((service.id, context.id), false)] })

/-- A context is created, and the service is inactive where that failed. -/
def serviceContextCreateOrInactive (initialise : Initialise) (service : CMService)
    (signals : Signals) : CMService × Signals :=
  match serviceContextCreate initialise service signals with
  | (true, service, signals) => (service, signals)
  | (false, service, signals) => ({ service with current := .inactive }, signals)

/-- `service_context_create_timeout`. -/
def serviceContextCreateTimeout (initialise : Initialise) (service : CMService) (signals : Signals) :
    CMService × Signals :=
  let service := { service with timeout := false }
  if service.current ≠ .active then (service, signals)
  else serviceContextCreateOrInactive initialise service signals

/-- `service_context_update`. -/
def serviceContextUpdate (newState : CMServiceState) (service : CMService) (signals : Signals) :
    CMService × Signals :=
  if service.current = newState then (service, signals)
  else
    match newState with
    | .active => ({ service with timeout := true, current := .active }, signals)
    | .inactive =>
      let (service, signals) := serviceContextDelete { service with timeout := false } signals
      ({ service with current := .inactive }, signals)

/-- `service_context_delete`, and `service_context_create` whatever comes of it. -/
def serviceContextReplace (initialise : Initialise) (service : CMService) (signals : Signals) :
    CMService × Signals :=
  let (service, signals) := serviceContextDelete service signals
  (serviceContextCreate initialise service signals).2

/-! ## Properties -/

/-- A service in this state is active. -/
def stateOf (value : Str) : CMServiceState :=
  if value = "online".toList ∨ value = "ready".toList then .active else .inactive

/-- The `network` of the context of a service. -/
def setNetwork (network : Option Str) (service : CMService) : CMService :=
  { service with context := service.context.map fun context =>
      { context with client := { context.client with network := network } } }

/-- `on_service_property_changed`. Without an `Interface` the string the code has freed stays. -/
def onServicePropertyChanged (initialise : Initialise) (property : Property) (service : CMService)
    (signals : Signals) : CMService × Signals :=
  match property with
  | .name value => (setNetwork (some value) { service with name := some value }, signals)
  | .ethernet interface =>
    let service := { service with iface := interface.or service.iface }
    match service.context with
    | none => (service, signals)
    | some context =>
      if service.iface = context.client.interface then (service, signals)
      else serviceContextReplace initialise service signals
  | .state value => serviceContextUpdate (stateOf value) service signals
  | .other => (service, signals)

/-- What a dictionary of properties has as `Name`. -/
def nameIn (properties : List Property) : Option Str :=
  properties.findSome? fun
    | .name value => some value
    | _ => none

/-- What a dictionary of properties has as the `Interface` of `Ethernet`. -/
def ifaceIn (properties : List Property) : Option Str :=
  (properties.findSome? fun
    | .ethernet interface => some interface
    | _ => none).join

/-- The state of a dictionary of properties. -/
def stateIn (properties : List Property) : CMServiceState :=
  match properties.findSome? fun
    | .state value => some value
    | _ => none with
  | none => .inactive
  | some value => stateOf value

/-- The name of a dictionary, where it is another one. -/
def updateName (name : Option Str) (service : CMService) : CMService :=
  match name with
  | none => service
  | some name =>
    if service.name = some name then service
    else setNetwork (some name) { service with name := some name }

/-- The interface of a dictionary, where it is another one. -/
def updateIface (initialise : Initialise) (iface : Option Str) (service : CMService)
    (signals : Signals) : CMService × Signals :=
  match iface with
  | none => (service, signals)
  | some iface =>
    if service.iface = some iface then (service, signals)
    else
      let service := { service with iface := some iface }
      if service.context.isSome then serviceContextReplace initialise service signals
      else (service, signals)

/-- `cm_service_update`. The context of another interface is created with the port there was. -/
def cmServiceUpdate (initialise : Initialise) (properties : List Property) (port : Nat)
    (service : CMService) (signals : Signals) : CMService × Signals :=
  let (service, signals) :=
    updateIface initialise (ifaceIn properties) (updateName (nameIn properties) service) signals
  serviceContextUpdate (stateIn properties) { service with port := port } signals

/-! ## Services -/

/-- `cm_service_free`: the service is gone. -/
def cmServiceFree (service : CMService) (signals : Signals) : Signals :=
  (serviceContextDelete service signals).2

/-- `cm_service_use`, without its calls. -/
def cmServiceUse (initialise : Initialise) (service : CMService) (signals : Signals) :
    CMService × Signals :=
  let service := { service with subscribed := true }
  if service.current = .active then serviceContextCreateOrInactive initialise service signals
  else (service, signals)

/-- `GUPnPConnmanManagerPrivate`, the signals and the calls that are running: those for the proxies
and those for the properties of services, each by its service and the path. -/
structure ManagerState where
  cmServices : Table Str CMService
  nextService : Nat
  proxyCalls : List (Nat × Str)
  propertyCalls : List (Nat × Str)
  signals : Signals

/-- A manager right after its construction. -/
def ManagerState.init : ManagerState := ⟨∅, 0, [], [], ⟨0, [], []⟩⟩

/-- Does this to the service. -/
def ManagerState.withService (path : Str) (service : CMService)
    (f : CMService → Signals → CMService × Signals) (s : ManagerState) : ManagerState :=
  let (service, signals) := f service s.signals
  { s with cmServices := s.cmServices.insert path service, signals := signals }

/-- `cm_service_add`. -/
def cmServiceAdd (properties : List Property) (path : Str) (port : Nat) (s : ManagerState) :
    ManagerState :=
  let service : CMService :=
    { id := s.nextService
      context := none
      proxy := false
      current := stateIn properties
      subscribed := false
      port := port
      iface := ifaceIn properties
      name := nameIn properties
      timeout := false }
  { s with cmServices := s.cmServices.insert path service
           nextService := s.nextService + 1
           proxyCalls := s.proxyCalls ++ [(service.id, path)] }

/-- A service of an array that was added. -/
structure Entry where
  path : Str
  properties : List Property
  initialise : Initialise

/-- `services_array_add`, for one entry. -/
def serviceAdd (port : Nat) (s : ManagerState) (entry : Entry) : ManagerState :=
  if entry.properties = [] then s
  else
    match s.cmServices.lookup entry.path with
    | none => cmServiceAdd entry.properties entry.path port s
    | some service =>
      s.withService entry.path service (cmServiceUpdate entry.initialise entry.properties port)

/-- `services_array_remove`, for one path. -/
def serviceRemove (s : ManagerState) (path : Str) : ManagerState :=
  match s.cmServices.lookup path with
  | none => s
  | some service =>
    { s with cmServices := s.cmServices.erase path, signals := cmServiceFree service s.signals }

/-- `service_proxy_new_cb`, of a call that was not cancelled. -/
def serviceProxyNewCb (path : Str) (created : Bool) (initialise : Initialise) (service : CMService)
    (s : ManagerState) : ManagerState :=
  if !created then s
  else
    let s := s.withService path { service with proxy := true } (cmServiceUse initialise)
    { s with propertyCalls := s.propertyCalls ++ [(service.id, path)] }

/-- `get_properties_cb`, of a call that was not cancelled and did not fail. -/
def getPropertiesCb (path : Str) (properties : List (Property × Initialise)) (s : ManagerState) :
    ManagerState :=
  properties.foldl (fun s p =>
    match s.cmServices.lookup path with
    | none => s
    | some service => s.withService path service (onServicePropertyChanged p.2 p.1)) s

/-! ## Steps -/

/-- The signal `ServicesChanged` (the reply of `GetServices` is like it, with nothing removed), the
completion of the `i`th running call for a proxy or for properties, the signal `PropertyChanged`, and
the timer of a service. -/
inductive Event where
  | servicesChanged (port : Nat) (added : List Entry) (removed : List Str)
  | proxyNew (i : Nat) (created : Bool) (initialise : Initialise)
  | propertiesGot (i : Nat) (properties : List (Property × Initialise))
  | propertyChanged (path : Str) (property : Property) (initialise : Initialise)
  | timeout (path : Str) (initialise : Initialise)

/-- The service of a call, if it is still there. A service that is freed cancels its calls. -/
def ofCall (s : ManagerState) (call : Nat × Str) : Option CMService :=
  (s.cmServices.lookup call.2).filter fun service => service.id = call.1

def step (s : ManagerState) : Event → Option ManagerState
  | .servicesChanged port added removed => some (removed.foldl serviceRemove
      (added.foldl (serviceAdd port) s))
  | .proxyNew i created initialise => do
    let call ← s.proxyCalls[i]?
    let s := { s with proxyCalls := s.proxyCalls.eraseIdx i }
    match ofCall s call with
    | none => some s
    | some service => some (serviceProxyNewCb call.2 created initialise service s)
  | .propertiesGot i properties => do
    let call ← s.propertyCalls[i]?
    let s := { s with propertyCalls := s.propertyCalls.eraseIdx i }
    match ofCall s call with
    | none => some s
    | some _ => some (getPropertiesCb call.2 properties s)
  | .propertyChanged path property initialise => do
    let service ← s.cmServices.lookup path
    if service.subscribed then
      some (s.withService path service (onServicePropertyChanged initialise property))
    else none
  | .timeout path initialise => do
    let service ← s.cmServices.lookup path
    if service.timeout then
      some (s.withService path service (serviceContextCreateTimeout initialise))
    else none

end GUPnP.ConnmanManager
