import GUPnP.Base.Split
import GUPnP.Base.Table
import GUPnP.Xml.Node

/-!
# The control point (`gupnp-control-point.c`)

What a control point does with the resources the network announces: it takes a USN apart, downloads
the description document (or takes it from its cache), creates a proxy for each device or service the
USN stands for, and drops the proxy when the resource goes. A download that fails is tried again after
a while.

The application's handlers of the four signals do not enter the control point again. The cancellable
of a download is its flag `cancelled`; a session completes a cancelled request with
`G_IO_ERROR_CANCELLED`. The walks over a document compare the name of each node with `strcmp`; on a
CDATA block they fail, and a step in which they do has no next state.
-/

set_option autoImplicit false

namespace GUPnP.ControlPoint

open Xml

/-! ## Types -/

/-- What a USN stands for: the UDN of a device and, for a service, its type. -/
abbrev Resource := Str × Option Str

structure DeviceProxy where
  element : Node
  udn : Str
  location : Str

structure ServiceProxy where
  element : Node
  udn : Str
  serviceType : Str
  location : Str

/-- Where a download stands: its request is running, or its timer is. -/
inductive Phase where
  | running
  | waiting
  deriving DecidableEq, Repr

/-- `GetDescriptionURLData`, with a number that tells the entries apart. -/
structure GetDescriptionUrlData where
  id : Nat
  udn : Str
  serviceType : Option Str
  descriptionUrl : Str
  phase : Phase
  cancelled : Bool
  tries : Int
  timeout : Nat
  deriving DecidableEq, Repr

/-- The arguments the lists of the control point and `find_get_description_url_data` go by. -/
def GetDescriptionUrlData.resource (data : GetDescriptionUrlData) : Resource :=
  (data.udn, data.serviceType)

/-- What a control point does that others see. -/
inductive Effect where
  | available (resource : Resource)
  | unavailable (resource : Resource)
  | get (resource : Resource) (url : Str)
  | retryAfter (resource : Resource) (seconds : Nat)
  deriving DecidableEq, Repr

/-- `GUPnPControlPointPrivate`; `pendingGets`, `devices` and `services` have the newest entry first. -/
structure ControlPointState where
  pendingGets : List GetDescriptionUrlData
  docCache : Table Str Node
  devices : List DeviceProxy
  services : List ServiceProxy
  nextId : Nat
  log : List Effect

/-- A control point right after its construction. -/
def ControlPointState.init : ControlPointState := ⟨[], ∅, [], [], 0, []⟩

/-- What a control point uses of its context, of libsoup and of libxml2. -/
structure Context where
  /-- `gupnp_context_rewrite_uri` -/
  rewriteUri : Str → Option Str
  /-- Whether `soup_message_new` accepts the URL. -/
  messageNew : Str → Bool
  /-- `xmlReadMemory` -/
  xmlReadMemory : Str → Option Node

/-- `GUPNP_MAX_DESCRIPTION_DOWNLOAD_RETRIES` -/
def maxDescriptionDownloadRetries : Int := 4

/-- `GUPNP_INITIAL_DESCRIPTION_RETRY_TIMEOUT` -/
def initialDescriptionRetryTimeout : Nat := 5

/-! ## USNs and service types -/

/-- `parse_usn`. -/
def parseUsn (usn : Str) : Option Resource :=
  if ¬ "uuid:".toList <+: usn then none
  else
    match CString.strsplit "::".toList usn with
    | [udn] => some (udn, none)
    | [udn, second] =>
      let secondBits := CString.strsplit ":".toList second
      if secondBits[0]? = some "upnp".toList ∧ secondBits[1]? = some "rootdevice".toList then
        some (udn, none)
      else if 3 ≤ secondBits.length ∧ secondBits[0]? = some "urn".toList then
        if secondBits[2]? = some "device".toList then some (udn, none)
        else if secondBits[2]? = some "service".toList then some (udn, some second)
        else none
      else none
    | _ => none

/-- `(guint) atol (s)`. -/
def versionOf (s : Str) : Nat := (CString.strtol s % 2 ^ 32).toNat

/-- `compare_service_types_versioned`; the lengths are `guint`s. -/
def compareServiceTypesVersioned (searched current : Str) : Bool :=
  match CString.strrchr ':' searched, CString.strrchr ':' current with
  | some (searchedName, searchedVersion), some (currentName, currentVersion) =>
    let searchedLength := searchedName.length % 2 ^ 32
    let currentLength := currentName.length % 2 ^ 32
    if searchedLength ≠ currentLength then false
    else if versionOf searchedVersion = 0 then false
    else if versionOf currentVersion = 0 then false
    else if versionOf currentVersion < versionOf searchedVersion then false
    else CString.strncmpEq searched current searchedLength
  | _, _ => false

/-! ## Proxies -/

/-- `find_device_node`. -/
def ControlPointState.findDevice (s : ControlPointState) (udn : Str) : Option DeviceProxy :=
  s.devices.find? fun proxy => proxy.udn = udn

/-- `find_service_node`. -/
def ControlPointState.findService (s : ControlPointState) (udn serviceType : Str) :
    Option ServiceProxy :=
  s.services.find? fun proxy => proxy.udn = udn ∧ proxy.serviceType = serviceType

/-- `create_and_report_service_proxy`. -/
def createAndReportServiceProxy (element : Node) (udn serviceType location : Str)
    (s : ControlPointState) : ControlPointState :=
  if (s.findService udn serviceType).isSome then s
  else { s with services := ⟨element, udn, serviceType, location⟩ :: s.services,
                log := s.log ++ [.available (udn, some serviceType)] }

/-- `create_and_report_device_proxy`. -/
def createAndReportDeviceProxy (element : Node) (udn location : Str) (s : ControlPointState) :
    ControlPointState :=
  if (s.findDevice udn).isSome then s
  else { s with devices := ⟨element, udn, location⟩ :: s.devices,
                log := s.log ++ [.available (udn, none)] }

/-! ## Documents -/

section
variable (udn : Str) (serviceType : Option Str) (location : Str)

/-- The body of the loop of `process_service_list`. -/
def processService (serviceType : Str) (s : ControlPointState) (element : Node) :
    Option ControlPointState :=
  match element.name with
  | none => none
  | some name =>
    if name ≠ "service".toList then some s
    else
      match getChildElementContent element "serviceType".toList with
      | none => some s
      | some prop =>
        if compareServiceTypesVersioned serviceType prop then
          some (createAndReportServiceProxy element udn serviceType location s)
        else some s

/-- `process_service_list`. -/
def processServiceList (serviceType : Str) (element : Node) (s : ControlPointState) :
    Option ControlPointState :=
  element.children.foldlM (processService udn location serviceType) s

/-- The part of the body of the loop of `process_device_list` after its recursion. -/
def processDevice (element : Node) (s : ControlPointState) : Option ControlPointState :=
  match getChildElementContent element "UDN".toList with
  | none => some s
  | some prop =>
    if prop = udn then
      match serviceType with
      | some serviceType =>
        match getElement element ["serviceList".toList] with
        | some children => processServiceList udn location serviceType children s
        | none => some s
      | none => some (createAndReportDeviceProxy element udn location s)
    else some s

mutual

/-- `process_device_list`. -/
def processDeviceList : Node → ControlPointState → Option ControlPointState
  | .document children, s => processDevices children s
  | .element _ _ children, s => processDevices children s
  | _, s => some s

/-- Its loop over the nodes. -/
def processDevices : List Node → ControlPointState → Option ControlPointState
  | [], s => some s
  | element :: rest, s =>
    match element.name with
    | none => none
    | some name =>
      if name ≠ "device".toList then processDevices rest s
      else do
        let s ← processEmbedded element s
        let s ← processDevice udn serviceType location element s
        processDevices rest s

/-- Its recursion into the embedded devices. -/
def processEmbedded : Node → ControlPointState → Option ControlPointState
  | .document children, s => processDeviceListOf children s
  | .element _ _ children, s => processDeviceListOf children s
  | _, s => some s

/-- The search for the `deviceList` among the children of a device. -/
def processDeviceListOf : List Node → ControlPointState → Option ControlPointState
  | [], s => some s
  | child :: rest, s =>
    if child.name = some "deviceList".toList then processDeviceList child s
    else processDeviceListOf rest s

end

/-- `description_loaded`. -/
def descriptionLoaded (doc : Node) (s : ControlPointState) : Option ControlPointState :=
  match getElement doc ["root".toList] with
  | none => some s
  | some element => processDeviceList udn serviceType location element s

end

/-! ## Downloads -/

/-- `load_description`. -/
def loadDescription (ctx : Context) (url udn : Str) (serviceType : Option Str) (maxTries : Int)
    (timeout : Nat) (s : ControlPointState) : Option ControlPointState :=
  match s.docCache.lookup url with
  | some doc => descriptionLoaded udn serviceType url doc s
  | none =>
    match ctx.rewriteUri url with
    | none => some s
    | some localDescription =>
      if ctx.messageNew localDescription then
        some { s with
          pendingGets := ⟨s.nextId, udn, serviceType, url, .running, false, maxTries, timeout⟩ ::
            s.pendingGets
          nextId := s.nextId + 1
          log := s.log ++ [.get (udn, serviceType) localDescription] }
      else some s

/-- `get_description_url_data_free`. -/
def getDescriptionUrlDataFree (id : Nat) (s : ControlPointState) : ControlPointState :=
  { s with pendingGets := s.pendingGets.filter (·.id ≠ id) }

/-- How a request of the session ends. -/
inductive Outcome where
  | cancelled
  | timedOut
  | failed
  | response (status : Nat) (body : Str)
  deriving DecidableEq, Repr

/-- `SOUP_STATUS_IS_SUCCESSFUL`. -/
def isSuccessful (status : Nat) : Bool := decide (200 ≤ status ∧ status < 300)

/-- A new document is processed and joins the cache. Only the proxies keep it: without a new one it is
finalized at once, which takes it out of the cache again. -/
def newDescription (data : GetDescriptionUrlData) (doc : Node) (s : ControlPointState) :
    Option ControlPointState :=
  (descriptionLoaded data.udn data.serviceType data.descriptionUrl doc s).map fun t =>
    if t.devices.length = s.devices.length ∧ t.services.length = s.services.length then t
    else { t with docCache := t.docCache.insert data.descriptionUrl doc }

/-- The part of `got_description_url` that tries again. -/
def retryLater (data : GetDescriptionUrlData) (s : ControlPointState) : ControlPointState :=
  let data := { data with tries := data.tries - 1 }
  if 0 < data.tries then
    { s with
      pendingGets := s.pendingGets.map fun d =>
        if d.id = data.id then { data with phase := .waiting, timeout := data.timeout * 2 } else d
      log := s.log ++ [.retryAfter data.resource data.timeout] }
  else getDescriptionUrlDataFree data.id s

/-- `got_description_url` after the errors that end it. -/
def gotDocument (ctx : Context) (data : GetDescriptionUrlData) (response : Option (Nat × Str))
    (s : ControlPointState) : Option ControlPointState :=
  match s.docCache.lookup data.descriptionUrl with
  | some doc =>
    (descriptionLoaded data.udn data.serviceType data.descriptionUrl doc s).map
      (getDescriptionUrlDataFree data.id)
  | none =>
    match response with
    | none => some (retryLater data s)
    | some (status, body) =>
      if isSuccessful status then
        match ctx.xmlReadMemory body with
        | some doc => (newDescription data doc s).map (getDescriptionUrlDataFree data.id)
        | none => some (getDescriptionUrlDataFree data.id s)
      else some (retryLater data s)

/-- `got_description_url`. -/
def gotDescriptionUrl (ctx : Context) (data : GetDescriptionUrlData) (outcome : Outcome)
    (s : ControlPointState) : Option ControlPointState :=
  match outcome with
  | .cancelled => some (getDescriptionUrlDataFree data.id s)
  | .failed => some (getDescriptionUrlDataFree data.id s)
  | .timedOut => gotDocument ctx data none s
  | .response status body => gotDocument ctx data (some (status, body)) s

/-- `description_url_retry_timeout`. -/
def descriptionUrlRetryTimeout (ctx : Context) (data : GetDescriptionUrlData)
    (s : ControlPointState) : Option ControlPointState :=
  (loadDescription ctx data.descriptionUrl data.udn data.serviceType data.tries data.timeout s).map
    (getDescriptionUrlDataFree data.id)

/-! ## Resources -/

/-- `gupnp_control_point_resource_available`. -/
def resourceAvailable (ctx : Context) (usn : Str) (locations : List Str) (s : ControlPointState) :
    Option ControlPointState :=
  match locations with
  | [] => some s
  | location :: _ =>
    match parseUsn usn with
    | none => some s
    | some (udn, serviceType) =>
      loadDescription ctx location udn serviceType maxDescriptionDownloadRetries
        initialDescriptionRetryTimeout s

/-- The part of `gupnp_control_point_resource_unavailable` that drops the proxy. -/
def removeProxy (resource : Resource) (s : ControlPointState) : ControlPointState :=
  match resource with
  | (udn, some serviceType) =>
    if (s.findService udn serviceType).isSome then
      { s with services := s.services.eraseP fun proxy =>
                 proxy.udn = udn ∧ proxy.serviceType = serviceType,
               log := s.log ++ [.unavailable resource] }
    else s
  | (udn, none) =>
    if (s.findDevice udn).isSome then
      { s with devices := s.devices.eraseP fun proxy => proxy.udn = udn,
               log := s.log ++ [.unavailable resource] }
    else s

/-- `find_get_description_url_data`. -/
def ControlPointState.findGet (s : ControlPointState) (resource : Resource) :
    Option GetDescriptionUrlData :=
  s.pendingGets.find? fun data => data.resource = resource

/-- The part of `gupnp_control_point_resource_unavailable` that stops the download. -/
def cancelGet (resource : Resource) (s : ControlPointState) : ControlPointState :=
  match s.findGet resource with
  | none => s
  | some data =>
    { s with pendingGets := s.pendingGets.map fun d =>
        if d.id = data.id then { d with cancelled := true } else d }

/-- `gupnp_control_point_resource_unavailable`. -/
def resourceUnavailable (usn : Str) (s : ControlPointState) : ControlPointState :=
  match parseUsn usn with
  | none => s
  | some resource => cancelGet resource (removeProxy resource s)

/-! ## Steps -/

inductive Event where
  | resourceAvailable (usn : Str) (locations : List Str)
  | resourceUnavailable (usn : Str)
  | gotDescriptionUrl (id : Nat) (outcome : Outcome)
  | retryTimeout (id : Nat)
  | docFinalized (url : Str)

/-- The document under this URL belongs to no proxy of the control point any more. -/
def ControlPointState.released (s : ControlPointState) (url : Str) : Bool :=
  s.devices.all (·.location ≠ url) && s.services.all (·.location ≠ url)

def step (ctx : Context) (s : ControlPointState) : Event → Option ControlPointState
  | .resourceAvailable usn locations => resourceAvailable ctx usn locations s
  | .resourceUnavailable usn => some (resourceUnavailable usn s)
  | .gotDescriptionUrl id outcome =>
    match s.pendingGets.find? (·.id = id) with
    | none => none
    | some data =>
      if data.phase = .running ∧ (data.cancelled = true → outcome = .cancelled) then
        gotDescriptionUrl ctx data outcome s
      else none
  | .retryTimeout id =>
    match s.pendingGets.find? (·.id = id) with
    | none => none
    | some data =>
      if data.phase = .waiting then descriptionUrlRetryTimeout ctx data s else none
  | .docFinalized url =>
    if s.released url then some { s with docCache := s.docCache.erase url } else none

end GUPnP.ControlPoint
