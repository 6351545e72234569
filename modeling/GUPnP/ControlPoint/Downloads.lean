import GUPnP.ControlPoint.Model

/-!
# The downloads of a control point and the main loop

The model of the control point with what its downloads leave with others: the requests that the
session has not completed, and the timers of the main loop that have not fired. They know the entry
they belong to by its address, here its number. Each comes with the number of the
resource-available event it goes back to, which the source does not keep, and the history says when
which event caused a request and a wait.
-/

set_option autoImplicit false

namespace GUPnP.ControlPoint.Downloads

/-- A request that the session runs; its user data is the entry with the number `data`. -/
structure Get where
  data : Nat
  event : Nat
  deriving DecidableEq, Repr

/-- A timer source with the callback `description_url_retry_timeout`. -/
structure RetrySource where
  data : Nat
  event : Nat
  due : Nat
  deriving DecidableEq, Repr

/-- What a resource-available event has caused. -/
inductive Attempt where
  | get (event data time : Nat)
  | retryAfter (event seconds time : Nat)
  deriving DecidableEq, Repr

structure LoopState where
  point : ControlPointState
  session : List Get
  sources : List RetrySource
  clock : Nat
  events : Nat
  history : List Attempt

def LoopState.init : LoopState := ⟨.init, [], [], 0, 0, []⟩

/-- The document is processed. -/
def descriptionLoaded (udn : Str) (serviceType : Option Str) (url : Str) (doc : Xml.Node)
    (s : LoopState) : Option LoopState :=
  (ControlPoint.descriptionLoaded udn serviceType url doc s.point).map fun point =>
    { s with point := point }

/-- `load_description`. -/
def loadDescription (ctx : Context) (event : Nat) (url udn : Str) (serviceType : Option Str)
    (maxTries : Int) (timeout : Nat) (s : LoopState) : Option LoopState :=
  match s.point.docCache.lookup url with
  | some doc => descriptionLoaded udn serviceType url doc s
  | none =>
    match ctx.rewriteUri url with
    | none => some s
    | some localDescription =>
      if ctx.messageNew localDescription then
        let data : GetDescriptionUrlData :=
          ⟨s.point.nextId, udn, serviceType, url, .running, false, maxTries, timeout⟩
        some { s with
          point := { s.point with
            pendingGets := data :: s.point.pendingGets
            nextId := s.point.nextId + 1
            log := s.point.log ++ [.get (udn, serviceType) localDescription] }
          session := s.session ++ [⟨data.id, event⟩]
          history := s.history ++ [.get event data.id s.clock] }
      else some s

/-- `get_description_url_data_free`. -/
def getDescriptionUrlDataFree (id : Nat) (s : LoopState) : LoopState :=
  { s with
    point := ControlPoint.getDescriptionUrlDataFree id s.point
    sources := s.sources.filter (·.data ≠ id) }

/-- The part of `got_description_url` that tries again. -/
def retryLater (event : Nat) (data : GetDescriptionUrlData) (s : LoopState) : LoopState :=
  let data := { data with tries := data.tries - 1 }
  if 0 < data.tries then
    { s with
      point := { s.point with
        pendingGets := s.point.pendingGets.map fun d =>
          if d.id = data.id then { data with phase := .waiting, timeout := data.timeout * 2 } else d
        log := s.point.log ++ [.retryAfter data.resource data.timeout] }
      sources := s.sources ++ [⟨data.id, event, s.clock + data.timeout⟩]
      history := s.history ++ [.retryAfter event data.timeout s.clock] }
  else getDescriptionUrlDataFree data.id s

/-- `got_description_url` after the errors that end it. -/
def gotDocument (ctx : Context) (event : Nat) (data : GetDescriptionUrlData)
    (response : Option (Nat × Str)) (s : LoopState) : Option LoopState :=
  match s.point.docCache.lookup data.descriptionUrl with
  | some doc =>
    (descriptionLoaded data.udn data.serviceType data.descriptionUrl doc s).map
      (getDescriptionUrlDataFree data.id)
  | none =>
    match response with
    | none => some (retryLater event data s)
    | some (status, body) =>
      if isSuccessful status then
        match ctx.xmlReadMemory body with
        | some doc =>
          (newDescription data doc s.point).map fun point =>
            getDescriptionUrlDataFree data.id { s with point := point }
        | none => some (getDescriptionUrlDataFree data.id s)
      else some (retryLater event data s)

/-- `got_description_url`. -/
def gotDescriptionUrl (ctx : Context) (event : Nat) (data : GetDescriptionUrlData)
    (outcome : Outcome) (s : LoopState) : Option LoopState :=
  match outcome with
  | .cancelled => some (getDescriptionUrlDataFree data.id s)
  | .failed => some (getDescriptionUrlDataFree data.id s)
  | .timedOut => gotDocument ctx event data none s
  | .response status body => gotDocument ctx event data (some (status, body)) s

/-- `description_url_retry_timeout`. -/
def descriptionUrlRetryTimeout (ctx : Context) (event : Nat) (data : GetDescriptionUrlData)
    (s : LoopState) : Option LoopState :=
  (loadDescription ctx event data.descriptionUrl data.udn data.serviceType data.tries data.timeout
    s).map (getDescriptionUrlDataFree data.id)

/-- `gupnp_control_point_resource_available`. -/
def resourceAvailable (ctx : Context) (usn : Str) (locations : List Str) (s : LoopState) :
    Option LoopState :=
  let event := s.events
  let s := { s with events := event + 1 }
  match locations with
  | [] => some s
  | location :: _ =>
    match parseUsn usn with
    | none => some s
    | some (udn, serviceType) =>
      loadDescription ctx event location udn serviceType maxDescriptionDownloadRetries
        initialDescriptionRetryTimeout s

/-- `tick` lets a second pass; what is due may run late. -/
inductive LoopEvent where
  | point (e : Event)
  | tick

/-- The session completes a request once, a timer fires once and not before it is due, and both find
their entry. A request that was cancelled is completed as such. -/
def loopStep (ctx : Context) (s : LoopState) : LoopEvent → Option LoopState
  | .point (.resourceAvailable usn locations) => resourceAvailable ctx usn locations s
  | .point (.resourceUnavailable usn) => some { s with point := resourceUnavailable usn s.point }
  | .point (.gotDescriptionUrl id outcome) => do
    let get ← s.session.find? (·.data = id)
    let data ← s.point.pendingGets.find? (·.id = id)
    if data.cancelled = true → outcome = .cancelled then
      gotDescriptionUrl ctx get.event data outcome
        { s with session := s.session.filter (·.data ≠ id) }
    else none
  | .point (.retryTimeout id) => do
    let source ← s.sources.find? (·.data = id)
    let data ← s.point.pendingGets.find? (·.id = id)
    if source.due ≤ s.clock then descriptionUrlRetryTimeout ctx source.event data s else none
  | .point (.docFinalized url) =>
    if s.point.released url then
      some { s with point := { s.point with docCache := s.point.docCache.erase url } }
    else none
  | .tick => some { s with clock := s.clock + 1 }

end GUPnP.ControlPoint.Downloads
