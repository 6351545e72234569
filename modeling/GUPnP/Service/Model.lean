import GUPnP.Base.Cursor
import GUPnP.Base.Table
import GUPnP.Gena.Protocol

/-!
# The event subscriptions of a service (`gupnp-service.c`)

The handlers of `GUPnPService` that read or write its subscriptions: the requests to the event
subscription URL (`subscriptionServerHandler`), events (`notifyValue`, `freezeNotify`, `thawNotify`,
`gotIntrospection`), the responses to NOTIFY messages (`notifyGotResponse`), the expiry timers and
the purge when the root device becomes unavailable.

`notifySubscriber` and `notifyGotResponse` change one `SubscriptionData`; the rest are functions on
`Service`, the part of `GUPnPServicePrivate` they use together with the timer sources of the main
loop and a log of what the service did. The handler of the signal `query-variable` is a parameter
of the events that emit it.
-/

set_option autoImplicit false

namespace GUPnP.Service

/-! ## Data -/

/-- A `GUri`, as its string. -/
abbrev Uri := Str

/-- A queued notification: the variable and the text of its value. -/
structure NotifyData where
  name : Str
  value : Str
  deriving DecidableEq, Repr

/-- A rendered property set. `id` is the identity of the `GBytes`: one property set is one event. -/
structure PropertySet where
  id : Nat
  properties : List NotifyData
  deriving DecidableEq, Repr

/-- A NOTIFY: where it is sent to, its headers, and its body. `position` is the index of `uri` among
the callbacks of the subscription; the source does not keep it. -/
structure NotifySubscriberData where
  uri : Uri
  nt : Str
  nts : Str
  sid : Str
  seq : Str
  propertySet : PropertySet
  position : Nat
  deriving DecidableEq, Repr

/-- One subscription. `callbacks` points into the list of callback URLs, `pendingMessages` has the
newest message first, and `timeoutSrc` is the identity of the expiry timer. The increment of `seq`
is guarded, so the `int` never overflows. -/
structure SubscriptionData where
  callbacks : Cursor Uri
  sid : Str
  seq : Int
  timeoutSrc : Option Nat
  pendingMessages : List NotifySubscriberData
  initialStateSent : Bool
  toDelete : Bool
  deriving DecidableEq, Repr

/-- The outcome of a NOTIFY: cancelled with its subscription, or the `GError` of the session if there
is one and the status of the message (0 when there was no response). -/
inductive NotifyOutcome where
  | cancelled
  | done (error : Option String) (status : Nat) (reason : String)
  deriving DecidableEq, Repr

/-- The error given to `notify-failed`. -/
inductive NotifyError where
  | session (message : String)
  | eventingNotifyFailed (message : String)
  deriving DecidableEq, Repr

/-- A request to the event subscription URL. -/
structure SubscriptionRequest where
  method : Str
  host : Option Str
  callback : Option Str
  nt : Option Str
  sid : Option Str
  deriving DecidableEq, Repr

/-- The answer to such a request. -/
structure Answer where
  status : Status
  server : Option Str
  sid : Option Str
  timeout : Option Str
  deriving DecidableEq, Repr

/-- An answer without headers. -/
def Answer.plain (status : Status) : Answer := ⟨status, none, none, none⟩

/-- What the service did, in the order it did it. -/
inductive Effect where
  /-- A NOTIFY was given to the session. -/
  | notify (msg : NotifySubscriberData)
  /-- The outcome of a NOTIFY was received. -/
  | response (msg : NotifySubscriberData) (outcome : NotifyOutcome)
  /-- The signal `notify-failed`, emitted because of `msg`. -/
  | notifyFailed (msg : NotifySubscriberData) (callbacks : List Uri) (error : NotifyError)
  /-- A request was answered. -/
  | answer (req : SubscriptionRequest) (ans : Answer)
  deriving DecidableEq, Repr

/-- A timer source of the main loop: it fires `subscription_timeout` for `sid` at `due`. -/
structure Source where
  id : Nat
  sid : Str
  due : Nat
  deriving DecidableEq, Repr

/-- The state of a service. `listening` says that the handler of the event subscription URL is
registered, `introspecting` that the introspection is still outstanding; the counters give the
next UUID, timer source and `GBytes`. -/
structure ServiceState where
  subscriptions : Table Str SubscriptionData
  stateVariables : List Str
  notifyQueue : List NotifyData
  notifyFrozen : Bool
  listening : Bool
  introspecting : Bool
  sources : List Source
  clock : Nat
  nextUuid : Nat
  nextSource : Nat
  nextBytes : Nat
  log : List Effect

/-- A service right after its construction. -/
def ServiceState.init : ServiceState where
  subscriptions := ∅
  stateVariables := []
  notifyQueue := []
  notifyFrozen := false
  listening := true
  introspecting := true
  sources := []
  clock := 0
  nextUuid := 0
  nextSource := 0
  nextBytes := 0
  log := []

/-- What the handlers use of the context and of GLib: the check of the `Host` header, the rewriting
of callback URLs, the network segment check, the `Server` header, and the UUIDs of
`g_uuid_string_random`, which never repeat. -/
structure Context where
  validateHostHeader : Option Str → Bool
  rewriteUriToUri : Str → Option Uri
  canReach : Uri → Bool
  serverId : Str
  uuid : Nat → Str
  uuid_injective : Function.Injective uuid

/-- `SUBSCRIPTION_TIMEOUT`, in seconds. -/
def subscriptionTimeoutSeconds : Nat := 300

/-- Appends to the log. -/
def ServiceState.record (s : ServiceState) (es : List Effect) : ServiceState :=
  { s with log := s.log ++ es }

/-- Answers a request with a status and no headers. -/
def ServiceState.reply (s : ServiceState) (req : SubscriptionRequest) (status : Status) :
    ServiceState :=
  s.record [.answer req (.plain status)]

/-! ## One subscription -/

/-- `subscription_data_can_delete`. -/
def SubscriptionData.canDelete (d : SubscriptionData) : Bool := d.initialStateSent && d.toDelete

/-- The successor of `seq`: at `G_MAXINT32` it wraps to 1. -/
def nextSeq (seq : Int) : Int := if seq < 0x7fffffff then seq + 1 else 1

/-- The NOTIFY that `notify_subscriber` makes of a property set. -/
def SubscriptionData.message (d : SubscriptionData) (propertySet : PropertySet) :
    NotifySubscriberData where
  uri := d.callbacks.cur
  nt := Gena.ntEvent
  nts := Gena.ntsPropChange
  sid := d.sid
  seq := CString.printD d.seq
  propertySet := propertySet
  position := d.callbacks.pos

/-- `notify_subscriber`: sends a property set to the current callback URL, unless the subscriber
called unsubscribe. -/
def notifySubscriber (propertySet : PropertySet) (d : SubscriptionData) :
    SubscriptionData × List Effect :=
  if d.canDelete then (d, [])
  else
    let msg := d.message propertySet
    ({ d with seq := nextSeq d.seq, pendingMessages := msg :: d.pendingMessages }, [.notify msg])

/-- The error `notify_got_response` gives to `notify-failed`: that of the session if there is one. -/
def notifyError (error : Option String) (reason : String) : NotifyError :=
  match error with
  | some message => .session message
  | none => .eventingNotifyFailed reason

/-- `notify_got_response` for the `i`-th pending message `msg`: the subscription after it (`none`: it
is removed) and what was done. -/
def notifyGotResponse (i : Nat) (msg : NotifySubscriberData) (outcome : NotifyOutcome)
    (d : SubscriptionData) : Option SubscriptionData × List Effect :=
  match outcome with
  | .cancelled => (some d, [])
  | .done error status reason =>
    let d := { d with pendingMessages := d.pendingMessages.eraseIdx i }
    if isSuccessful status then
      (some { d with initialStateSent := true, callbacks := d.callbacks.first }, [])
    else if status = 412 then (none, [])
    else
      match d.callbacks.next? with
      | some next =>
        let (d, es) := notifySubscriber msg.propertySet { d with callbacks := next }
        (some d, es)
      | none =>
        (some { d with callbacks := d.callbacks.first },
          [.notifyFailed msg (d.callbacks.cur :: d.callbacks.after) (notifyError error reason)])

/-! ## Removing subscriptions -/

/-- `g_hash_table_remove` with `subscription_data_free`, which destroys the expiry timer. -/
def removeSubscription (sid : Str) (s : ServiceState) : ServiceState :=
  match s.subscriptions.lookup sid with
  | none => s
  | some d =>
    { s with
      subscriptions := s.subscriptions.erase sid
      sources := s.sources.filter fun src => some src.id ≠ d.timeoutSrc }

/-- `g_hash_table_remove_all` with `subscription_data_free`. -/
def removeAll (s : ServiceState) : ServiceState :=
  { s with
    subscriptions := ∅
    sources := s.sources.filter fun src =>
      s.subscriptions.entries.all fun e => some src.id ≠ e.2.timeoutSrc }

/-- `subscription_timeout`: a due timer fires and is destroyed. -/
def subscriptionTimeout (src : Source) (s : ServiceState) : ServiceState :=
  removeSubscription src.sid { s with sources := s.sources.filter fun x => x.id ≠ src.id }

/-! ## Events -/

/-- `create_property_set`: a new `GBytes` with the queued notifications. -/
def createPropertySet (queue : List NotifyData) (s : ServiceState) : PropertySet × ServiceState :=
  (⟨s.nextBytes, queue⟩, { s with nextBytes := s.nextBytes + 1 })

/-- Updates one subscription and logs what was done. -/
def ServiceState.update (sid : Str) (f : SubscriptionData → SubscriptionData × List Effect)
    (s : ServiceState) : ServiceState :=
  match s.subscriptions.lookup sid with
  | none => s
  | some d =>
    { s with
      subscriptions := s.subscriptions.modify sid fun _ => (f d).1
      log := s.log ++ (f d).2 }

/-- `send_initial_state`; `query` is the handler of `query-variable`. -/
def sendInitialState (query : ServiceState → Str → Option Str) (sid : Str) (s : ServiceState) :
    ServiceState :=
  let queue := s.stateVariables.filterMap fun name => (query s name).map fun value => ⟨name, value⟩
  let (propertySet, s) := createPropertySet queue s
  s.update sid (notifySubscriber propertySet)

/-- `flush_notifications`. -/
def flushNotifications (s : ServiceState) : ServiceState :=
  let (propertySet, s) := createPropertySet s.notifyQueue s
  let s := { s with notifyQueue := [] }
  { s with
    subscriptions := s.subscriptions.mapValues fun _ d => (notifySubscriber propertySet d).1
    log := s.log ++ s.subscriptions.entries.flatMap fun e => (notifySubscriber propertySet e.2).2 }

/-- `gupnp_service_notify_value`. -/
def notifyValue (name value : Str) (s : ServiceState) : ServiceState :=
  let s := { s with notifyQueue := s.notifyQueue ++ [⟨name, value⟩] }
  if s.notifyFrozen then s else flushNotifications s

/-- `gupnp_service_freeze_notify`. -/
def freezeNotify (s : ServiceState) : ServiceState := { s with notifyFrozen := true }

/-- `gupnp_service_thaw_notify`. -/
def thawNotify (s : ServiceState) : ServiceState :=
  let s := { s with notifyFrozen := false }
  if s.notifyQueue.isEmpty then s else flushNotifications s

/-- What `got_introspection` reads of a state variable. -/
structure StateVariableInfo where
  name : Str
  sendEvents : Bool

/-- The body of the loop of `got_introspection` over the subscriptions. -/
def introspectedStep (query : ServiceState → Str → Option Str) (s : ServiceState) (sid : Str) :
    ServiceState :=
  let s := sendInitialState query sid s
  match s.subscriptions.lookup sid with
  | none => s
  | some d => if d.canDelete then removeSubscription sid s else s

/-- The part of `got_introspection` before that loop: the evented variables are prepended one by
one. -/
def addStateVariables (result : Except String (List StateVariableInfo)) (s : ServiceState) :
    ServiceState :=
  match result with
  | .error _ => s
  | .ok infos =>
    let evented := (infos.filter StateVariableInfo.sendEvents).map StateVariableInfo.name
    { s with stateVariables := evented.reverse ++ s.stateVariables }

/-- `got_introspection`: also after an error every subscription is sent its initial state. -/
def gotIntrospection (result : Except String (List StateVariableInfo))
    (query : ServiceState → Str → Option Str) (s : ServiceState) : ServiceState :=
  let s := addStateVariables result { s with introspecting := false }
  s.subscriptions.keys.foldl (introspectedStep query) s

/-! ## Requests -/

/-- The answer that grants or renews a subscription. -/
def Context.subscriptionAnswer (ctx : Context) (sid : Str) : Answer where
  status := .ok
  server := some ctx.serverId
  sid := some sid
  timeout := some ("Second-".toList ++ CString.printD subscriptionTimeoutSeconds)

/-- `subscription_response`. -/
def subscriptionResponse (ctx : Context) (req : SubscriptionRequest) (sid : Str) (s : ServiceState) :
    ServiceState :=
  s.record [.answer req (ctx.subscriptionAnswer sid)]

/-- `generate_sid`. -/
def generateSid (ctx : Context) (k : Nat) : Str := "uuid:".toList ++ ctx.uuid k

/-- The segments between `<` and the next `>` in a `Callback` header, at most `n` of them. The scan
goes on at the `>`. -/
def callbackSegments : Nat → Str → List Str
  | 0, _ => []
  | n + 1, s =>
    match s.dropWhile (· ≠ '<') with
    | [] => []
    | _ :: start =>
      match start.dropWhile (· ≠ '>') with
      | [] => []
      | rest => start.takeWhile (· ≠ '>') :: callbackSegments n rest

/-- `add_subscription_callback`. -/
def addSubscriptionCallback (ctx : Context) (list : List Uri) (callback : Str) : List Uri :=
  match ctx.rewriteUriToUri callback with
  | none => list
  | some uri => if ctx.canReach uri then list ++ [uri] else list

/-- The callback URLs `subscribe` accepts of a `Callback` header. -/
def parseCallbacks (ctx : Context) (callback : Str) : List Uri :=
  ((callbackSegments 6 callback).filter fun seg =>
    "http://".toList.isPrefixOf seg && decide (seg.length ≤ 256)).foldl
      (addSubscriptionCallback ctx) []

/-- A new subscription and its timer. -/
def SubscriptionData.new (callbacks : Cursor Uri) (sid : Str) (src : Nat) : SubscriptionData where
  callbacks := callbacks
  sid := sid
  seq := 0
  timeoutSrc := some src
  pendingMessages := []
  initialStateSent := false
  toDelete := false

/-- `subscribe`. -/
def subscribe (ctx : Context) (query : ServiceState → Str → Option Str) (req : SubscriptionRequest)
    (callback : Str) (s : ServiceState) : ServiceState :=
  match Cursor.ofList? (parseCallbacks ctx callback) with
  | none => s.reply req (.preconditionFailed (some "No valid callbacks found"))
  | some callbacks =>
    let sid := generateSid ctx s.nextUuid
    let src : Source := ⟨s.nextSource, sid, s.clock + subscriptionTimeoutSeconds⟩
    let s :=
      { s with
        nextUuid := s.nextUuid + 1
        nextSource := s.nextSource + 1
        sources := s.sources ++ [src]
        subscriptions := s.subscriptions.insert sid (.new callbacks sid src.id) }
    sendInitialState query sid (subscriptionResponse ctx req sid s)

/-- `resubscribe`. -/
def resubscribe (ctx : Context) (req : SubscriptionRequest) (sid : Str) (s : ServiceState) :
    ServiceState :=
  match s.subscriptions.lookup sid with
  | none => s.reply req (.preconditionFailed (some "No previous subscription found"))
  | some d =>
    let src : Source := ⟨s.nextSource, sid, s.clock + subscriptionTimeoutSeconds⟩
    let s :=
      { s with
        nextSource := s.nextSource + 1
        sources := (s.sources.filter fun x => some x.id ≠ d.timeoutSrc) ++ [src]
        subscriptions := s.subscriptions.modify sid fun d => { d with timeoutSrc := some src.id } }
    subscriptionResponse ctx req sid s

/-- `unsubscribe`: before the initial state was sent the subscription is only marked. -/
def unsubscribe (req : SubscriptionRequest) (sid : Str) (s : ServiceState) : ServiceState :=
  match s.subscriptions.lookup sid with
  | none => s.reply req (.preconditionFailed (some "No previous subscription found"))
  | some d =>
    let s :=
      if d.initialStateSent then removeSubscription sid s
      else
        { s with
          subscriptions := s.subscriptions.modify sid fun d => { d with toDelete := true } }
    s.reply req .ok

/-- `subscription_server_handler`. -/
def subscriptionServerHandler (ctx : Context) (query : ServiceState → Str → Option Str)
    (req : SubscriptionRequest) (s : ServiceState) : ServiceState :=
  if !ctx.validateHostHeader req.host then s.reply req (.badRequest none)
  else if req.method = Gena.methodSubscribe then
    match req.callback, req.sid with
    | some callback, sid =>
      if sid.isSome then
        s.reply req (.badRequest (some "SID must not be given on SUBSCRIBE"))
      else if req.nt ≠ some Gena.ntEvent then
        s.reply req (.preconditionFailed (some "NT header missing or malformed"))
      else subscribe ctx query req callback s
    | none, some sid =>
      if req.nt.isSome then s.reply req (.badRequest (some "NT must not be given on RESUBSCRIBE"))
      else resubscribe ctx req sid s
    | none, none => s.reply req (.preconditionFailed none)
  else if req.method = Gena.methodUnsubscribe then
    match req.sid with
    | some sid =>
      if req.nt.isSome || req.callback.isSome then s.reply req (.badRequest none)
      else unsubscribe req sid s
    | none => s.reply req (.preconditionFailed none)
  else s.reply req (.notImplemented none)

/-! ## Steps -/

/-- The outcome of the `i`-th pending message of the subscription `sid` arrives. A message of a
subscription that was freed is cancelled, and its completion does nothing. -/
def receiveOutcome (sid : Str) (i : Nat) (outcome : NotifyOutcome) (s : ServiceState) :
    Option ServiceState :=
  (s.subscriptions.lookup sid).bind fun d =>
    d.pendingMessages[i]?.map fun msg =>
      match notifyGotResponse i msg outcome d with
      | (some d, es) =>
        { s with
          subscriptions := s.subscriptions.modify sid fun _ => d
          log := s.log ++ .response msg outcome :: es }
      | (none, es) => removeSubscription sid (s.record (.response msg outcome :: es))

/-- What the main loop or the user of the service can do next. -/
inductive Event where
  | request (req : SubscriptionRequest) (query : ServiceState → Str → Option Str)
  | notifyValue (name value : Str)
  | freezeNotify
  | thawNotify
  | introspected (result : Except String (List StateVariableInfo))
      (query : ServiceState → Str → Option Str)
  | response (sid : Str) (i : Nat) (outcome : NotifyOutcome)
  | timeout (src : Source)
  | unavailable
  | dispose
  | tick

/-- One handler run to its end. A timer fires only when it is due, and time goes on only when no
timer is due. -/
def step (ctx : Context) (s : ServiceState) : Event → Option ServiceState
  | .request req query =>
    if s.listening then some (subscriptionServerHandler ctx query req s) else none
  | .notifyValue name value => some (notifyValue name value s)
  | .freezeNotify => some (freezeNotify s)
  | .thawNotify => some (thawNotify s)
  | .introspected result query =>
    if s.introspecting then some (gotIntrospection result query s) else none
  | .response sid i outcome => receiveOutcome sid i outcome s
  | .timeout src =>
    if src ∈ s.sources ∧ src.due ≤ s.clock then some (subscriptionTimeout src s) else none
  | .unavailable => some (removeAll s)
  | .dispose => some (removeAll { s with listening := false })
  | .tick =>
    if s.sources.all fun src => s.clock < src.due then some { s with clock := s.clock + 1 } else none

end GUPnP.Service
