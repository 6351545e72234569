import GUPnP.Gena.Protocol

/-!
# The event subscription of a service proxy (`gupnp-service-proxy.c`)

The handlers of `GUPnPServiceProxy` that read or write its subscription, as functions on the state
`Proxy`: `subscribe`, `unsubscribe`, `setSubscribed`, `subscriptionExpire`, `subscribeGotResponse`,
`serverHandler` and `emitNotifications`. `Proxy` is the part of `GUPnPServiceProxyPrivate` they use,
together with what they change outside it: whether `server_handler` is registered, the SUBSCRIBE
messages in flight, and a log of what the proxy did.

The user's notify callbacks may call `gupnp_service_proxy_set_subscribed`; the parameter `cb` of
`emitNotifications` gives the calls the callbacks make for a document, which may depend on anything
that has happened.
-/

set_option autoImplicit false

namespace GUPnP.ServiceProxy

/-! ## Data -/

/-- A notification waiting for the idle handler. -/
structure EmitNotifyData where
  sid : Str
  seq : UInt32
  doc : XmlDoc
  deriving DecidableEq, Repr

/-- A SUBSCRIBE request: with `callback` and `nt` an initial one, with `sid` a renewal. -/
structure SubscribeMsg where
  uri : Str
  callback : Option Str
  nt : Option Str
  sid : Option Str
  timeout : Str
  deriving DecidableEq, Repr

/-- The outcome of a SUBSCRIBE: the `GError` of the session, or the response with its `SID` and
`Timeout` headers. -/
inductive Response where
  | cancelled
  | error (message : String)
  | http (status : Nat) (reason : String) (sid timeout : Option Str)
  deriving DecidableEq, Repr

/-- The codes of the errors given to `subscription-lost`. -/
inductive ErrorCode where
  | eventingSubscriptionLost
  | eventingSubscriptionFailed
  | serverInvalidUrl
  | session
  deriving DecidableEq, Repr

structure LostError where
  code : ErrorCode
  message : String
  deriving DecidableEq, Repr

/-- What the proxy did, in the order it did it. -/
inductive Effect where
  /-- A SUBSCRIBE was given to the session; `wanted` is `priv->subscribed` at that moment. -/
  | subscribe (wanted : Bool) (msg : SubscribeMsg)
  /-- An UNSUBSCRIBE for `sid` was given to the session. -/
  | unsubscribe (sid : Str)
  /-- The outcome of `msg` was received. -/
  | response (msg : SubscribeMsg) (resp : Response)
  /-- A request was answered. -/
  | answer (req : NotifyRequest) (status : Status)
  /-- `n` was compared with the event counter, which was `expected`. -/
  | compare (n : EmitNotifyData) (expected : UInt32)
  /-- The document of `n` was given to the notify callbacks. -/
  | dispatch (n : EmitNotifyData)
  /-- `g_object_notify (proxy, "subscribed")`. -/
  | notifySubscribed (subscribed : Bool)
  /-- The signal `subscription-lost`. -/
  | subscriptionLost (error : LostError)
  deriving DecidableEq, Repr

/-- The subscription state of a proxy. `subscriptionTimeoutSrc` is the delay in seconds of the
armed renewal timer; `listening` says that `server_handler` is registered at the proxy's path;
`inFlight` are the SUBSCRIBE messages whose outcome was not processed yet. -/
structure Proxy where
  subscribed : Bool
  sid : Option Str
  subscriptionTimeoutSrc : Option Int
  seq : UInt32
  pendingNotifies : List EmitNotifyData
  notifyIdleSrc : Bool
  listening : Bool
  inFlight : List SubscribeMsg
  log : List Effect
  deriving DecidableEq, Repr

/-- `gupnp_service_proxy_init`. -/
def Proxy.init : Proxy where
  subscribed := false
  sid := none
  subscriptionTimeoutSrc := none
  seq := 0
  pendingNotifies := []
  notifyIdleSrc := false
  listening := false
  inFlight := []
  log := []

/-- What the handlers read from the service info and the context: the event subscription URL as the
context rewrites it (`none`: there is none, or `soup_message_new` rejects it), the delivery URL of
the proxy's path, and the context's subscription timeout. -/
structure Info where
  subscriptionUrl : Option Str
  deliveryUrl : Str
  subscriptionTimeout : UInt32

/-- Appends to the log. -/
def Proxy.record (s : Proxy) (e : Effect) : Proxy := { s with log := s.log ++ [e] }

/-- `soup_session_send_async` of a SUBSCRIBE with `subscribe_got_response` as its callback. -/
def Proxy.send (s : Proxy) (msg : SubscribeMsg) : Proxy :=
  { s with inFlight := s.inFlight ++ [msg], log := s.log ++ [.subscribe s.subscribed msg] }

/-! ## Subscribing -/

/-- `make_timeout_header`: the `guint` timeout is printed with `%d`. -/
def makeTimeoutHeader (timeout : UInt32) : Str :=
  if timeout > 0 then "Second-".toList ++ CString.printD ((timeout.toNat : Int).bmod (2 ^ 32))
  else "infinite".toList

/-- The request `subscribe` sends. -/
def Info.subscribeMsg (info : Info) (url : Str) : SubscribeMsg where
  uri := url
  callback := some info.deliveryUrl
  nt := some Gena.ntEvent
  sid := none
  timeout := makeTimeoutHeader info.subscriptionTimeout

/-- The request `subscription_expire` sends. -/
def Info.renewalMsg (info : Info) (url sid : Str) : SubscribeMsg where
  uri := url
  callback := none
  nt := none
  sid := some sid
  timeout := makeTimeoutHeader info.subscriptionTimeout

/-- `subscribe`. -/
def subscribe (info : Info) (s : Proxy) : Proxy :=
  let s := { s with subscriptionTimeoutSrc := none }
  match info.subscriptionUrl with
  | none =>
    ({ s with subscribed := false }.record (.notifySubscribed false)).record
      (.subscriptionLost ⟨.serverInvalidUrl, "No valid subscription URL defined"⟩)
  | some url => { s with listening := true }.send (info.subscribeMsg url)

/-- `unsubscribe`. The counter is reset only together with a SID. -/
def unsubscribe (info : Info) (s : Proxy) : Proxy :=
  let s := { s with listening := false }
  let s :=
    match s.sid with
    | none => s
    | some sid =>
      let s := if info.subscriptionUrl.isSome then s.record (.unsubscribe sid) else s
      { s with sid := none, seq := 0 }
  { s with subscriptionTimeoutSrc := none }

/-- `gupnp_service_proxy_set_subscribed`. -/
def setSubscribed (info : Info) (subscribed : Bool) (s : Proxy) : Proxy :=
  if s.subscribed = subscribed then s
  else
    let s := { s with subscribed := subscribed }
    let s := if subscribed then subscribe info s else unsubscribe info s
    s.record (.notifySubscribed s.subscribed)

/-- `subscription_expire`: the renewal timer fired. -/
def subscriptionExpire (info : Info) (s : Proxy) : Proxy :=
  let s := { s with subscriptionTimeoutSrc := none }
  match s.sid, info.subscriptionUrl with
  | some sid, some url => s.send (info.renewalMsg url sid)
  | _, _ => s

/-- The delay until the renewal for the `Timeout` header of a response; `rand` is
`g_random_int_range`. `none`: the header announces no finite timeout. -/
def renewalDelay (rand : Int → Int → Int) (hdr : Str) : Option Int :=
  if "Second-".toList.isPrefixOf hdr then
    let timeout := CString.atoi (hdr.drop "Second-".toList.length)
    let timeout := if timeout < 0 then Gena.defaultTimeout else timeout
    let jitter := rand ((-timeout).tdiv 4) (timeout.tdiv 4)
    some (timeout.tdiv 2 + jitter)
  else none

/-- The code from the label `hdr_err` on: the listener is removed and the subscription is lost. -/
def hdrErr (error : LostError) (s : Proxy) : Proxy :=
  ({ s with listening := false, subscribed := false }.record (.notifySubscribed false)).record
    (.subscriptionLost error)

/-- `subscribe_got_response`. An error of the session jumps to `hdr_err` past the code that clears
the timer and the SID. -/
def subscribeGotResponse (rand : Int → Int → Int) (resp : Response) (s : Proxy) : Proxy :=
  match resp with
  | .cancelled => s
  | .error message => hdrErr ⟨.session, message⟩ s
  | .http status reason sid timeout =>
    let s := { s with subscriptionTimeoutSrc := none }
    -- Check whether the subscription is still wanted.
    if !s.subscribed then s
    else
      let s := { s with sid := none }
      if isSuccessful status then
        match sid with
        | none => hdrErr ⟨.eventingSubscriptionLost, "No SID in SUBSCRIBE response"⟩ s
        | some sid =>
          let s := { s with sid := some sid }
          match timeout with
          | none => s
          | some hdr => { s with subscriptionTimeoutSrc := renewalDelay rand hdr }
      else hdrErr ⟨.eventingSubscriptionFailed, reason⟩ s

/-! ## Receiving notifications -/

/-- The `SEQ` header: the number `strtoul` reads, if it fits in 32 bits. -/
def parseSeq (hdr : Str) : Option UInt32 :=
  let (n, erange) := CString.strtoul hdr
  if erange || decide (UInt32.size ≤ n) then none else some (UInt32.ofNat n)

/-- The `SID` header: `uuid:` followed by at least one character. -/
def parseSid (hdr : Option Str) : Option Str :=
  hdr.filter fun sid => decide ("uuid:".toList.length < sid.length) && "uuid:".toList.isPrefixOf sid

/-- The checks of `server_handler`, in its order. -/
def checkNotify (req : NotifyRequest) : Except Status EmitNotifyData :=
  if req.method ≠ Gena.methodNotify then .error (.notImplemented (some "Method not supported"))
  else
    match req.nt, req.nts with
    | some nt, some nts =>
      if nt ≠ Gena.ntEvent ∨ nts ≠ Gena.ntsPropChange then
        .error (.preconditionFailed (some "Unexpected NT or NTS"))
      else
        match req.seq with
        | none => .error (.preconditionFailed (some "SEQ missing"))
        | some hdr =>
          match parseSeq hdr with
          | none => .error (.preconditionFailed (some "SEQ invalid"))
          | some seq =>
            match parseSid req.sid with
            | none => .error (.preconditionFailed (some "SID header missing or malformed"))
            | some sid =>
              match req.body with
              | none => .error (.internalServerError (some "Unable to parse NOTIFY message"))
              | some doc => .ok ⟨sid, seq, doc⟩
    | _, _ => .error (.badRequest (some "NT or NTS is missing"))

/-- `server_handler`. A document that is no property set, and any document while the proxy has no
SID, is answered with 200 and dropped. -/
def serverHandler (req : NotifyRequest) (s : Proxy) : Proxy :=
  match checkNotify req with
  | .error status => s.record (.answer req status)
  | .ok n =>
    if n.doc.root ≠ some "propertyset".toList ∨ s.sid = none then s.record (.answer req .ok)
    else
      { s with pendingNotifies := s.pendingNotifies ++ [n], notifyIdleSrc := true }.record
        (.answer req .ok)

/-! ## Dispatching notifications -/

/-- The successor of the event counter: it wraps to 1, the number 0 marks the initial event. -/
def nextSeq (seq : UInt32) : UInt32 := if seq < 0xffffffff then seq + 1 else 1

/-- `emit_notifications_for_doc`: the callbacks get the document and may call
`gupnp_service_proxy_set_subscribed`. -/
def emitNotificationsForDoc (info : Info) (cb : Proxy → XmlDoc → List Bool) (n : EmitNotifyData)
    (s : Proxy) : Proxy :=
  (cb s n.doc).foldl (fun s b => setSubscribed info b s) (s.record (.dispatch n))

/-- The body of the loop of `emit_notifications` for a notification that shows no missed event: the
counter advances whatever the SID is. -/
def emitStep (info : Info) (cb : Proxy → XmlDoc → List Bool) (n : EmitNotifyData) (s : Proxy) :
    Proxy :=
  let s := { s with seq := nextSeq s.seq }
  if s.sid = some n.sid then emitNotificationsForDoc info cb n s else s

/-- The loop of `emit_notifications`: the state after it, and whether it met a missed event. -/
def emitLoop (info : Info) (cb : Proxy → XmlDoc → List Bool) :
    List EmitNotifyData → Proxy → Proxy × Bool
  | [], s => (s, false)
  | n :: rest, s =>
    let s := s.record (.compare n s.seq)
    if n.seq > s.seq then (s, true) else emitLoop info cb rest (emitStep info cb n s)

/-- `emit_notifications`: while a subscription is in progress emission is delayed and the idle
source stays. -/
def emitNotifications (info : Info) (cb : Proxy → XmlDoc → List Bool) (s : Proxy) : Proxy :=
  if s.sid = none ∧ s.subscribed = true then s
  else
    let (s, resubscribe) := emitLoop info cb s.pendingNotifies s
    let s := { s with pendingNotifies := [] }
    let s := if resubscribe then subscribe info (unsubscribe info s) else s
    { s with notifyIdleSrc := false }

/-! ## Events -/

/-- What the main loop can run next. `response i` is the outcome of the `i`-th SUBSCRIBE in
flight. -/
inductive Event where
  | setSubscribed (subscribed : Bool)
  | notify (req : NotifyRequest)
  | idle (cb : Proxy → XmlDoc → List Bool)
  | expire
  | response (i : Nat) (resp : Response) (rand : Int → Int → Int)

/-- The outcome of the `i`-th SUBSCRIBE in flight, `msg`, arrives. -/
def Proxy.receive (s : Proxy) (i : Nat) (msg : SubscribeMsg) (resp : Response) : Proxy :=
  { s with inFlight := s.inFlight.eraseIdx i }.record (.response msg resp)

/-- One handler run to its end. A NOTIFY is only seen while the server handler is registered; a
timer or idle source that is not armed does not fire. -/
def step (info : Info) (s : Proxy) : Event → Option Proxy
  | .setSubscribed b => some (setSubscribed info b s)
  | .notify req => some (if s.listening then serverHandler req s else s)
  | .idle cb => if s.notifyIdleSrc then some (emitNotifications info cb s) else none
  | .expire => if s.subscriptionTimeoutSrc.isSome then some (subscriptionExpire info s) else none
  | .response i resp rand =>
    s.inFlight[i]?.map fun msg => subscribeGotResponse rand resp (s.receive i msg resp)

end GUPnP.ServiceProxy
