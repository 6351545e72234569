import GUPnP.Service.Proof.Lifetimes
import GUPnP.ServiceProxy.Proof.Handlers
import GUPnP.ServiceProxy.Proof.Renewal

/-!
# A subscription that is renewed does not lapse

The service and the proxy with one clock, and the SUBSCRIBE requests of the proxy and the responses to
them underway for at most `latency` seconds each. The service promises 300 seconds and the proxy renews
between 75 and 225 seconds after it has heard of that, so a latency of up to 37 seconds leaves time for
the renewal: in every run in which the proxy keeps its subscription and nothing ends it early the
service has it, and the proxy has its SID from the first answer on (`never_lapses`).
-/

set_option autoImplicit false

namespace GUPnP.Service

/-! ## The timer of a subscription -/

variable {ctx : Context} {sid : Str} {s t : ServiceState} {src : Source} {e : Event}
  {ok : ServiceState → Event → Prop} {es : List Event}

theorem introspectedLoop_clock (query : ServiceState → Str → Option Str) (keys : List Str)
    (s : ServiceState) : (keys.foldl (introspectedStep query) s).clock = s.clock := by
  induction keys generalizing s with
  | nil => rfl
  | cons sid₀ keys ih =>
    have hsend := (sameTimers_sendInitialState query sid₀ s).clock
    rw [List.foldl_cons, ih]
    obtain heq | ⟨d, -, -, heq⟩ := introspectedStep_cases query sid₀ s
    · rw [heq, hsend]
    · rw [heq, removeSubscription_clock, hsend]

/-- Only a tick takes time. -/
theorem step_clock (he : step ctx s e = some t) (htick : e ≠ .tick) : t.clock = s.clock := by
  cases e with
  | tick => exact absurd rfl htick
  | request req query =>
    simp only [step, Option.ite_none_right_eq_some, Option.some.injEq] at he
    rw [← he.2]
    obtain ⟨ans, -, heq⟩ | ⟨callbacks, -, -, -, -, heq⟩ | ⟨sid₀, d, -, -, hd, heq⟩ |
      ⟨sid₀, d, -, -, hd, heq⟩ := handler_spec ctx query req s
    · rw [heq]
      rfl
    · rw [heq]
      exact (sameTimers_sendInitialState ..).clock
    · rw [heq, resubscribe_some hd]
      rfl
    · rw [heq, unsubscribe_some hd]
      split
      · exact removeSubscription_clock ..
      · rfl
  | notifyValue name value => exact (sameTimers_update_event rfl he).clock
  | freezeNotify => exact (sameTimers_update_event rfl he).clock
  | thawNotify => exact (sameTimers_update_event rfl he).clock
  | introspected result query =>
    simp only [step, Option.ite_none_right_eq_some, Option.some.injEq] at he
    rw [← he.2]
    refine (introspectedLoop_clock query _ _).trans ?_
    cases result <;> rfl
  | response sid₀ i outcome =>
    rcases response_timers he with hsame | ⟨tail, rfl⟩
    · exact hsame.clock
    · exact removeSubscription_clock ..
  | timeout src =>
    simp only [step, Option.ite_none_right_eq_some, Option.some.injEq] at he
    rw [← he.2]
    exact removeSubscription_clock ..
  | unavailable =>
    obtain rfl := Option.some.inj he
    rfl
  | dispose =>
    obtain rfl := Option.some.inj he
    rfl

/-- No timer is due later than if its subscription were granted now. -/
theorem due_le (h : Run (step ctx) ok .init es s) (hsrc : src ∈ s.sources) :
    src.due ≤ s.clock + subscriptionTimeoutSeconds := by
  have hinv := h.history (fun es s => Run (step ctx) ok .init es s ∧
      ∀ src ∈ s.sources, src.due ≤ s.clock + subscriptionTimeoutSeconds)
    (fun es s e t hs ho he => ⟨.snoc hs.1 ho he, fun src hsrc => ?_⟩)
    ⟨.nil, fun src hsrc => absurd hsrc List.not_mem_nil⟩
  · exact hinv.2 src hsrc
  · have hclock : s.clock ≤ t.clock := by
      cases e with
      | tick =>
        simp only [step, Option.ite_none_right_eq_some, Option.some.injEq] at he
        rw [← he.2]
        exact Nat.le_succ _
      | _ => exact Nat.le_of_eq (step_clock he fun h => by cases h).symm
    rcases timers_step (timed_run hs.1) (wellFormed_run hs.1) he hsrc with ⟨-, hdue⟩ | ⟨-, hold⟩
    · omega
    · have hle := hs.2 src hold
      omega

/-- A step before a subscription is due that does not end it early does not make it due earlier. -/
theorem expiry_step (h : Run (step ctx) ok .init es s) (he : step ctx s e = some t)
    (hearly : ¬ EndsEarly sid s t e) {due : Nat}
    (hdue : s.expiry sid = some due) (hclock : s.clock < due) :
    ∃ due', t.expiry sid = some due' ∧ due ≤ due' := by
  have htimed := timed_run h
  have hw := wellFormed_run h
  obtain ⟨d, hd, -⟩ := Option.bind_eq_some_iff.1 hdue
  obtain ⟨src, hsrc, rfl, -⟩ := htimed.armed hd
  rw [htimed.expiry_eq hsrc] at hdue
  obtain rfl := Option.some.inj hdue
  cases hgone : t.subscriptions.lookup src.sid with
  | none => exact absurd (endsEarly h he hd hgone hsrc rfl hclock) hearly
  | some d' =>
    have htimed' := timed_step htimed hw he
    obtain ⟨src', hsrc', hsid, -⟩ := htimed'.armed hgone
    refine ⟨src'.due, hsid ▸ htimed'.expiry_eq hsrc', ?_⟩
    rcases timers_step htimed hw he hsrc' with ⟨-, hnew⟩ | ⟨-, hold⟩
    · rw [hnew]
      exact due_le h hsrc
    · rw [htimed.eq_of_sid hold hsrc hsid]

theorem expiry_tick (sid : Str) (he : step ctx s .tick = some t) :
    t.expiry sid = s.expiry sid ∧ t.clock = s.clock + 1 := by
  simp only [step, Option.ite_none_right_eq_some, Option.some.injEq] at he
  rw [← he.2]
  exact ⟨rfl, rfl⟩

end GUPnP.Service

namespace GUPnP.Eventing

open ServiceProxy (Info Proxy SubscribeMsg Draws jitterRange)
open Service (ServiceState SubscriptionRequest Answer EndsEarly subscriptionTimeoutSeconds)

/-! ## The system -/

/-- A SUBSCRIBE of the proxy is underway, or the response to it. -/
inductive Underway where
  | request (msg : SubscribeMsg)
  | response (ans : Answer)

/-- `due` is when the renewal timer of the proxy fires; `underway` has, for each SUBSCRIBE in flight,
what is underway and until when. -/
structure Lease where
  service : ServiceState
  proxy : Proxy
  due : Option Nat
  underway : List (Underway × Nat)

/-- The request that the service reads. -/
def subscriptionRequest (host : Option Str) (msg : SubscribeMsg) : SubscriptionRequest where
  method := Gena.methodSubscribe
  host := host
  callback := msg.callback
  nt := msg.nt
  sid := msg.sid

/-- The response that the proxy reads; `phrase` is what the session gives for a reason phrase. -/
def subscribeResponse (phrase : Nat → String) (ans : Answer) : ServiceProxy.Response :=
  .http ans.status.code (ans.status.reason.getD (phrase ans.status.code)) ans.sid ans.timeout

/-- The answer that a step of the service logged first. -/
def answerOf (s t : ServiceState) : Option Answer :=
  match (t.log.drop s.log.length).head? with
  | some (.answer _ ans) => some ans
  | _ => none

inductive LeaseEvent where
  | service (e : Service.Event)
  | proxy (e : ServiceProxy.Event)
  | expire
  | receive (i : Nat) (host : Option Str) (query : ServiceState → Str → Option Str)
  | answer (i : Nat) (phrase : Nat → String) (rand : Int → Int → Int)
  | tick

def LeaseEvent.isAnswer : LeaseEvent → Bool
  | .answer _ _ _ => true
  | _ => false

variable {ctx : Service.Context} {info : Info} {latency : Nat}

/-- The proxy ran a handler. What it sent is underway. -/
def Lease.proceed (latency : Nat) (m : Lease) (p : Proxy) : Lease where
  service := m.service
  proxy := p
  due := if p.subscriptionTimeoutSrc.isSome then m.due else none
  underway := m.underway ++ (p.inFlight.drop m.proxy.inFlight.length).map fun msg =>
    (.request msg, m.service.clock + latency)

/-- Time goes on only when nothing is due. -/
def Lease.step (ctx : Service.Context) (info : Info) (latency : Nat) (m : Lease) :
    LeaseEvent → Option Lease
  | .service .tick => none
  | .service e => (Service.step ctx m.service e).map fun s => { m with service := s }
  | .proxy .expire => none
  | .proxy (.response _ _ _) => none
  | .proxy e => (ServiceProxy.step info m.proxy e).map (m.proceed latency)
  | .expire =>
    if m.due.any (· ≤ m.service.clock) then
      (ServiceProxy.step info m.proxy .expire).map (m.proceed latency)
    else none
  | .receive i host query =>
    match m.underway[i]? with
    | some (.request msg, _) =>
      (Service.step ctx m.service (.request (subscriptionRequest host msg) query)).bind fun s =>
        (answerOf m.service s).map fun ans =>
          { m with
            service := s
            underway := m.underway.set i (.response ans, m.service.clock + latency) }
    | _ => none
  | .answer i phrase rand =>
    match m.underway[i]? with
    | some (.response ans, _) =>
      (ServiceProxy.step info m.proxy (.response i (subscribeResponse phrase ans) rand)).map fun p =>
        { m with
          proxy := p
          due := p.subscriptionTimeoutSrc.map fun delay => m.service.clock + delay.toNat
          underway := m.underway.eraseIdx i }
    | _ => none
  | .tick =>
    if m.due.all (m.service.clock < ·) ∧ m.underway.all (m.service.clock < ·.2) then
      (Service.step ctx m.service .tick).map fun s => { m with service := s }
    else none

/-- The proxy keeps its subscription, nothing ends it early, the service is addressed as it wants to be,
and the jitter is drawn from its range. -/
def Keeps (ctx : Service.Context) (info : Info) (sid : Str) (m : Lease) : LeaseEvent → Prop
  | .service e => ∀ s, Service.step ctx m.service e = some s → ¬ EndsEarly sid m.service s e
  | .proxy e => ∀ p, ServiceProxy.step info m.proxy e = some p →
      p.sid = m.proxy.sid ∧ p.subscribed = true
  | .receive _ host _ => ctx.validateHostHeader host = true
  | .answer _ _ rand => Draws rand (jitterRange subscriptionTimeoutSeconds)
  | _ => True

/-- The service has just granted the subscription in answer to the SUBSCRIBE of a proxy that has none
yet. -/
structure Granted (ctx : Service.Context) (latency : Nat) (sid : Str) (m : Lease) : Prop where
  reached : ∃ es, Run (Service.step ctx) AnyStep .init es m.service
  expiry : m.service.expiry sid = some (m.service.clock + subscriptionTimeoutSeconds)
  wanted : m.proxy.subscribed = true
  noSid : m.proxy.sid = none
  timer : m.proxy.subscriptionTimeoutSrc = none
  inFlight : ∃ msg, m.proxy.inFlight = [msg]
  underway : m.underway = [(.response (ctx.subscriptionAnswer sid), m.service.clock + latency)]
  due : m.due = none

/-! ## The proxy -/

variable {sid : Str} {p q : Proxy} {m u t : Lease} {expiry expiry' : Nat} {heard : Bool}

/-- Where `q` has the SID that `p` has, it has all of the subscription of `p`. -/
def SameLease (p q : Proxy) : Prop :=
  q.sid = p.sid → q.subscribed = true ∧ q.subscriptionTimeoutSrc = p.subscriptionTimeoutSrc ∧
    q.inFlight = p.inFlight

theorem sameLease_setSubscribed (hsid : p.sid ≠ none) (h : SameLease p q) (b : Bool) :
    SameLease p (ServiceProxy.setSubscribed info b q) := by
  obtain ⟨-, he⟩ | ⟨-, hsub, he⟩ | ⟨-, -, he⟩ := ServiceProxy.setSubscribed_cases info b q
  · rwa [he]
  · rw [he]
    intro heq
    rw [ServiceProxy.record_sid, ServiceProxy.subscribe_sid] at heq
    cases (h heq).1.symm.trans hsub
  · rw [he]
    intro heq
    rw [ServiceProxy.record_sid, ServiceProxy.unsubscribe_sid] at heq
    exact absurd heq.symm hsid

theorem sameLease_idle (hsid : p.sid ≠ none) (cb : Proxy → XmlDoc → List Bool)
    (h : SameLease p p) : SameLease p (ServiceProxy.emitNotifications info cb p) := by
  rw [ServiceProxy.emitNotifications_eq fun hd => hsid hd.1]
  have hloop := ServiceProxy.emitLoop_inv info cb (fun _ q => SameLease p q)
    (fun _ _ _ hq => hq)
    (fun n rest q hq _ => ServiceProxy.emitStep_inv info cb (SameLease p)
      (fun q b hq => sameLease_setSubscribed hsid hq b) hq hq)
    p.pendingNotifies p h
  obtain ⟨hno, hq⟩ | ⟨hgap, -, -, -, -, hq⟩ := hloop
  · rw [if_neg (by simp [hno])]
    exact hq
  · rw [if_pos hgap]
    intro heq
    dsimp only at heq
    rw [ServiceProxy.subscribe_sid, ServiceProxy.unsubscribe_sid] at heq
    exact absurd heq.symm hsid

/-- A handler after which the proxy has its subscription leaves it alone. -/
theorem proxy_keeps {e : ServiceProxy.Event} (hwanted : p.subscribed = true)
    (he : ServiceProxy.step info p e = some q) (hexpire : e ≠ .expire)
    (hresponse : ∀ i resp rand, e ≠ .response i resp rand) (hsid : q.sid = p.sid)
    (hkept : q.subscribed = true) :
    q.subscriptionTimeoutSrc = p.subscriptionTimeoutSrc ∧ q.inFlight = p.inFlight := by
  have hself : SameLease p p := fun _ => ⟨hwanted, rfl, rfl⟩
  cases e with
  | expire => exact absurd rfl hexpire
  | response i resp rand => exact absurd rfl (hresponse i resp rand)
  | notify req =>
    obtain ⟨-, rfl⟩ | ⟨-, rfl⟩ := ServiceProxy.notify_step he
    · exact ⟨rfl, rfl⟩
    · obtain ⟨n, -, -, -, hq⟩ | ⟨status, hq⟩ := ServiceProxy.serverHandler_cases req p
      · rw [hq]
        exact ⟨rfl, rfl⟩
      · rw [hq]
        exact ⟨rfl, rfl⟩
  | setSubscribed b =>
    obtain rfl := Option.some.inj he
    obtain ⟨-, hq⟩ | ⟨-, hsub, -⟩ | ⟨-, -, hq⟩ := ServiceProxy.setSubscribed_cases info b p
    · rw [hq]
      exact ⟨rfl, rfl⟩
    · cases hwanted.symm.trans hsub
    · rw [hq, ServiceProxy.record_subscribed, ServiceProxy.unsubscribe_subscribed] at hkept
      cases hkept
  | idle cb =>
    obtain ⟨-, rfl⟩ := ServiceProxy.idle_step he
    cases hnone : p.sid with
    | none =>
      rw [ServiceProxy.emitNotifications_delayed ⟨hnone, hwanted⟩]
      exact ⟨rfl, rfl⟩
    | some g => exact (sameLease_idle (by rw [hnone]; exact nofun) cb hself hsid).2

/-! ## The phases of a lease -/

/-- The SID that the proxy has, before and after it has heard of it. -/
def sidHeard (sid : Str) (heard : Bool) : Option Str := if heard then some sid else none

/-- The proxy waits for its timer, its renewal is underway, or an answer is: the first one, of which it
has not heard, or that to a renewal. -/
inductive Phase (ctx : Service.Context) (latency : Nat) (sid : Str) (m : Lease) (expiry : Nat) :
    Bool → Prop
  | waiting (due : Nat) (held : m.proxy.sid = some sid)
      (timer : m.proxy.subscriptionTimeoutSrc.isSome) (armed : m.due = some due)
      (inFlight : m.proxy.inFlight = []) (underway : m.underway = [])
      (clock : m.service.clock ≤ due) (early : due + latency < expiry) :
      Phase ctx latency sid m expiry true
  | requested (time : Nat) (msg : SubscribeMsg) (held : m.proxy.sid = some sid)
      (timer : m.proxy.subscriptionTimeoutSrc = none) (idle : m.due = none)
      (inFlight : m.proxy.inFlight = [msg]) (underway : m.underway = [(.request msg, time)])
      (renewal : msg.callback = none ∧ msg.nt = none ∧ msg.sid = some sid)
      (clock : m.service.clock ≤ time) (early : time < expiry) :
      Phase ctx latency sid m expiry true
  | answered (heard : Bool) (time : Nat) (msg : SubscribeMsg)
      (held : m.proxy.sid = sidHeard sid heard)
      (timer : m.proxy.subscriptionTimeoutSrc = none) (idle : m.due = none)
      (inFlight : m.proxy.inFlight = [msg])
      (underway : m.underway = [(.response (ctx.subscriptionAnswer sid), time)])
      (clock : m.service.clock ≤ time)
      (early : time + subscriptionTimeoutSeconds ≤ expiry + latency) :
      Phase ctx latency sid m expiry heard

structure Leased (ctx : Service.Context) (latency : Nat) (sid : Str) (heard : Bool) (m : Lease) :
    Prop where
  reached : ∃ es, Run (Service.step ctx) AnyStep .init es m.service
  wanted : m.proxy.subscribed = true
  phase : ∃ expiry, m.service.expiry sid = some expiry ∧ Phase ctx latency sid m expiry heard

theorem leased_of_granted (h : Granted ctx latency sid m) : Leased ctx latency sid false m := by
  obtain ⟨msg, hmsg⟩ := h.inFlight
  exact ⟨h.reached, h.wanted, _, h.expiry, .answered false _ msg h.noSid h.timer h.due hmsg
    h.underway (Nat.le_add_right ..) (by omega)⟩

theorem Phase.sid_eq (h : Phase ctx latency sid m expiry heard) :
    m.proxy.sid = sidHeard sid heard := by
  cases h with
  | waiting _ hheld => exact hheld
  | requested _ _ hheld => exact hheld
  | answered _ _ _ hheld => exact hheld

/-- In every phase there is time left. -/
theorem Phase.clock_lt (hlatency : 2 * latency < 76) (h : Phase ctx latency sid m expiry heard) :
    m.service.clock < expiry := by
  cases h with
  | waiting due _ _ _ _ _ hclock hearly => omega
  | requested time msg _ _ _ _ _ _ hclock hearly => omega
  | answered _ time msg _ _ _ _ _ hclock hearly =>
    unfold subscriptionTimeoutSeconds at hearly
    omega

/-- Another step of the service. -/
theorem Phase.service {s : ServiceState} (h : Phase ctx latency sid m expiry heard)
    (hclock : s.clock = m.service.clock) (hle : expiry ≤ expiry') :
    Phase ctx latency sid { m with service := s } expiry' heard := by
  cases h with
  | waiting due hheld htimer harmed hinFlight hunderway htime hearly =>
    exact .waiting due hheld htimer harmed hinFlight hunderway (hclock ▸ htime) (by omega)
  | requested time msg hheld htimer hidle hinFlight hunderway hrenewal htime hearly =>
    exact .requested time msg hheld htimer hidle hinFlight hunderway hrenewal (hclock ▸ htime)
      (by omega)
  | answered _ time msg hheld htimer hidle hinFlight hunderway htime hearly =>
    exact .answered _ time msg hheld htimer hidle hinFlight hunderway (hclock ▸ htime) (by omega)

/-- A step of the proxy that keeps the subscription. -/
theorem Phase.proxy (h : Phase ctx latency sid m expiry heard) (hsid : p.sid = m.proxy.sid)
    (htimer : p.subscriptionTimeoutSrc = m.proxy.subscriptionTimeoutSrc)
    (hinFlight : p.inFlight = m.proxy.inFlight) :
    Phase ctx latency sid (m.proceed latency p) expiry heard := by
  have hunderway : (m.proceed latency p).underway = m.underway := by
    unfold Lease.proceed
    rw [hinFlight, List.drop_length]
    exact List.append_nil _
  cases h with
  | waiting due hheld harmed hdue hflight hway htime hearly =>
    refine .waiting due (hsid.trans hheld) (htimer ▸ harmed) ?_ (hinFlight.trans hflight)
      (hunderway.trans hway) htime hearly
    unfold Lease.proceed
    rw [htimer, if_pos harmed, hdue]
  | requested time msg hheld hnone hidle hflight hway hrenewal htime hearly =>
    refine .requested time msg (hsid.trans hheld) (htimer.trans hnone) ?_ (hinFlight.trans hflight)
      (hunderway.trans hway) hrenewal htime hearly
    unfold Lease.proceed
    rw [htimer, hnone]
    rfl
  | answered _ time msg hheld hnone hidle hflight hway htime hearly =>
    refine .answered _ time msg (hsid.trans hheld) (htimer.trans hnone) ?_ (hinFlight.trans hflight)
      (hunderway.trans hway) htime hearly
    unfold Lease.proceed
    rw [htimer, hnone]
    rfl

/-- The timer fires and the renewal is sent. -/
theorem Phase.expire (hurl : info.subscriptionUrl.isSome)
    (h : Phase ctx latency sid m expiry heard)
    (hdue : m.due.any (· ≤ m.service.clock) = true)
    (he : ServiceProxy.step info m.proxy .expire = some p) :
    p.subscribed = m.proxy.subscribed ∧ Phase ctx latency sid (m.proceed latency p) expiry heard := by
  cases h with
  | waiting due hheld harmed hset hflight hway htime hearly =>
    rw [hset, Option.any_some, decide_eq_true_eq] at hdue
    obtain ⟨-, rfl⟩ := ServiceProxy.expire_step he
    obtain ⟨g, url, hg, -, hq⟩ | ⟨hnone, -⟩ := ServiceProxy.subscriptionExpire_cases info m.proxy
    · obtain rfl := Option.some.inj (hheld.symm.trans hg)
      rw [hq]
      refine ⟨rfl, .requested (m.service.clock + latency) (info.renewalMsg url sid) hheld rfl rfl
        ?_ ?_ ⟨rfl, rfl, rfl⟩ (Nat.le_add_right ..) (by omega)⟩
      · unfold Lease.proceed
        rw [ServiceProxy.send_inFlight]
        dsimp only
        rw [hflight]
        rfl
      · unfold Lease.proceed
        rw [ServiceProxy.send_inFlight]
        dsimp only
        rw [hflight, hway]
        rfl
    · rw [hheld] at hnone
      rcases hnone with hnone | hnone
      · cases hnone
      · rw [hnone] at hurl
        cases hurl
  | requested _ _ _ _ hidle => rw [hidle] at hdue; cases hdue
  | answered _ _ _ _ _ hidle => rw [hidle] at hdue; cases hdue

theorem getElem?_singleton {α : Type} {x y : α} {i : Nat} (h : [x][i]? = some y) : i = 0 ∧ x = y := by
  cases i with
  | zero => exact ⟨rfl, Option.some.inj h⟩
  | succ i => cases h

/-- The renewal of a subscription that the service has is granted. -/
theorem handler_renewal {s : ServiceState} {host : Option Str} {msg : SubscribeMsg}
    (hhost : ctx.validateHostHeader host = true)
    (hrenewal : msg.callback = none ∧ msg.nt = none ∧ msg.sid = some sid)
    (query : ServiceState → Str → Option Str) :
    Service.subscriptionServerHandler ctx query (subscriptionRequest host msg) s =
      Service.resubscribe ctx (subscriptionRequest host msg) sid s := by
  obtain ⟨hcallback, hnt, hsid⟩ := hrenewal
  unfold Service.subscriptionServerHandler subscriptionRequest
  simp only [hhost, hcallback, hnt, hsid, Bool.not_true, Bool.false_eq_true, ↓reduceIte,
    Option.isSome_none]

/-- The renewal arrives at the service. -/
theorem Phase.receive (hreached : ∃ es, Run (Service.step ctx) AnyStep .init es m.service)
    (hexpiry : m.service.expiry sid = some expiry) (h : Phase ctx latency sid m expiry heard) {i : Nat}
    {host : Option Str} {query : ServiceState → Str → Option Str} {msg : SubscribeMsg} {time : Nat}
    (hhost : ctx.validateHostHeader host = true)
    (hi : m.underway[i]? = some (.request msg, time)) {s : ServiceState} {ans : Answer}
    (he : Service.step ctx m.service (.request (subscriptionRequest host msg) query) = some s)
    (hans : answerOf m.service s = some ans) :
    s.expiry sid = some (m.service.clock + subscriptionTimeoutSeconds) ∧
      Phase ctx latency sid { m with
        service := s
        underway := m.underway.set i (.response ans, m.service.clock + latency) }
        (m.service.clock + subscriptionTimeoutSeconds) heard := by
  cases h with
  | waiting _ _ _ _ _ hway => rw [hway] at hi; cases hi
  | answered _ _ _ _ _ _ _ hway =>
    rw [hway] at hi
    cases (getElem?_singleton hi).2
  | requested time' msg' hheld hnone hidle hflight hway hrenewal htime hearly =>
    rw [hway] at hi ⊢
    obtain ⟨rfl, hmsg⟩ := getElem?_singleton hi
    cases hmsg
    obtain ⟨es, hrun⟩ := hreached
    have hclock := Service.step_clock he (by exact nofun)
    simp only [Service.step, Option.ite_none_right_eq_some, Option.some.injEq] at he
    obtain ⟨-, rfl⟩ := he
    rw [handler_renewal hhost hrenewal] at hans hclock ⊢
    obtain ⟨d, hd, -⟩ := Option.bind_eq_some_iff.1 hexpiry
    have haddressed : Service.Addressed ctx sid (subscriptionRequest host msg) :=
      ⟨hhost, .inl rfl, hrenewal.1, hrenewal.2.1, hrenewal.2.2⟩
    have hrenewed := (Service.renewed (Service.timed_run hrun) hd haddressed rfl).2
    refine ⟨hrenewed.expiry, ?_⟩
    unfold answerOf at hans
    rw [hrenewed.log, Service.head_drop_append] at hans
    obtain rfl := Option.some.inj hans
    exact .answered true (m.service.clock + latency) msg hheld hnone hidle hflight rfl
      (by rw [hclock]; exact Nat.le_add_right ..) (by omega)

/-- The delay that the proxy makes of the promise of the service. -/
theorem renewalDelay_promise {rand : Int → Int → Int}
    (hdraw : Draws rand (jitterRange subscriptionTimeoutSeconds)) :
    ∃ delay : Int, ServiceProxy.renewalDelay rand
        ("Second-".toList ++ CString.printD subscriptionTimeoutSeconds) = some delay ∧
      75 ≤ delay ∧ delay < 225 := by
  have hread : ServiceProxy.readTimeout (CString.printD subscriptionTimeoutSeconds) = 300 := by decide
  have hbounds := ServiceProxy.delay_bounds (by decide : (0 : Int) ≤ 300) hdraw
  rw [ServiceProxy.renewalDelay_second, hread]
  exact ⟨_, rfl, hbounds.1, hbounds.2⟩

/-- The answer arrives at the proxy. -/
theorem Phase.answer (hlatency : 2 * latency < 76) (hwanted : m.proxy.subscribed = true)
    (h : Phase ctx latency sid m expiry heard) {i : Nat} {ans : Answer} {time : Nat}
    {phrase : Nat → String} {rand : Int → Int → Int}
    (hdraw : Draws rand (jitterRange subscriptionTimeoutSeconds))
    (hi : m.underway[i]? = some (.response ans, time))
    (he : ServiceProxy.step info m.proxy (.response i (subscribeResponse phrase ans) rand) = some p) :
    p.subscribed = true ∧ Phase ctx latency sid { m with
      proxy := p
      due := p.subscriptionTimeoutSrc.map fun delay => m.service.clock + delay.toNat
      underway := m.underway.eraseIdx i } expiry true := by
  cases h with
  | waiting _ _ _ _ _ hway => rw [hway] at hi; cases hi
  | requested _ _ _ _ _ _ hway =>
    rw [hway] at hi
    cases (getElem?_singleton hi).2
  | answered _ time' msg hheld hnone hidle hflight hway htime hearly =>
    rw [hway] at hi ⊢
    obtain ⟨rfl, hans⟩ := getElem?_singleton hi
    cases hans
    obtain ⟨msg', -, rfl⟩ := ServiceProxy.response_step he
    obtain ⟨delay, hdelay, hlow, hhigh⟩ := renewalDelay_promise hdraw
    have hq : ServiceProxy.subscribeGotResponse rand
        (subscribeResponse phrase (ctx.subscriptionAnswer sid))
        (m.proxy.receive 0 msg' (subscribeResponse phrase (ctx.subscriptionAnswer sid))) =
        { m.proxy.receive 0 msg' (subscribeResponse phrase (ctx.subscriptionAnswer sid)) with
          sid := some sid, subscriptionTimeoutSrc := some delay } := by
      rw [← hdelay]
      unfold subscribeResponse Service.Context.subscriptionAnswer ServiceProxy.subscribeGotResponse
      simp only [ServiceProxy.receive_subscribed, hwanted, Bool.not_true, Bool.false_eq_true,
        ↓reduceIte]
      rfl
    rw [hq]
    refine ⟨hwanted, .waiting (m.service.clock + delay.toNat) rfl rfl rfl ?_ rfl
      (Nat.le_add_right ..) ?_⟩
    · show m.proxy.inFlight.eraseIdx 0 = []
      rw [hflight]
      rfl
    · unfold subscriptionTimeoutSeconds at hearly
      omega

/-- A second passes. -/
theorem Phase.tick (h : Phase ctx latency sid m expiry heard) {s : ServiceState}
    (hclock : s.clock = m.service.clock + 1) (hdue : m.due.all (m.service.clock < ·) = true)
    (hway : m.underway.all (m.service.clock < ·.2) = true) :
    Phase ctx latency sid { m with service := s } expiry heard := by
  cases h with
  | waiting due hheld harmed hset hflight hunderway htime hearly =>
    rw [hset, Option.all_some, decide_eq_true_eq] at hdue
    exact .waiting due hheld harmed hset hflight hunderway (by dsimp only; omega) hearly
  | requested time msg hheld hnone hidle hflight hunderway hrenewal htime hearly =>
    rw [hunderway, List.all_cons, Bool.and_eq_true, decide_eq_true_eq] at hway
    exact .requested time msg hheld hnone hidle hflight hunderway hrenewal
      (by have := hway.1; dsimp only at this ⊢; omega) hearly
  | answered _ time msg hheld hnone hidle hflight hunderway htime hearly =>
    rw [hunderway, List.all_cons, Bool.and_eq_true, decide_eq_true_eq] at hway
    exact .answered _ time msg hheld hnone hidle hflight hunderway
      (by have := hway.1; dsimp only at this ⊢; omega) hearly

/-! ## Steps and runs -/

theorem leased_step {e : LeaseEvent} (hlatency : 2 * latency < 76)
    (hurl : info.subscriptionUrl.isSome) (h : Leased ctx latency sid heard m)
    (ho : Keeps ctx info sid m e) (he : m.step ctx info latency e = some u) :
    Leased ctx latency sid (e.isAnswer || heard) u := by
  obtain ⟨es, hrun⟩ := h.reached
  obtain ⟨expiry, hexpiry, hphase⟩ := h.phase
  cases e with
  | service e =>
    have hstep : e ≠ .tick ∧ ∃ s, Service.step ctx m.service e = some s ∧
        { m with service := s } = u := by
      cases e with
      | tick => cases he
      | _ => exact ⟨nofun, Option.map_eq_some_iff.1 he⟩
    obtain ⟨htick, s, hs, rfl⟩ := hstep
    obtain ⟨expiry', hexpiry', hle⟩ :=
      Service.expiry_step hrun hs (ho s hs) hexpiry (hphase.clock_lt hlatency)
    exact ⟨⟨_, hrun.snoc trivial hs⟩, h.wanted, expiry', hexpiry',
      hphase.service (Service.step_clock hs htick) hle⟩
  | proxy e =>
    have hstep : e ≠ .expire ∧ (∀ i resp rand, e ≠ .response i resp rand) ∧
        ∃ p, ServiceProxy.step info m.proxy e = some p ∧ m.proceed latency p = u := by
      cases e with
      | expire => cases he
      | response i resp rand => cases he
      | _ => exact ⟨nofun, nofun, Option.map_eq_some_iff.1 he⟩
    obtain ⟨hexpire, hresponse, p, hp, rfl⟩ := hstep
    obtain ⟨hsid, hkept⟩ := ho p hp
    obtain ⟨htimer, hflight⟩ := proxy_keeps h.wanted hp hexpire hresponse hsid hkept
    exact ⟨h.reached, hkept, expiry, hexpiry, hphase.proxy hsid htimer hflight⟩
  | expire =>
    simp only [Lease.step] at he
    split at he
    · rename_i hdue
      obtain ⟨p, hp, rfl⟩ := Option.map_eq_some_iff.1 he
      obtain ⟨hsub, hphase⟩ := hphase.expire hurl hdue hp
      exact ⟨h.reached, hsub.trans h.wanted, expiry, hexpiry, hphase⟩
    · cases he
  | receive i host query =>
    simp only [Lease.step] at he
    split at he
    · rename_i msg time hi
      obtain ⟨s, hs, he⟩ := Option.bind_eq_some_iff.1 he
      obtain ⟨ans, hans, rfl⟩ := Option.map_eq_some_iff.1 he
      obtain ⟨hexpiry', hphase'⟩ := hphase.receive h.reached hexpiry ho hi hs hans
      exact ⟨⟨_, hrun.snoc trivial hs⟩, h.wanted, _, hexpiry', hphase'⟩
    · cases he
  | answer i phrase rand =>
    simp only [Lease.step] at he
    split at he
    · rename_i ans time hi
      obtain ⟨p, hp, rfl⟩ := Option.map_eq_some_iff.1 he
      obtain ⟨hsub, hphase⟩ := hphase.answer hlatency h.wanted ho hi hp
      exact ⟨h.reached, hsub, expiry, hexpiry, hphase⟩
    · cases he
  | tick =>
    simp only [Lease.step] at he
    split at he
    · rename_i hdue
      obtain ⟨s, hs, rfl⟩ := Option.map_eq_some_iff.1 he
      obtain ⟨hsame, hclock⟩ := Service.expiry_tick sid hs
      exact ⟨⟨_, hrun.snoc trivial hs⟩, h.wanted, expiry, hsame.trans hexpiry,
        hphase.tick hclock hdue.1 hdue.2⟩
    · cases he

/-- **A subscription that is renewed does not lapse.** With a latency of at most 37 seconds, in every
run in which the proxy keeps its subscription and nothing ends it early, the service has the
subscription and its timer is not due; and the proxy has its SID from the first answer on, also while
it is renewed. -/
theorem never_lapses {es : List LeaseEvent} (hlatency : 2 * latency < 76)
    (hurl : info.subscriptionUrl.isSome) (hstart : Granted ctx latency sid m)
    (h : Run (Lease.step ctx info latency) (Keeps ctx info sid) m es t) :
    (∃ due, t.service.expiry sid = some due ∧ t.service.clock < due) ∧
      t.proxy.sid = if es.any LeaseEvent.isAnswer then some sid else none := by
  have hleased := h.history (fun es m => Leased ctx latency sid (es.any LeaseEvent.isAnswer) m)
    (fun es m e u hm ho he => ?_) (leased_of_granted hstart)
  · obtain ⟨due, hdue, hphase⟩ := hleased.phase
    exact ⟨⟨due, hdue, hphase.clock_lt hlatency⟩, hphase.sid_eq⟩
  · rw [List.any_append, List.any_cons, List.any_nil, Bool.or_false, Bool.or_comm]
    exact leased_step hlatency hurl hm ho he

/-! ## A concrete lease -/

/-- The service has answered the SUBSCRIBE of a proxy. -/
def sampleLease : Lease where
  service := Service.subscriptionServerHandler Service.sampleContext Service.sampleQuery
    Service.sampleSubscribe .init
  proxy := ServiceProxy.sampleInProgress
  due := none
  underway := [(.response (Service.sampleContext.subscriptionAnswer Service.sampleSid), 1)]

theorem granted_sample : Granted Service.sampleContext 1 Service.sampleSid sampleLease where
  reached := ⟨[.request Service.sampleSubscribe Service.sampleQuery], .single trivial rfl⟩
  expiry := by decide
  wanted := rfl
  noSid := rfl
  timer := rfl
  inFlight := ⟨_, rfl⟩
  underway := rfl
  due := rfl

/-- The first renewal, as early as can be. -/
def sampleRenewal : List LeaseEvent :=
  .answer 0 (fun _ => "OK") ServiceProxy.leastJitter ::
    (List.replicate 75 .tick ++ [.expire, .receive 0 none Service.sampleQuery])

theorem keeps_sample (e : LeaseEvent) (he : e ∈ sampleRenewal) (m : Lease) :
    Keeps Service.sampleContext ServiceProxy.sampleInfo Service.sampleSid m e := by
  rcases List.mem_cons.1 he with rfl | he
  · exact ⟨by decide, by decide⟩
  rcases List.mem_append.1 he with he | he
  · rw [List.eq_of_mem_replicate he]
    trivial
  rcases List.mem_cons.1 he with rfl | he
  · trivial
  · rw [List.mem_singleton.1 he]
    rfl

theorem never_lapses_sample : ∃ t,
    Run (Lease.step Service.sampleContext ServiceProxy.sampleInfo 1)
      (Keeps Service.sampleContext ServiceProxy.sampleInfo Service.sampleSid) sampleLease
      sampleRenewal t ∧
    t.service.clock = 75 ∧
    (∃ due, t.service.expiry Service.sampleSid = some due ∧ t.service.clock < due) ∧
    t.proxy.sid = some Service.sampleSid := by
  have heval : (sampleRenewal.foldlM (Lease.step Service.sampleContext ServiceProxy.sampleInfo 1)
      sampleLease).map (fun m => m.service.clock) = some 75 := by decide +kernel
  obtain ⟨t, hany, hclock⟩ := Run.exists_of_foldlM heval
  have hrun : Run (Lease.step Service.sampleContext ServiceProxy.sampleInfo 1)
      (Keeps Service.sampleContext ServiceProxy.sampleInfo Service.sampleSid) sampleLease
      sampleRenewal t := (hany.mono_mem keeps_sample).mono fun m _ hk => hk m
  exact ⟨t, hrun, hclock, never_lapses (by decide) rfl granted_sample hrun⟩

/-! ## The latest renewal -/

/-- The jitter at its most. -/
def mostJitter : Int → Int → Int := fun _ high => high - 1

/-- The answer takes 38 seconds, the proxy waits for 224, and the renewal does not arrive in the 38 that
are left. -/
def latestRenewal : List LeaseEvent :=
  List.replicate 38 .tick ++ .answer 0 (fun _ => "OK") mostJitter ::
    (List.replicate 224 .tick ++ .expire ::
      (List.replicate 38 .tick ++ [.service (.timeout ⟨0, Service.sampleSid, 300⟩)]))

theorem keeps_latest (e : LeaseEvent) (he : e ∈ latestRenewal) (m : Lease) :
    Keeps Service.sampleContext ServiceProxy.sampleInfo Service.sampleSid m e := by
  rcases List.mem_append.1 he with he | he
  · rw [List.eq_of_mem_replicate he]
    trivial
  rcases List.mem_cons.1 he with rfl | he
  · exact ⟨by decide, by decide⟩
  rcases List.mem_append.1 he with he | he
  · rw [List.eq_of_mem_replicate he]
    trivial
  rcases List.mem_cons.1 he with rfl | he
  · trivial
  rcases List.mem_append.1 he with he | he
  · rw [List.eq_of_mem_replicate he]
    trivial
  · rw [List.mem_singleton.1 he]
    exact fun _ _ => id

/-- With 38 seconds the subscription may lapse. -/
theorem lapses_latest : ∃ m t, Granted Service.sampleContext 38 Service.sampleSid m ∧
    Run (Lease.step Service.sampleContext ServiceProxy.sampleInfo 38)
      (Keeps Service.sampleContext ServiceProxy.sampleInfo Service.sampleSid) m latestRenewal t ∧
    t.service.expiry Service.sampleSid = none := by
  let m : Lease := { sampleLease with
    underway := [(.response (Service.sampleContext.subscriptionAnswer Service.sampleSid), 38)] }
  have heval : (latestRenewal.foldlM (Lease.step Service.sampleContext ServiceProxy.sampleInfo 38)
      m).map (fun m => m.service.expiry Service.sampleSid) = some none := by decide +kernel
  obtain ⟨t, hany, hnone⟩ := Run.exists_of_foldlM heval
  refine ⟨m, t, ⟨?_, by decide, rfl, rfl, rfl, ⟨_, rfl⟩, rfl, rfl⟩, ?_, hnone⟩
  · exact granted_sample.reached
  · exact (hany.mono_mem keeps_latest).mono fun m _ hk => hk m

end GUPnP.Eventing
