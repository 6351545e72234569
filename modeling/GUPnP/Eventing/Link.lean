import GUPnP.Service.Proof.Handlers
import GUPnP.ServiceProxy.Proof.Delivery

/-!
# One subscription, both ends

The publisher's side of a subscription (`Service.notifySubscriber`, `Service.notifyGotResponse`) and
the subscriber (`ServiceProxy`) joined by a channel that keeps the order. The channel may lose a
NOTIFY; a run is lossless when it loses none. Every NOTIFY succeeds at its first callback URL.

`flow_run`: after a lossless run with fewer than 2 ^ 32 events, the events were partly compared,
are partly pending and partly on the wire, in this order, and the `k`-th NOTIFY was or will be
compared with the counter `k`.
-/

set_option autoImplicit false

namespace GUPnP.Eventing

open ServiceProxy (Info Proxy passive compared)

/-- A NOTIFY as the subscriber's server sees it: the local name of the root element
`e:propertyset`, and the variables of the property set. -/
def request (msg : Service.NotifySubscriberData) : NotifyRequest where
  method := Gena.methodNotify
  nt := some msg.nt
  nts := some msg.nts
  seq := some msg.seq
  sid := some msg.sid
  body := some ⟨some "propertyset".toList,
    msg.propertySet.properties.map fun data => (data.name, data.value)⟩

structure Link where
  pub : Service.SubscriptionData
  wire : List Service.NotifySubscriberData
  proxy : Proxy

inductive LinkEvent where
  | raise (propertySet : Service.PropertySet)
  | deliver
  | lose
  | idle
  | complete (i : Nat)
  deriving DecidableEq

def Link.step (info : Info) (l : Link) : LinkEvent → Option Link
  | .raise propertySet =>
    let (d, es) := Service.notifySubscriber propertySet l.pub
    some { l with pub := d, wire := l.wire ++ Service.notifies es }
  | .deliver =>
    match l.wire with
    | [] => none
    | msg :: wire =>
      (ServiceProxy.step info l.proxy (.notify (request msg))).map fun proxy =>
        { l with wire := wire, proxy := proxy }
  | .lose =>
    match l.wire with
    | [] => none
    | _ :: wire => some { l with wire := wire }
  | .idle => (ServiceProxy.step info l.proxy (.idle passive)).map fun proxy =>
      { l with proxy := proxy }
  | .complete i => l.pub.pendingMessages[i]?.bind fun msg =>
      (Service.notifyGotResponse i msg (.done none 200 "OK") l.pub).1.map fun d => { l with pub := d }

/-- The event loses no NOTIFY. -/
def Lossless : Link → LinkEvent → Prop := fun _ e => e ≠ .lose

/-- The number of events raised. -/
def raised (es : List LinkEvent) : Nat :=
  es.countP fun
    | .raise _ => true
    | _ => false

/-- A subscription of which no event was sent yet. -/
structure LinkStart (sid : Str) (s : Link) : Prop where
  wellFormed : ServiceProxy.parseSid (some sid) = some sid
  pub : ∃ callbacks src, s.pub = .new callbacks sid src
  wire : s.wire = []
  proxy : ServiceProxy.Fresh sid s.proxy

/-! ## The publisher's counter -/

/-- The number of the `k`-th event. -/
def pubSeq (k : Nat) : Nat := (wrapSucc 0x7fffffff)^[k] 0

theorem nextSeq_pubSeq (k : Nat) : Service.nextSeq (pubSeq k) = pubSeq (k + 1) := by
  unfold Service.nextSeq pubSeq
  rw [Function.iterate_succ_apply']
  unfold wrapSucc
  split <;> split <;> omega

theorem pubSeq_le (k : Nat) : pubSeq k ≤ 0x7fffffff := iterate_wrapSucc_le (by omega) k

theorem pubSeq_of_lt {k : Nat} (h : k < 2 ^ 31) : pubSeq k = k := by
  unfold pubSeq
  rw [iterate_wrapSucc_of_le (by omega), Nat.zero_add]

theorem pubSeq_le_self (k : Nat) : pubSeq k ≤ k := by
  unfold pubSeq
  rw [iterate_wrapSucc_zero (by omega)]
  split
  · omega
  · have hmod := Nat.mod_le (k - 1) 0x7fffffff
    omega

/-! ## One message -/

theorem raise_sends {propertySet : Service.PropertySet} {d : Service.SubscriptionData}
    (h : d.toDelete = false) : Service.notifySubscriber propertySet d =
      ({ d with seq := Service.nextSeq d.seq,
                pendingMessages := d.message propertySet :: d.pendingMessages },
        [.notify (d.message propertySet)]) := by
  unfold Service.notifySubscriber
  rw [if_neg (by simp [Service.SubscriptionData.canDelete, h])]

theorem parseSeq_printD {k : Nat} (h : k < 2 ^ 32) :
    ServiceProxy.parseSeq (CString.printD k) = some (UInt32.ofNat k) := by
  have hsize : ¬ UInt32.size ≤ k := by
    show ¬ 2 ^ 32 ≤ k
    omega
  unfold ServiceProxy.parseSeq
  rw [CString.strtoul_printD (by omega) (by omega)]
  simp [hsize]

/-- What a subscriber accepts of a NOTIFY. -/
structure Carries (sid : Str) (k : Nat) (msg : Service.NotifySubscriberData) : Prop where
  nt : msg.nt = Gena.ntEvent
  nts : msg.nts = Gena.ntsPropChange
  sid : msg.sid = sid
  seq : msg.seq = CString.printD (pubSeq k)

theorem accepted_request {sid : Str} {k : Nat} {msg : Service.NotifySubscriberData}
    (hsid : ServiceProxy.parseSid (some sid) = some sid) (h : Carries sid k msg) :
    ∃ n, ServiceProxy.accepted (request msg) = some n ∧ n.sid = sid ∧ n.seq.toNat = pubSeq k := by
  have hlt : pubSeq k < 2 ^ 32 := by
    have hle := pubSeq_le k
    omega
  refine ⟨⟨sid, UInt32.ofNat (pubSeq k), ⟨some "propertyset".toList,
    msg.propertySet.properties.map fun data => (data.name, data.value)⟩⟩, ?_, rfl, ?_⟩
  · unfold ServiceProxy.accepted ServiceProxy.checkNotify request
    simp only [h.nt, h.nts, h.sid, h.seq, parseSeq_printD hlt, hsid]
    rfl
  · rw [UInt32.toNat_ofNat_of_lt' hlt]

/-! ## The channel -/

/-- From `k` on, the messages carry the numbers of consecutive events. -/
def Consecutive (sid : Str) : Nat → List Service.NotifySubscriberData → Prop
  | _, [] => True
  | k, msg :: wire => Carries sid k msg ∧ Consecutive sid (k + 1) wire

theorem consecutive_append {sid : Str} {k : Nat} {wire : List Service.NotifySubscriberData}
    {msg : Service.NotifySubscriberData} (h : Consecutive sid k wire)
    (hm : Carries sid (k + wire.length) msg) : Consecutive sid k (wire ++ [msg]) := by
  induction wire generalizing k with
  | nil => exact ⟨hm, trivial⟩
  | cons m wire ih =>
    refine ⟨h.1, ih h.2 ?_⟩
    rw [List.length_cons] at hm
    rwa [show k + 1 + wire.length = k + (wire.length + 1) by omega]

/-- From `k` on, the notifications carry the numbers of consecutive events. -/
def Queued (sid : Str) : Nat → List ServiceProxy.EmitNotifyData → Prop
  | _, [] => True
  | k, n :: q => (n.sid = sid ∧ n.seq.toNat = pubSeq k) ∧ Queued sid (k + 1) q

theorem queued_append {sid : Str} {k : Nat} {q : List ServiceProxy.EmitNotifyData}
    {n : ServiceProxy.EmitNotifyData} (h : Queued sid k q)
    (hn : n.sid = sid ∧ n.seq.toNat = pubSeq (k + q.length)) : Queued sid k (q ++ [n]) := by
  induction q generalizing k with
  | nil => exact ⟨hn, trivial⟩
  | cons m q ih =>
    refine ⟨h.1, ih h.2 ?_⟩
    rw [List.length_cons] at hn
    rwa [show k + 1 + q.length = k + (q.length + 1) by omega]

/-- Consecutive events are in step when the counter is the number of events before them. -/
theorem queued_inStep {sid : Str} {c : UInt32} {q : List ServiceProxy.EmitNotifyData}
    (h : Queued sid c.toNat q) (hlt : c.toNat + q.length < 2 ^ 32) :
    ServiceProxy.InStep c q ∧ compared (ServiceProxy.scanLog sid c q) =
      (List.range' c.toNat q.length).map fun k => (pubSeq k, k) := by
  induction q generalizing c with
  | nil => exact ⟨trivial, rfl⟩
  | cons n q ih =>
    rw [List.length_cons] at hlt
    have hle : n.seq ≤ c := by
      rw [UInt32.le_iff_toNat_le, h.1.2]
      exact pubSeq_le_self _
    have hc : (ServiceProxy.nextSeq c).toNat = c.toNat + 1 := by
      refine ServiceProxy.nextSeq_of_lt (UInt32.lt_iff_toNat_lt.2 ?_)
      show c.toNat < 0xffffffff
      omega
    obtain ⟨hin, hcmp⟩ := ih (c := ServiceProxy.nextSeq c) (by rw [hc]; exact h.2) (by omega)
    refine ⟨⟨hle, hin⟩, ?_⟩
    have hscan : ServiceProxy.scanLog sid c (n :: q) =
        [.compare n c, .dispatch n] ++ ServiceProxy.scanLog sid (ServiceProxy.nextSeq c) q := by
      rw [ServiceProxy.scanLog, if_neg (UInt32.not_lt.2 hle), if_pos h.1.1]
      rfl
    rw [hscan, ServiceProxy.compared_append, hcmp, hc, List.length_cons, List.range'_succ,
      List.map_cons]
    simp [compared, h.1.2]

/-- The state of the link after `n` events of a lossless run from `s`: `done` of them were
compared, then come the pending ones and those on the wire. -/
structure Flow (sid : Str) (s : Link) (n : Nat) (t : Link) (done : Nat) : Prop where
  pubSid : t.pub.sid = sid
  pubWanted : t.pub.toDelete = false
  pubSeq : t.pub.seq = pubSeq n
  proxySid : t.proxy.sid = some sid
  listening : t.proxy.listening = true
  seq : t.proxy.seq.toNat = done
  count : done + t.proxy.pendingNotifies.length + t.wire.length = n
  queued : Queued sid done t.proxy.pendingNotifies
  wire : Consecutive sid (done + t.proxy.pendingNotifies.length) t.wire
  compared : compared t.proxy.log =
    compared s.proxy.log ++ (List.range done).map fun k => (Eventing.pubSeq k, k)

theorem flow_start {sid : Str} {s : Link} (h : LinkStart sid s) : Flow sid s 0 s 0 := by
  obtain ⟨callbacks, src, hpub⟩ := h.pub
  have hp := h.proxy.pending
  refine ⟨by rw [hpub]; rfl, by rw [hpub]; rfl, by rw [hpub]; rfl, h.proxy.sid,
    h.proxy.listening, by rw [h.proxy.seq]; rfl, ?_, ?_, ?_, by simp⟩
  · rw [hp, h.wire]
    rfl
  · rw [hp]
    trivial
  · rw [h.wire]
    trivial

/-! ## Steps -/

variable {info : Info} {sid : Str} {s t u : Link} {n done : Nat}

theorem raise_step (info : Info) (h : t.pub.toDelete = false) (propertySet : Service.PropertySet) :
    t.step info (.raise propertySet) =
      some { t with
        pub := { t.pub with seq := Service.nextSeq t.pub.seq,
                            pendingMessages := t.pub.message propertySet :: t.pub.pendingMessages }
        wire := t.wire ++ [t.pub.message propertySet] } := by
  simp only [Link.step, raise_sends h]
  rfl

theorem deliver_step (he : t.step info .deliver = some u) :
    ∃ msg wire proxy, t.wire = msg :: wire ∧
      ServiceProxy.step info t.proxy (.notify (request msg)) = some proxy ∧
      u = { t with wire := wire, proxy := proxy } := by
  simp only [Link.step] at he
  split at he
  · cases he
  · rename_i msg wire hw
    obtain ⟨proxy, hp, rfl⟩ := Option.map_eq_some_iff.1 he
    exact ⟨msg, wire, proxy, hw, hp, rfl⟩

theorem lose_step (he : t.step info .lose = some u) :
    ∃ msg, t.wire = msg :: u.wire ∧ u = { t with wire := u.wire } := by
  simp only [Link.step] at he
  split at he
  · cases he
  · rename_i msg wire hw
    obtain rfl := Option.some.inj he
    exact ⟨msg, hw, rfl⟩

theorem flow_raise (h : Flow sid s n t done) {propertySet : Service.PropertySet}
    (he : t.step info (.raise propertySet) = some u) : Flow sid s (n + 1) u done := by
  have hcarries : Carries sid n (t.pub.message propertySet) :=
    ⟨rfl, rfl, h.pubSid, congrArg CString.printD h.pubSeq⟩
  rw [raise_step info h.pubWanted] at he
  obtain rfl := Option.some.inj he
  refine ⟨h.pubSid, h.pubWanted, ?_, h.proxySid, h.listening, h.seq, ?_, h.queued, ?_, h.compared⟩
  · show Service.nextSeq t.pub.seq = _
    rw [h.pubSeq, nextSeq_pubSeq]
  · have hcount := h.count
    show done + t.proxy.pendingNotifies.length + (t.wire ++ [t.pub.message propertySet]).length = _
    rw [List.length_append, List.length_singleton]
    omega
  · exact consecutive_append h.wire (by rw [h.count]; exact hcarries)

theorem flow_deliver (hsid : ServiceProxy.parseSid (some sid) = some sid)
    (h : Flow sid s n t done) (he : t.step info .deliver = some u) : Flow sid s n u done := by
  obtain ⟨msg, wire, proxy, hw, hp, rfl⟩ := deliver_step he
  obtain ⟨hl, -⟩ | ⟨-, rfl⟩ := ServiceProxy.notify_step hp
  · rw [h.listening] at hl
    cases hl
  · have hwire := h.wire
    have hcount := h.count
    rw [hw] at hwire hcount
    obtain ⟨m, ha, hm⟩ := accepted_request hsid hwire.1
    rw [ServiceProxy.serverHandler_queue ha (by rw [h.proxySid]; simp)]
    refine ⟨h.pubSid, h.pubWanted, h.pubSeq, h.proxySid, h.listening, h.seq, ?_,
      queued_append h.queued hm, ?_, ?_⟩
    · simp only [List.length_cons] at hcount
      simp only [ServiceProxy.record_pending, List.length_append, List.length_singleton]
      omega
    · simp only [ServiceProxy.record_pending, List.length_append, List.length_singleton]
      exact hwire.2
    · rw [ServiceProxy.record_log, ServiceProxy.compared_append]
      simpa [compared] using h.compared

/-- An idle dispatch compares everything that is pending. -/
theorem flow_idle (h : Flow sid s n t done) (hn : n < 2 ^ 32)
    (he : t.step info .idle = some u) :
    Flow sid s n u (done + t.proxy.pendingNotifies.length) ∧ u.proxy.pendingNotifies = [] ∧
      u.wire = t.wire := by
  obtain ⟨proxy, hp, rfl⟩ := Option.map_eq_some_iff.1 he
  obtain ⟨-, rfl⟩ := ServiceProxy.idle_step hp
  have hcount := h.count
  have hqueued := h.queued
  rw [← h.seq] at hqueued
  obtain ⟨hin, hcmp⟩ := queued_inStep hqueued (by rw [h.seq]; omega)
  obtain ⟨hloop, hgap⟩ := ServiceProxy.emitLoop_passive info t.proxy.pendingNotifies
    h.proxySid
  rw [ServiceProxy.emitNotifications_eq (by rw [h.proxySid]; simp), if_neg (by simp [hgap.2 hin]),
    hloop]
  refine ⟨⟨h.pubSid, h.pubWanted, h.pubSeq, h.proxySid, h.listening, ?_, ?_, trivial, h.wire, ?_⟩,
    rfl, rfl⟩
  · rw [ServiceProxy.deliverable_eq_self hin, ServiceProxy.iterate_nextSeq_toNat, h.seq,
      iterate_wrapSucc_of_le (by omega)]
  · exact hcount
  · have hrange : List.range done ++ List.range' done t.proxy.pendingNotifies.length =
        List.range (done + t.proxy.pendingNotifies.length) := by
      rw [List.range_eq_range', List.range_eq_range', ← List.range'_append_1, Nat.zero_add]
    rw [ServiceProxy.compared_append, hcmp, h.compared, h.seq, List.append_assoc, ← List.map_append,
      hrange]

theorem flow_complete (h : Flow sid s n t done) {i : Nat}
    (he : t.step info (.complete i) = some u) : Flow sid s n u done := by
  obtain ⟨msg, -, he⟩ := Option.bind_eq_some_iff.1 he
  obtain ⟨d, hd, rfl⟩ := Option.map_eq_some_iff.1 he
  have hok : isSuccessful 200 = true := rfl
  simp only [Service.notifyGotResponse, hok, ↓reduceIte, Option.some.injEq] at hd
  rw [← hd]
  exact ⟨h.pubSid, h.pubWanted, h.pubSeq, h.proxySid, h.listening, h.seq, h.count, h.queued, h.wire,
    h.compared⟩

theorem raised_append (es es' : List LinkEvent) : raised (es ++ es') = raised es + raised es' :=
  List.countP_append

/-- **The channel**: a lossless run with fewer than 2 ^ 32 events keeps the events in order. -/
theorem flow_run {es : List LinkEvent} (hs : LinkStart sid s)
    (h : Run (Link.step info) Lossless s es t) (hn : raised es < 2 ^ 32) :
    ∃ done, Flow sid s (raised es) t done := by
  refine h.history (fun es t => raised es < 2 ^ 32 → ∃ done, Flow sid s (raised es) t done) ?_
    (fun _ => ⟨0, flow_start hs⟩) hn
  intro es t e u ih ho he hn
  rw [raised_append] at hn ⊢
  obtain ⟨done, h⟩ := ih (by omega)
  cases e with
  | raise propertySet => exact ⟨done, flow_raise h he⟩
  | deliver => exact ⟨done, flow_deliver hs.wellFormed h he⟩
  | lose => exact absurd rfl ho
  | idle => exact ⟨_, (flow_idle h (by omega) he).1⟩
  | complete i => exact ⟨done, flow_complete h he⟩

end GUPnP.Eventing
