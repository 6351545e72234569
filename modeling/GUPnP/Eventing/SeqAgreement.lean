import GUPnP.Eventing.Link

/-!
# Publisher and subscriber agree on the event numbers

The publisher wraps its `int` at `G_MAXINT32` and the subscriber its `guint32` at `G_MAXUINT32`.
`seq_agreement_iff`: the numbers printed are those the subscriber expects, and a loss is detected,
in all runs with at most `n` events exactly when `n ≤ 2 ^ 31`. One event later the publisher sends
the number 1 to a counter of 2 ^ 31 (`first_disagreement`).
-/

set_option autoImplicit false

namespace GUPnP.Eventing

open ServiceProxy (Info passive compared subscribesSent)

variable {info : Info} {sid : Str} {s t u : Link} {n : Nat}

/-- From `t` to `u` the subscriber gave its subscription up and asked for a new one. -/
def Resubscribed (info : Info) (t u : Link) : Prop :=
  u.proxy.sid = none ∧ subscribesSent u.proxy.log =
    subscribesSent t.proxy.log ++ info.subscriptionUrl.toList.map info.subscribeMsg

/-- In the lossless runs from `s` with at most `n` events every number is compared with an equal
counter; and when all that was delivered was dispatched, the loss of the next NOTIFYs is detected
as soon as another one is dispatched. -/
structure SeqAgreement (info : Info) (s : Link) (n : Nat) : Prop where
  agree : ∀ es t, Run (Link.step info) Lossless s es t → raised es ≤ n →
    ∃ new, compared t.proxy.log = compared s.proxy.log ++ new ∧ ∀ p ∈ new, p.1 = p.2
  detect : ∀ es t, Run (Link.step info) Lossless s es t → raised es ≤ n →
    t.proxy.pendingNotifies = [] → ∀ lost u, 0 < lost →
      Run (Link.step info) AnyStep t (List.replicate lost .lose ++ [.deliver, .idle]) u →
        Resubscribed info t u

/-! ## Agreement -/

theorem agree_of_le {es : List LinkEvent} (hs : LinkStart sid s) (hn : raised es ≤ 2 ^ 31)
    (h : Run (Link.step info) Lossless s es t) :
    ∃ new, compared t.proxy.log = compared s.proxy.log ++ new ∧ ∀ p ∈ new, p.1 = p.2 := by
  obtain ⟨done, hflow⟩ := flow_run hs h (by omega)
  refine ⟨_, hflow.compared, fun p hp => ?_⟩
  obtain ⟨k, hk, rfl⟩ := List.mem_map.1 hp
  have hdone := hflow.count
  have hlt := List.mem_range.1 hk
  exact pubSeq_of_lt (by omega)

/-! ## Losses -/

/-- What is left on the wire after a loss. -/
theorem lose_run {lost : Nat} (h : Run (Link.step info) AnyStep t (List.replicate lost .lose) u) :
    u = { t with wire := t.wire.drop lost } ∧ lost ≤ t.wire.length := by
  induction lost generalizing t with
  | zero => exact ⟨h.nil_eq.symm, Nat.zero_le _⟩
  | succ lost ih =>
    rw [List.replicate_succ] at h
    obtain ⟨v, -, he, h⟩ := h.cons_inv
    obtain ⟨msg, hw, hv⟩ := lose_step he
    obtain ⟨rfl, hle⟩ := ih h
    rw [hv, hw]
    exact ⟨rfl, by rw [List.length_cons]; omega⟩

theorem consecutive_drop {k : Nat} {wire : List Service.NotifySubscriberData} (lost : Nat)
    (h : Consecutive sid k wire) : Consecutive sid (k + lost) (wire.drop lost) := by
  induction lost generalizing k wire with
  | zero => exact h
  | succ lost ih =>
    cases wire with
    | nil => trivial
    | cons msg wire =>
      have hd := ih h.2
      rwa [show k + 1 + lost = k + (lost + 1) by omega] at hd

theorem detect_of_le {es : List LinkEvent} (hs : LinkStart sid s) (hn : raised es ≤ 2 ^ 31)
    (h : Run (Link.step info) Lossless s es t) (hp : t.proxy.pendingNotifies = []) {lost : Nat}
    (hlost : 0 < lost)
    (hu : Run (Link.step info) AnyStep t (List.replicate lost .lose ++ [.deliver, .idle]) u) :
    Resubscribed info t u := by
  obtain ⟨done, hflow⟩ := flow_run hs h (by omega)
  obtain ⟨v, hlose, hu⟩ := hu.split
  obtain ⟨rfl, hle⟩ := lose_run hlose
  obtain ⟨w, -, hdel, hu⟩ := hu.cons_inv
  obtain ⟨u', -, hidle, hu⟩ := hu.cons_inv
  obtain rfl := hu.nil_eq
  obtain ⟨msg, wire, proxy, hw, hnotify, rfl⟩ := deliver_step hdel
  obtain ⟨proxy', hdispatch, rfl⟩ := Option.map_eq_some_iff.1 hidle
  simp only at hw hnotify hdispatch
  have hcount := hflow.count
  have hwire := consecutive_drop lost hflow.wire
  rw [hp, List.length_nil] at hcount hwire
  rw [hw] at hwire
  obtain ⟨n, ha, hnsid, hnseq⟩ := accepted_request hs.wellFormed hwire.1
  have hlen : lost < t.wire.length := by
    have hcons := congrArg List.length hw
    rw [List.length_drop, List.length_cons] at hcons
    omega
  -- The number is that of its event, and the counter has not come so far.
  have hgap : n.seq > t.proxy.seq := by
    refine UInt32.lt_iff_toNat_lt.2 ?_
    rw [hnseq, hflow.seq, pubSeq_of_lt (by omega)]
    omega
  have hrun : Run (ServiceProxy.step info) (fun _ e => ServiceProxy.ForSid sid e) t.proxy
      [.notify (request msg), .idle passive] proxy' :=
    .cons (ServiceProxy.forSid_notify (congrArg some hwire.1.sid)) hnotify
      (.single rfl hdispatch)
  have hreceived : ServiceProxy.received [.notify (request msg), .idle passive] = [n] := by
    simp [ServiceProxy.received, ha]
  have hprogress := ServiceProxy.progress_run hflow.proxySid hflow.listening hrun
  rw [hp, hreceived] at hprogress
  cases hprogress with
  | missed _ _ hsid _ _ _ hsubs => exact ⟨hsid, hsubs⟩
  | live done' harr hin _ _ _ _ _ =>
    -- Everything pending was compared, so the notification would have been in step.
    have hpend : proxy'.pendingNotifies = [] := by
      obtain ⟨hl, -⟩ | ⟨-, rfl⟩ := ServiceProxy.notify_step hnotify
      · rw [hflow.listening] at hl
        cases hl
      · obtain ⟨-, rfl⟩ := ServiceProxy.idle_step hdispatch
        refine ServiceProxy.emitNotifications_pending ?_
        rw [ServiceProxy.serverHandler_sid, hflow.proxySid]
        simp
    rw [hpend, List.append_nil] at harr
    rw [← harr] at hin
    exact absurd hgap (UInt32.not_lt.2 hin.1)

/-! ## Disagreement -/

/-- Any number of events can be sent, delivered and dispatched. -/
theorem exists_run (info : Info) (hs : LinkStart sid s) (hn : n < 2 ^ 32) :
    ∃ es t, Run (Link.step info) Lossless s es t ∧ raised es = n ∧ t.wire = [] ∧
      t.proxy.pendingNotifies = [] := by
  induction n with
  | zero => exact ⟨[], s, .nil, rfl, hs.wire, hs.proxy.pending⟩
  | succ n ih =>
    obtain ⟨es, t, h, hes, hw, hp⟩ := ih (by omega)
    obtain ⟨done, hflow⟩ := flow_run hs h (by omega)
    let msg := t.pub.message ⟨n, []⟩
    obtain ⟨pub, hraise⟩ : ∃ pub, t.step info (.raise ⟨n, []⟩) =
        some { t with pub := pub, wire := [msg] } :=
      ⟨_, by rw [raise_step info hflow.pubWanted, hw]; rfl⟩
    obtain ⟨m, ha, -⟩ := accepted_request hs.wellFormed (flow_raise hflow hraise).wire.1
    let proxy := ServiceProxy.serverHandler (request msg) t.proxy
    have hsid : proxy.sid ≠ none := by
      rw [ServiceProxy.serverHandler_sid, hflow.proxySid]
      simp
    have hidle : proxy.notifyIdleSrc = true := by
      show (ServiceProxy.serverHandler (request msg) t.proxy).notifyIdleSrc = true
      rw [ServiceProxy.serverHandler_queue ha (by rw [hflow.proxySid]; simp)]
      rfl
    have hdeliver : Link.step info { t with pub := pub, wire := [msg] } .deliver =
        some { pub := pub, wire := [], proxy := proxy } := by
      simp [Link.step, ServiceProxy.step, hflow.listening, proxy]
    have hdispatch : Link.step info { pub := pub, wire := [], proxy := proxy } .idle =
        some { pub := pub, wire := [],
               proxy := ServiceProxy.emitNotifications info passive proxy } := by
      simp [Link.step, ServiceProxy.step, hidle]
    have hlossless : ∀ t : Link, Lossless t (.raise ⟨n, []⟩) ∧ Lossless t .deliver ∧
        Lossless t .idle := fun t => by simp [Lossless]
    refine ⟨es ++ [.raise ⟨n, []⟩, .deliver, .idle], _, h.trans (.cons (hlossless _).1 hraise
      (.cons (hlossless _).2.1 hdeliver (.single (hlossless _).2.2 hdispatch))), ?_, rfl, ?_⟩
    · rw [raised_append, hes]
      rfl
    · exact ServiceProxy.emitNotifications_pending hsid

/-- The comparisons of a run that dispatched everything. -/
theorem compared_of_settled {es : List LinkEvent} (hs : LinkStart sid s)
    (h : Run (Link.step info) Lossless s es t) (hn : raised es < 2 ^ 32) (hw : t.wire = [])
    (hp : t.proxy.pendingNotifies = []) : compared t.proxy.log =
      compared s.proxy.log ++ (List.range (raised es)).map fun k => (pubSeq k, k) := by
  obtain ⟨done, hflow⟩ := flow_run hs h hn
  have hcount := hflow.count
  simp only [hw, hp, List.length_nil, Nat.add_zero] at hcount
  rw [hflow.compared, hcount]

theorem pubSeq_wraps : pubSeq (2 ^ 31) = 1 := by
  unfold pubSeq
  rw [iterate_wrapSucc_zero (by omega)]
  decide

/-- The event after 2 ^ 31 others carries the number 1 and meets a counter of 2 ^ 31. -/
theorem not_agree (info : Info) (hs : LinkStart sid s) : ∃ es t,
    Run (Link.step info) Lossless s es t ∧ raised es = 2 ^ 31 + 1 ∧
      ¬ ∃ new, compared t.proxy.log = compared s.proxy.log ++ new ∧ ∀ p ∈ new, p.1 = p.2 := by
  obtain ⟨es, t, h, hes, hw, hp⟩ := exists_run info hs (n := 2 ^ 31 + 1) (by omega)
  refine ⟨es, t, h, hes, ?_⟩
  rintro ⟨new, hnew, heq⟩
  rw [compared_of_settled hs h (by omega) hw hp] at hnew
  have heq' : ∀ k < raised es, pubSeq k = k := by
    intro k hk
    refine heq (pubSeq k, k) ?_
    rw [← List.append_cancel_left hnew]
    exact List.mem_map.2 ⟨k, List.mem_range.2 hk, rfl⟩
  have hone := heq' (2 ^ 31) (by omega)
  rw [pubSeq_wraps] at hone
  omega

/-- **Publisher and subscriber agree** exactly as long as the publisher's counter did not wrap. -/
theorem seq_agreement_iff (info : Info) (hs : LinkStart sid s) (n : Nat) :
    SeqAgreement info s n ↔ n ≤ 2 ^ 31 := by
  constructor
  · intro h
    apply Nat.le_of_not_lt
    intro hn
    obtain ⟨es, t, hrun, hes, hno⟩ := not_agree info hs
    exact hno (h.agree es t hrun (by omega))
  · intro hn
    refine ⟨fun es t h hes => ?_, fun es t h hes hp lost u hlost hu => ?_⟩
    · exact agree_of_le hs (by omega) h
    · exact detect_of_le hs (by omega) h hp hlost hu

/-! ## A concrete subscription -/

def sampleLink : Link where
  pub := .new ⟨[], "http://10.0.0.1/proxy".toList, []⟩ ServiceProxy.sampleSid 0
  wire := []
  proxy := ServiceProxy.sampleFresh

theorem linkStart_sample : LinkStart ServiceProxy.sampleSid sampleLink :=
  ⟨by decide, ⟨_, _, rfl⟩, rfl, rfl, rfl, rfl, rfl⟩

theorem seq_agreement_sample : SeqAgreement ServiceProxy.sampleInfo sampleLink (2 ^ 31) :=
  (seq_agreement_iff ServiceProxy.sampleInfo linkStart_sample (2 ^ 31)).2 (Nat.le_refl _)

/-- The event number 2 ^ 31 + 1 carries the number 1. -/
theorem first_disagreement :
    ¬ SeqAgreement ServiceProxy.sampleInfo sampleLink (2 ^ 31 + 1) := by
  intro h
  obtain ⟨es, t, hrun, hes, hno⟩ := not_agree ServiceProxy.sampleInfo linkStart_sample
  exact hno (h.agree es t hrun (by omega))

end GUPnP.Eventing
