import GUPnP.Eventing.Link
import GUPnP.Service.Proof.Published

/-!
# A subscriber's copy of the state variables

A service, its application and any number of other subscribers on one side, a service proxy on the
other, and between them a channel that may lose messages but keeps their order. `mirrored`: whatever
the two sides do and whatever is lost, the proxy dispatches the event messages of its subscription from
the first one on and without a hole. Once it has dispatched all of them its copy of the evented
variables is that of the application, those apart that wait for a thaw.
-/

set_option autoImplicit false

namespace GUPnP.Eventing

open ServiceProxy (Info Proxy EmitNotifyData InStep accepted deliverable dispatched own)
open Service (NotifySubscriberData Publishing Answers ServedAtOne about contents notifies
  sentBetween)

/-! ## The system -/

structure System where
  publishing : Publishing
  wire : List NotifySubscriberData
  proxy : Proxy

inductive SystemEvent where
  | service (e : Service.Event)
  | proxy (e : ServiceProxy.Event)
  | deliver
  | lose

/-- A step of a side, or of the channel that carries the messages of the subscription `sid`. -/
def System.step (ctx : Service.Context) (info : Info) (sid : Str) (m : System) :
    SystemEvent → Option System
  | .service e => (m.publishing.step ctx e).map fun p =>
      { m with
        publishing := p
        wire := m.wire ++ sentBetween sid m.publishing.service p.service }
  | .proxy e => (ServiceProxy.step info m.proxy e).map fun p => { m with proxy := p }
  | .deliver =>
    match m.wire with
    | [] => none
    | msg :: wire =>
      (ServiceProxy.step info m.proxy (.notify (request msg))).map fun p =>
        { m with wire := wire, proxy := p }
  | .lose =>
    match m.wire with
    | [] => none
    | _ :: wire => some { m with wire := wire }

/-- The application answers `query-variable`, all other requests to the proxy are refused, and a
response grants the SID only while the proxy has it. -/
def Proper (sid : Str) (m : System) : SystemEvent → Prop
  | .service e => Answers m.publishing e
  | .proxy (.notify req) => accepted req = none
  | .proxy (.response _ (.http _ _ granted _) _) => granted = some sid → m.proxy.sid = some sid
  | _ => True

/-- The event loses no message of the subscription. -/
def Delivering (m : System) : SystemEvent → Prop
  | .lose => False
  | .deliver => m.proxy.listening = true
  | _ => True

/-- The messages of the subscription. -/
def System.sent (sid : Str) (m : System) : List NotifySubscriberData :=
  notifies (about sid m.publishing.service.log)

def pairs (msg : NotifySubscriberData) : List (Str × Str) :=
  msg.propertySet.properties.map Service.NotifyData.pair

/-- The notifications of the subscription that the proxy dispatched. -/
def copied (sid : Str) (p : Proxy) : List EmitNotifyData := own sid (dispatched p.log)

/-- The value of each variable in the last notification that named it. -/
def table (sid : Str) (p : Proxy) : Str → Option Str :=
  replay ((copied sid p).flatMap fun n => n.doc.properties) fun _ => none

/-- The proxy got the SID, and nothing that was sent for it has arrived yet. -/
structure Joined (ctx : Service.Context) (sid : Str) (m : System) : Prop where
  reached : ∃ vars es, Run (Publishing.step ctx) Answers ⟨vars, .init⟩ es m.publishing
  wire : m.wire = m.sent sid
  wellFormed : ServiceProxy.parseSid (some sid) = some sid
  fresh : ServiceProxy.Fresh sid m.proxy
  new : copied sid m.proxy = []

/-! ## A sequence with holes -/

variable {sid : Str} {c : UInt32} {k : Nat} {A M done rest : List EmitNotifyData}
  {n : EmitNotifyData}

theorem le_of_queued (h : Queued sid k M) (hlength : k + M.length ≤ 2 ^ 31) (hn : n ∈ M) :
    k ≤ n.seq.toNat := by
  induction M generalizing k with
  | nil => cases hn
  | cons m M ih =>
    rw [List.length_cons] at hlength
    rcases List.mem_cons.1 hn with rfl | hn
    · rw [h.1.2, pubSeq_of_lt (by omega)]
    · have hle := ih h.2 (by omega) hn
      omega

/-- Of a sequence with holes what comes before the first hole is deliverable. -/
theorem deliverable_prefix (h : Queued sid c.toNat M) (hlength : c.toNat + M.length ≤ 2 ^ 31)
    (hsub : A.Sublist M) : deliverable c A <+: M := by
  induction M generalizing c A with
  | nil =>
    obtain rfl := List.sublist_nil.1 hsub
    exact List.prefix_refl _
  | cons m M ih =>
    rw [List.length_cons] at hlength
    have hc : (ServiceProxy.nextSeq c).toNat = c.toNat + 1 := by
      refine ServiceProxy.nextSeq_of_lt (UInt32.lt_iff_toNat_lt.2 ?_)
      show c.toNat < 0xffffffff
      omega
    have hm : m.seq.toNat = c.toNat := by rw [h.1.2, pubSeq_of_lt (by omega)]
    cases hsub with
    | cons _ hsub =>
      -- `m` is missing.
      cases A with
      | nil => exact List.nil_prefix
      | cons a A =>
        have hle := le_of_queued h.2 (by omega) (hsub.subset List.mem_cons_self)
        rw [deliverable, if_pos (UInt32.lt_iff_toNat_lt.2 (by omega))]
        exact List.nil_prefix
    | cons_cons _ hsub =>
      rw [deliverable, if_neg (UInt32.not_lt.2 (UInt32.le_iff_toNat_le.2 (by omega)))]
      refine (List.prefix_cons_inj m).2 (ih ?_ (by omega) hsub)
      rw [hc]
      exact h.2

theorem dispatched_prefix (h : Queued sid 0 M) (hlength : M.length ≤ 2 ^ 31) (hin : InStep 0 done)
    (hsub : done.Sublist M) : done <+: M := by
  have hprefix := deliverable_prefix (c := 0) h (by rw [UInt32.toNat_zero]; omega) hsub
  rwa [ServiceProxy.deliverable_eq_self hin] at hprefix

/-! ## The proxy -/

/-- With the notifications `A` of the subscription, of which `rest` is still to be compared, either the
subscription is followed and all others were dispatched, or it is over. -/
inductive Following (sid : Str) (A rest : List EmitNotifyData) (p : Proxy) : Prop
  | live (done : List EmitNotifyData) (arrived : A = done ++ rest) (inStep : InStep 0 done)
      (seq : p.seq = ServiceProxy.nextSeq^[done.length] 0) (hasSid : p.sid = some sid)
      (copied : copied sid p = done) (named : ∀ n ∈ rest, n.sid = sid)
  | ended (done : List EmitNotifyData) (arrived : done <+: A) (inStep : InStep 0 done)
      (gone : p.sid ≠ some sid) (copied : copied sid p = done) (named : ∀ n ∈ rest, n.sid = sid)

variable {p q : Proxy} {info : Info} {cb : Proxy → XmlDoc → List Bool}

theorem copied_eq (h : dispatched q.log = dispatched p.log) : copied sid q = copied sid p :=
  congrArg (own sid) h

theorem Following.copies (h : Following sid A rest p) :
    InStep 0 (copied sid p) ∧ copied sid p <+: A := by
  cases h with
  | live done harr hin _ _ hcopied _ =>
    rw [hcopied]
    exact ⟨hin, harr ▸ List.prefix_append ..⟩
  | ended done harr hin _ hcopied _ =>
    rw [hcopied]
    exact ⟨hin, harr⟩

theorem Following.named (h : Following sid A rest p) : ∀ n ∈ rest, n.sid = sid := by
  cases h with
  | live _ _ _ _ _ _ hnamed => exact hnamed
  | ended _ _ _ _ _ hnamed => exact hnamed

/-- A change that keeps the SID and the counter. -/
theorem Following.keep (h : Following sid A rest p) (hsid : q.sid = p.sid) (hseq : q.seq = p.seq)
    (hlog : dispatched q.log = dispatched p.log) : Following sid A rest q := by
  cases h with
  | live done harr hin hc hs hcopied hnamed =>
    exact .live done harr hin (hseq.trans hc) (hsid.trans hs) ((copied_eq hlog).trans hcopied) hnamed
  | ended done harr hin hs hcopied hnamed =>
    exact .ended done harr hin (hsid ▸ hs) ((copied_eq hlog).trans hcopied) hnamed

/-- A change after which the proxy does not have the SID. -/
theorem Following.stop (h : Following sid A rest p) (hsid : q.sid ≠ some sid)
    (hlog : dispatched q.log = dispatched p.log) : Following sid A rest q := by
  obtain ⟨hin, harr⟩ := h.copies
  exact .ended _ harr hin hsid (copied_eq hlog) h.named

theorem following_record {e : ServiceProxy.Effect} (h : Following sid A rest p)
    (he : dispatched [e] = []) : Following sid A rest (p.record e) := by
  refine h.keep rfl rfl ?_
  rw [ServiceProxy.record_log, ServiceProxy.dispatched_append, he, List.append_nil]

theorem following_unsubscribe (h : Following sid A rest p) :
    Following sid A rest (ServiceProxy.unsubscribe info p) :=
  h.stop (by rw [ServiceProxy.unsubscribe_sid]; exact nofun) (ServiceProxy.dispatched_unsubscribe p)

theorem following_subscribe (h : Following sid A rest p) :
    Following sid A rest (ServiceProxy.subscribe info p) :=
  h.keep (ServiceProxy.subscribe_sid ..) (ServiceProxy.subscribe_seq ..)
    (ServiceProxy.dispatched_subscribe p)

theorem following_setSubscribed (h : Following sid A rest p) (b : Bool) :
    Following sid A rest (ServiceProxy.setSubscribed info b p) := by
  have hset : ∀ b, Following sid A rest { p with subscribed := b } := fun b => h.keep rfl rfl rfl
  obtain ⟨-, he⟩ | ⟨-, -, he⟩ | ⟨-, -, he⟩ := ServiceProxy.setSubscribed_cases info b p
  · rwa [he]
  · rw [he]
    exact following_record (following_subscribe (hset true)) rfl
  · rw [he]
    exact following_record (following_unsubscribe (hset false)) rfl

theorem following_expire (h : Following sid A rest p) :
    Following sid A rest (ServiceProxy.subscriptionExpire info p) := by
  obtain ⟨g, url, -, -, he⟩ | ⟨-, he⟩ := ServiceProxy.subscriptionExpire_cases info p
  · rw [he]
    refine h.keep rfl rfl ?_
    rw [ServiceProxy.send_log, ServiceProxy.dispatched_append]
    exact List.append_nil _
  · rw [he]
    exact h.keep rfl rfl rfl

theorem following_hdrErr (h : Following sid A rest p) (error : ServiceProxy.LostError) :
    Following sid A rest (ServiceProxy.hdrErr error p) :=
  following_record (following_record
    (h.keep rfl rfl rfl : Following sid A rest { p with listening := false, subscribed := false }) rfl)
    rfl

theorem following_response (h : Following sid A rest p) {rand : Int → Int → Int}
    {resp : ServiceProxy.Response}
    (hresp : ∀ status reason granted timeout, resp = .http status reason granted timeout →
      granted = some sid → p.sid = some sid) :
    Following sid A rest (ServiceProxy.subscribeGotResponse rand resp p) := by
  cases resp with
  | cancelled => exact h
  | error message => exact following_hdrErr h _
  | http status reason granted timeout =>
    obtain ⟨-, he⟩ | ⟨-, g, -, hg, he⟩ | ⟨-, -, e, he⟩ :=
      ServiceProxy.http_cases rand status reason granted timeout p
    · rw [he]
      exact h.keep rfl rfl rfl
    · rw [he]
      by_cases hsid : g = sid
      · subst hsid
        exact h.keep (hresp _ _ _ _ rfl hg).symm rfl rfl
      · exact h.stop (fun heq => hsid (Option.some.inj heq)) rfl
    · rw [he]
      have hnone : Following sid A rest { p with subscriptionTimeoutSrc := none, sid := none } :=
        h.stop (by exact nofun) rfl
      exact following_hdrErr hnone e

/-- The body of the dispatch loop. -/
theorem following_emitStep (h : Following sid A (n :: rest) p) (hle : n.seq ≤ p.seq) :
    Following sid A rest (ServiceProxy.emitStep info cb n p) := by
  have hn : n.sid = sid := h.named n List.mem_cons_self
  have hrest : ∀ m ∈ rest, m.sid = sid := fun m hm => h.named m (List.mem_cons_of_mem n hm)
  cases h with
  | live done harr hin hc hs hcopied _ =>
    rw [ServiceProxy.emitStep_own (hs.trans (congrArg some hn.symm))]
    refine ServiceProxy.emitNotificationsForDoc_inv info cb (Following sid A rest)
      (fun s b hs => following_setSubscribed hs b) ?_
    refine .live (done ++ [n]) (by simp [harr]) ?_ ?_ hs ?_ hrest
    · refine ServiceProxy.inStep_append.2 ⟨hin, ?_, trivial⟩
      rwa [← hc]
    · rw [List.length_append, List.length_singleton, Nat.add_comm, Function.iterate_add_apply, ← hc]
      rfl
    · have hdispatch : dispatched (p.log ++ [.dispatch n]) = dispatched p.log ++ [n] :=
        ServiceProxy.dispatched_append ..
      show own sid (dispatched (p.log ++ [.dispatch n])) = _
      rw [hdispatch, ServiceProxy.own_append, ServiceProxy.own_eq_self (q := [n]) (by simpa using hn)]
      exact congrArg (· ++ [n]) hcopied
  | ended done harr hin hs hcopied _ =>
    rw [ServiceProxy.emitStep_other (hn ▸ hs)]
    exact .ended done harr hin hs hcopied hrest

/-- An idle dispatch compares everything that is pending, or finds an event missed. -/
theorem following_idle (h : Following sid A p.pendingNotifies p) :
    Following sid A (ServiceProxy.emitNotifications info cb p).pendingNotifies
      (ServiceProxy.emitNotifications info cb p) := by
  by_cases hdelayed : p.sid = none ∧ p.subscribed = true
  · rwa [ServiceProxy.emitNotifications_delayed hdelayed]
  rw [ServiceProxy.emitNotifications_eq hdelayed]
  have hloop := ServiceProxy.emitLoop_inv info cb (Following sid A)
    (fun n rest p hI => following_record hI rfl) (fun n rest p hI hle => following_emitStep hI hle)
    p.pendingNotifies p h
  obtain ⟨hno, hI⟩ | ⟨hgap, m, rest, -, -, hI⟩ := hloop
  · rw [if_neg (by simp [hno])]
    exact hI.keep rfl rfl rfl
  · rw [if_pos hgap]
    dsimp only
    rw [ServiceProxy.subscribe_pending, ServiceProxy.unsubscribe_pending]
    obtain ⟨hin, harr⟩ := hI.copies
    refine .ended _ harr hin ?_ ?_ nofun
    · rw [ServiceProxy.subscribe_sid, ServiceProxy.unsubscribe_sid]
      exact nofun
    · refine copied_eq ?_
      exact (ServiceProxy.dispatched_subscribe _).trans (ServiceProxy.dispatched_unsubscribe _)

/-! ## The messages -/

/-- What a proxy accepts of the messages. -/
def arrivals (msgs : List NotifySubscriberData) : List EmitNotifyData :=
  msgs.filterMap fun msg => accepted (request msg)

theorem arrivals_append (msgs msgs' : List NotifySubscriberData) :
    arrivals (msgs ++ msgs') = arrivals msgs ++ arrivals msgs' := List.filterMap_append

theorem arrivals_cons (msg : NotifySubscriberData) (msgs : List NotifySubscriberData) :
    arrivals (msg :: msgs) = (accepted (request msg)).toList ++ arrivals msgs := by
  unfold arrivals
  rw [List.filterMap_cons]
  cases accepted (request msg) <;> rfl

theorem accepted_doc {req : NotifyRequest} (h : accepted req = some n) : req.body = some n.doc := by
  unfold accepted at h
  split at h
  · rename_i m hm
    simp only [Option.ite_none_right_eq_some, Option.some.injEq] at h
    obtain ⟨-, rfl⟩ := h
    unfold ServiceProxy.checkNotify at hm
    repeat' split at hm
    all_goals cases hm
    assumption
  · cases h

theorem arrivals_consecutive {msgs : List NotifySubscriberData}
    (hsid : ServiceProxy.parseSid (some sid) = some sid) (h : Consecutive sid k msgs) :
    Queued sid k (arrivals msgs) ∧
      (arrivals msgs).map (fun n => n.doc.properties) = msgs.map pairs := by
  induction msgs generalizing k with
  | nil => exact ⟨trivial, rfl⟩
  | cons msg msgs ih =>
    obtain ⟨n, ha, hn⟩ := accepted_request hsid h.1
    obtain ⟨hqueued, hpairs⟩ := ih h.2
    rw [arrivals_cons, ha]
    refine ⟨⟨hn, hqueued⟩, ?_⟩
    have hdoc : n.doc = _ := (Option.some.inj (accepted_doc ha)).symm
    rw [Option.toList_some, List.singleton_append, List.map_cons, List.map_cons, hpairs, hdoc]
    rfl

theorem consecutive_of_getElem? {msgs : List NotifySubscriberData}
    (h : ∀ i msg, msgs[i]? = some msg → Carries sid (k + i) msg) : Consecutive sid k msgs := by
  induction msgs generalizing k with
  | nil => trivial
  | cons msg msgs ih =>
    refine ⟨h 0 msg rfl, ih fun i m hm => ?_⟩
    have hnext := h (i + 1) m hm
    rwa [show k + (i + 1) = k + 1 + i by omega] at hnext

theorem iterate_nextSeq (k : Nat) : Service.nextSeq^[k] 0 = pubSeq k := by
  induction k with
  | zero => rfl
  | succ k ih => rw [Function.iterate_succ_apply', ih, nextSeq_pubSeq]

variable {ctx : Service.Context} {m t u : System} {e : SystemEvent}

/-- What a service sends for a subscription carries the numbers of consecutive events. -/
theorem consecutive_sent {es : List Service.Event} {s : Service.ServiceState}
    (h : Run (Service.step ctx) AnyStep .init es s) (sid : Str) :
    Consecutive sid 0 (notifies (about sid s.log)) := by
  refine consecutive_of_getElem? fun i msg hm => ?_
  have hmem := List.mem_of_getElem? hm
  obtain ⟨hnt, hnts⟩ := Service.lives_run (Service.headed_invariant ctx sid) h msg hmem
  have habout := (List.mem_filter.1 (Service.mem_notifies.1 hmem)).2
  refine ⟨hnt, hnts, Option.some.inj (of_decide_eq_true habout), ?_⟩
  rw [Service.attempts_counted h sid hm, iterate_nextSeq, Nat.zero_add]

/-! ## Steps -/

/-- The notifications `A` arrived at the proxy. -/
structure Mirrors (ctx : Service.Context) (sid : Str) (A : List EmitNotifyData) (m : System) :
    Prop where
  reached : ∃ vars es, Run (Publishing.step ctx) Answers ⟨vars, .init⟩ es m.publishing
  arrived : (A ++ arrivals m.wire).Sublist (arrivals (m.sent sid))
  following : Following sid A m.proxy.pendingNotifies m.proxy

theorem Mirrors.consecutive (h : Mirrors ctx sid A m) : Consecutive sid 0 (m.sent sid) := by
  obtain ⟨vars, es, hrun⟩ := h.reached
  exact consecutive_sent (Service.publishing_run hrun) sid

theorem named_of_queued (h : Queued sid k M) : ∀ n ∈ M, n.sid = sid := by
  induction M generalizing k with
  | nil => nofun
  | cons m M ih =>
    intro n hn
    rcases List.mem_cons.1 hn with rfl | hn
    · exact h.1.1
    · exact ih h.2 n hn

/-- A notification arrives at a proxy that listens. -/
theorem following_deliver {req : NotifyRequest} (h : Following sid A p.pendingNotifies p)
    (ha : accepted req = some n) (hn : n.sid = sid) :
    Following sid (A ++ [n]) (ServiceProxy.serverHandler req p).pendingNotifies
      (ServiceProxy.serverHandler req p) := by
  by_cases hnone : p.sid = none
  · rw [ServiceProxy.serverHandler_drop ha hnone]
    refine following_record ?_ rfl
    cases h with
    | live _ _ _ _ hs _ _ => cases hs.symm.trans hnone
    | ended done harr hin hs hcopied hnamed =>
      exact .ended done (harr.trans (List.prefix_append ..)) hin hs hcopied hnamed
  · rw [ServiceProxy.serverHandler_queue ha hnone]
    refine following_record ?_ rfl
    have hnamed' : ∀ m ∈ p.pendingNotifies ++ [n], m.sid = sid := by
      intro m hm
      rcases List.mem_append.1 hm with hm | hm
      · exact h.named m hm
      · exact List.mem_singleton.1 hm ▸ hn
    cases h with
    | live done harr hin hc hs hcopied _ =>
      exact .live done (by simp [harr]) hin hc hs hcopied hnamed'
    | ended done harr hin hs hcopied _ =>
      exact .ended done (harr.trans (List.prefix_append ..)) hin hs hcopied hnamed'

theorem setSubscribed_pending (b : Bool) :
    (ServiceProxy.setSubscribed info b p).pendingNotifies = p.pendingNotifies := by
  obtain ⟨-, he⟩ | ⟨-, -, he⟩ | ⟨-, -, he⟩ := ServiceProxy.setSubscribed_cases info b p
  · rw [he]
  · rw [he, ServiceProxy.record_pending, ServiceProxy.subscribe_pending]
  · rw [he, ServiceProxy.record_pending, ServiceProxy.unsubscribe_pending]

theorem subscriptionExpire_pending :
    (ServiceProxy.subscriptionExpire info p).pendingNotifies = p.pendingNotifies := by
  obtain ⟨g, url, -, -, he⟩ | ⟨-, he⟩ := ServiceProxy.subscriptionExpire_cases info p
  · rw [he]
    rfl
  · rw [he]

theorem subscribeGotResponse_pending (rand : Int → Int → Int) (resp : ServiceProxy.Response) :
    (ServiceProxy.subscribeGotResponse rand resp p).pendingNotifies = p.pendingNotifies := by
  cases resp with
  | cancelled => rfl
  | error message => rfl
  | http status reason granted timeout =>
    obtain ⟨-, he⟩ | ⟨-, g, -, -, he⟩ | ⟨-, -, e, he⟩ :=
      ServiceProxy.http_cases rand status reason granted timeout p
    · rw [he]
    · rw [he]
    · rw [he]
      rfl

/-- A step of the proxy alone. -/
theorem following_step {e : ServiceProxy.Event} (h : Following sid A p.pendingNotifies p)
    (ho : Proper sid ⟨m.publishing, m.wire, p⟩ (.proxy e)) (he : ServiceProxy.step info p e = some q) :
    Following sid A q.pendingNotifies q := by
  cases e with
  | setSubscribed b =>
    obtain rfl := Option.some.inj he
    rw [setSubscribed_pending]
    exact following_setSubscribed h b
  | notify req =>
    obtain ⟨-, rfl⟩ | ⟨-, rfl⟩ := ServiceProxy.notify_step he
    · exact h
    · obtain ⟨status, hanswer⟩ := ServiceProxy.serverHandler_ignore ho p
      rw [hanswer]
      exact following_record h rfl
  | idle cb =>
    obtain ⟨-, rfl⟩ := ServiceProxy.idle_step he
    exact following_idle h
  | expire =>
    obtain ⟨-, rfl⟩ := ServiceProxy.expire_step he
    rw [subscriptionExpire_pending]
    exact following_expire h
  | response i resp rand =>
    obtain ⟨msg, -, rfl⟩ := ServiceProxy.response_step he
    rw [subscribeGotResponse_pending]
    have hreceive : Following sid A p.pendingNotifies (p.receive i msg resp) :=
      following_record (h.keep rfl rfl rfl :
        Following sid A _ { p with inFlight := p.inFlight.eraseIdx i }) rfl
    refine following_response hreceive ?_
    rintro status reason granted timeout rfl
    exact ho

/-- A step keeps the order of the messages, and where it loses none all are still underway. -/
theorem mirrors_step (hsid : ServiceProxy.parseSid (some sid) = some sid) (h : Mirrors ctx sid A m)
    (ho : Proper sid m e) (he : m.step ctx info sid e = some u) :
    ∃ A', Mirrors ctx sid A' u ∧ (Delivering m e → A ++ arrivals m.wire = arrivals (m.sent sid) →
      A' ++ arrivals u.wire = arrivals (u.sent sid)) := by
  cases e with
  | service e =>
    obtain ⟨vars, es, hrun⟩ := h.reached
    obtain ⟨q, hq, rfl⟩ := Option.map_eq_some_iff.1 he
    obtain ⟨s, hs, -⟩ := Option.map_eq_some_iff.1 hq
    have hservice := Service.publishing_run (hrun.snoc ho hq)
    have hsent : arrivals (notifies (about sid q.service.log)) = arrivals (m.sent sid) ++
        arrivals (sentBetween sid m.publishing.service q.service) := by
      obtain ⟨t, ht, rfl⟩ := Option.map_eq_some_iff.1 hq
      rw [Service.notifies_sent (Service.wellFormed_run (Service.publishing_run hrun)) ht,
        arrivals_append]
      rfl
    refine ⟨A, ⟨⟨vars, _, hrun.snoc ho hq⟩, ?_, h.following⟩, fun _ hall => ?_⟩
    · show (A ++ arrivals (m.wire ++ _)).Sublist (arrivals (notifies _))
      rw [hsent, arrivals_append, ← List.append_assoc]
      exact h.arrived.append (List.Sublist.refl _)
    · show A ++ arrivals (m.wire ++ _) = arrivals (notifies _)
      rw [hsent, arrivals_append, ← List.append_assoc, hall]
  | proxy e =>
    obtain ⟨q, hq, rfl⟩ := Option.map_eq_some_iff.1 he
    exact ⟨A, ⟨h.reached, h.arrived, following_step h.following ho hq⟩, fun _ hall => hall⟩
  | deliver =>
    simp only [System.step] at he
    split at he
    · cases he
    · rename_i msg wire hwire
      obtain ⟨q, hq, rfl⟩ := Option.map_eq_some_iff.1 he
      have harrived := h.arrived
      rw [hwire, arrivals_cons] at harrived
      cases ha : accepted (request msg) with
      | none =>
        rw [ha, Option.toList_none, List.nil_append] at harrived
        have hnone : Proper sid m (.proxy (.notify (request msg))) := ha
        refine ⟨A, ⟨h.reached, harrived, following_step h.following hnone hq⟩, fun _ hall => ?_⟩
        rwa [hwire, arrivals_cons, ha] at hall
      | some n =>
        rw [ha, Option.toList_some, ← List.append_assoc] at harrived
        have hn : n.sid = sid := by
          obtain ⟨hqueued, -⟩ := arrivals_consecutive hsid h.consecutive
          refine named_of_queued hqueued n (harrived.subset ?_)
          simp
        obtain ⟨hl, rfl⟩ | ⟨-, rfl⟩ := ServiceProxy.notify_step hq
        · refine ⟨A, ⟨h.reached, ?_, h.following⟩, fun hd _ => ?_⟩
          · exact ((List.sublist_append_left A [n]).append (List.Sublist.refl _)).trans harrived
          · cases hl.symm.trans hd
        · refine ⟨A ++ [n], ⟨h.reached, harrived, following_deliver h.following ha hn⟩,
            fun _ hall => ?_⟩
          rwa [hwire, arrivals_cons, ha, Option.toList_some, ← List.append_assoc] at hall
  | lose =>
    simp only [System.step] at he
    split at he
    · cases he
    · rename_i msg wire hwire
      obtain rfl := Option.some.inj he
      have harrived := h.arrived
      rw [hwire, arrivals_cons] at harrived
      refine ⟨A, ⟨h.reached, ?_, h.following⟩, fun hd => hd.elim⟩
      exact ((List.Sublist.refl A).append (List.sublist_append_right _ _)).trans harrived

/-! ## Runs -/

theorem mirrors_start (h : Joined ctx sid m) :
    Mirrors ctx sid [] m ∧ [] ++ arrivals m.wire = arrivals (m.sent sid) := by
  have hfollowing : Following sid [] [] m.proxy :=
    .live [] rfl trivial h.fresh.seq h.fresh.sid h.new nofun
  refine ⟨⟨h.reached, ?_, ?_⟩, ?_⟩
  · rw [List.nil_append, h.wire]
  · rw [h.fresh.pending]
    exact hfollowing
  · rw [List.nil_append, h.wire]

theorem mirrors_run {ok : System → SystemEvent → Prop} {es : List SystemEvent}
    (hstart : Joined ctx sid m) (hok : ∀ m e, ok m e → Proper sid m e)
    (h : Run (System.step ctx info sid) ok m es t) : ∃ A, Mirrors ctx sid A t ∧
      ((∀ m e, ok m e → Delivering m e) → A ++ arrivals t.wire = arrivals (t.sent sid)) := by
  induction h with
  | nil => exact ⟨[], (mirrors_start hstart).1, fun _ => (mirrors_start hstart).2⟩
  | snoc _ ho he ih =>
    obtain ⟨A, hA, hall⟩ := ih
    obtain ⟨A', hA', hstep⟩ := mirrors_step hstart.wellFormed hA (hok _ _ ho) he
    exact ⟨A', hA', fun hd => hstep (hd _ _ ho) (hall hd)⟩

/-- **The copy follows the application.** In every run from a state in which the proxy joined, with at
most 2 ^ 31 messages: the documents dispatched are the first of those sent, in order; where none was
lost and the subscription is held, the others are pending or on the wire; and once all were dispatched
the copy has the values of the evented variables that are not waiting for a thaw. -/
theorem mirrored {es : List SystemEvent} (hstart : Joined ctx sid m)
    (h : Run (System.step ctx info sid) (Proper sid) m es t)
    (hlength : (t.sent sid).length ≤ 2 ^ 31) :
    (copied sid t.proxy).map (fun n => n.doc.properties) <+: (t.sent sid).map pairs ∧
    (Run (System.step ctx info sid) (fun m e => Proper sid m e ∧ Delivering m e) m es t →
      t.proxy.sid = some sid →
      (copied sid t.proxy ++ t.proxy.pendingNotifies ++ arrivals t.wire).map
        (fun n => n.doc.properties) = (t.sent sid).map pairs) ∧
    (ServedAtOne sid t.publishing.service →
      (copied sid t.proxy).map (fun n => n.doc.properties) = (t.sent sid).map pairs →
      ∀ name ∈ t.publishing.service.stateVariables,
        (∀ data ∈ t.publishing.service.notifyQueue, data.name ≠ name) →
        table sid t.proxy name = t.publishing.vars name) := by
  obtain ⟨A, hA, -⟩ := mirrors_run hstart (fun _ _ ho => ho) h
  obtain ⟨hqueued, hpairs⟩ := arrivals_consecutive hstart.wellFormed hA.consecutive
  refine ⟨?_, fun hall hheld => ?_, fun hserved hcopied name hname hqueue => ?_⟩
  · obtain ⟨hin, harr⟩ := hA.following.copies
    have hsub : (copied sid t.proxy).Sublist (arrivals (t.sent sid)) :=
      harr.sublist.trans ((List.sublist_append_left A _).trans hA.arrived)
    have hmap := congrArg List.length hpairs
    rw [List.length_map, List.length_map] at hmap
    have hdispatched := dispatched_prefix hqueued (by omega) hin hsub
    rw [← hpairs]
    exact hdispatched.map _
  · obtain ⟨A, hA, hall⟩ := mirrors_run hstart (fun _ _ ho => ho.1) hall
    have hall := hall fun _ _ ho => ho.2
    rw [← hpairs, ← hall]
    cases hA.following with
    | live done harr _ _ _ hcopied _ => rw [hcopied, harr]
    | ended _ _ _ hgone _ _ => exact absurd hheld hgone
  · obtain ⟨vars, es, hrun⟩ := hA.reached
    have hvalues := Service.publishes_values hrun hserved hname
    rw [replay_append, replay_of_not_mem] at hvalues
    · rw [← hvalues, table, List.flatMap_def, hcopied, ← List.flatMap_def]
      rfl
    · rw [List.map_map]
      intro hmem
      obtain ⟨data, hdata, rfl⟩ := List.mem_map.1 hmem
      exact hqueue data hdata rfl

/-! ## A concrete subscription -/

/-- A SUBSCRIBE of the proxy of the concrete runs. -/
def sampleRequest : Service.SubscriptionRequest where
  method := Gena.methodSubscribe
  host := some "10.0.0.1:49152".toList
  callback := some ServiceProxy.sampleInfo.deliveryUrl
  nt := some Gena.ntEvent
  sid := none

def sampleVars (name : Str) : Option Str := if name = "Status".toList then some "1".toList else none

/-- The proxy subscribed to a service with one evented variable. -/
def sampleSystem : System where
  publishing := ⟨sampleVars, Service.subscriptionServerHandler Service.sampleContext
    (fun _ => sampleVars) sampleRequest
      (Service.gotIntrospection (.ok Service.sampleInfos) (fun _ => sampleVars) .init)⟩
  wire := notifies (about Service.sampleSid (Service.subscriptionServerHandler Service.sampleContext
    (fun _ => sampleVars) sampleRequest
      (Service.gotIntrospection (.ok Service.sampleInfos) (fun _ => sampleVars) .init)).log)
  proxy := ServiceProxy.subscribeGotResponse ServiceProxy.leastJitter
    (ServiceProxy.grant Service.sampleSid)
    (ServiceProxy.sampleInProgress.receive 0
      (ServiceProxy.sampleInfo.subscribeMsg "http://10.0.0.2/event".toList)
      (ServiceProxy.grant Service.sampleSid))

theorem joined_sample : Joined Service.sampleContext Service.sampleSid sampleSystem where
  reached := ⟨sampleVars,
    [.introspected (.ok Service.sampleInfos) fun _ => sampleVars,
      .request sampleRequest fun _ => sampleVars],
    .cons (fun _ => rfl) rfl (.single (fun _ => rfl) rfl)⟩
  wire := rfl
  wellFormed := by decide
  fresh := ⟨rfl, rfl, rfl, rfl⟩
  new := rfl

theorem mirrored_sample : ∃ t,
    Run (System.step Service.sampleContext ServiceProxy.sampleInfo Service.sampleSid)
      (Proper Service.sampleSid) sampleSystem
      [.service (.notifyValue "Status".toList "2".toList), .deliver, .deliver,
        .proxy (.idle ServiceProxy.passive)] t ∧
    table Service.sampleSid t.proxy "Status".toList = some "2".toList := by
  have hrun : Run (System.step Service.sampleContext ServiceProxy.sampleInfo Service.sampleSid)
      (Proper Service.sampleSid) sampleSystem
      [.service (.notifyValue "Status".toList "2".toList), .deliver, .deliver,
        .proxy (.idle ServiceProxy.passive)] _ :=
    .cons trivial rfl (.cons trivial rfl (.cons trivial rfl (.single trivial rfl)))
  obtain ⟨-, -, hvalues⟩ := mirrored joined_sample hrun (by decide)
  exact ⟨_, hrun, hvalues ⟨_, rfl, rfl, rfl⟩ (by decide) "Status".toList (by decide) (by decide)⟩

end GUPnP.Eventing
