import GUPnP.Service.Proof.Timers

/-!
# Requests are atomic

A request to the event subscription URL that is not answered with 200 changes nothing but the log; one
that is changes one subscription: it adds it, renews its timer, or removes it or marks it
(`request_atomic`).
-/

set_option autoImplicit false

namespace GUPnP.Service

/-! ## The statement -/

/-- When the timer of a subscription is due. -/
def ServiceState.expiry (s : ServiceState) (sid : Str) : Option Nat :=
  (s.subscriptions.lookup sid).bind fun d =>
    (s.sources.find? fun src => some src.id = d.timeoutSrc).map Source.due

/-- All other subscriptions are as they were. -/
structure OthersSame (sid : Str) (s t : ServiceState) : Prop where
  lookup : ∀ sid', sid' ≠ sid → t.subscriptions.lookup sid' = s.subscriptions.lookup sid'
  expiry : ∀ sid', sid' ≠ sid → t.expiry sid' = s.expiry sid'

/-- A SUBSCRIBE added a subscription and sent it its initial state. -/
structure Added (ctx : Context) (req : SubscriptionRequest) (sid : Str) (s t : ServiceState) :
    Prop where
  method : req.method = Gena.methodSubscribe
  callback : req.callback.isSome
  nt : req.nt = some Gena.ntEvent
  unnamed : req.sid = none
  fresh : s.subscriptions.lookup sid = none
  entry : ∃ d, t.subscriptions.lookup sid = some d ∧ d.initialStateSent = false ∧
    d.toDelete = false
  expiry : t.expiry sid = some (s.clock + subscriptionTimeoutSeconds)
  log : ∃ msg : NotifySubscriberData, msg.sid = sid ∧
    t.log = s.log ++ [.answer req (ctx.subscriptionAnswer sid), .notify msg]

/-- A SUBSCRIBE replaced the timer of the subscription it names. -/
structure Renewed (ctx : Context) (req : SubscriptionRequest) (sid : Str) (s t : ServiceState) :
    Prop where
  addressed : Addressed ctx sid req
  method : req.method = Gena.methodSubscribe
  entry : ∃ d src, s.subscriptions.lookup sid = some d ∧
    t.subscriptions.lookup sid = some { d with timeoutSrc := some src }
  expiry : t.expiry sid = some (s.clock + subscriptionTimeoutSeconds)
  log : t.log = s.log ++ [.answer req (ctx.subscriptionAnswer sid)]

/-- An UNSUBSCRIBE removed the subscription it names, or marked it. -/
structure Dropped (ctx : Context) (req : SubscriptionRequest) (sid : Str) (s t : ServiceState) :
    Prop where
  addressed : Addressed ctx sid req
  method : req.method = Gena.methodUnsubscribe
  entry : ∃ d, s.subscriptions.lookup sid = some d ∧
    (t.subscriptions.lookup sid = none ∨
      t.subscriptions.lookup sid = some { d with toDelete := true } ∧ t.expiry sid = s.expiry sid)
  log : t.log = s.log ++ [.answer req (.plain .ok)]

/-- The request was answered, and what that means for the subscriptions. -/
def Atomic (ctx : Context) (req : SubscriptionRequest) (s t : ServiceState) : Prop :=
  ∃ ans, (t.log.drop s.log.length).head? = some (.answer req ans) ∧
    (ans.status.code ≠ 200 → t = s.record [.answer req ans]) ∧
    (ans.status.code = 200 → ∃ sid, OthersSame sid s t ∧
      (Added ctx req sid s t ∨ Renewed ctx req sid s t ∨ Dropped ctx req sid s t))

variable {ctx : Context} {sid : Str} {s t : ServiceState} {req : SubscriptionRequest}

/-! ## Expiry -/

theorem Timed.expiry_eq (h : Timed s) {src : Source} (hsrc : src ∈ s.sources) :
    s.expiry src.sid = some src.due := by
  obtain ⟨d, hd, hid⟩ := h.owned src hsrc
  unfold ServiceState.expiry
  rw [hd, Option.bind_some]
  cases hfind : s.sources.find? fun x => some x.id = d.timeoutSrc with
  | none =>
    have hnot := List.find?_eq_none.1 hfind src hsrc
    exact absurd (decide_eq_true hid.symm) hnot
  | some x =>
    have hx := List.find?_some hfind
    rw [decide_eq_true_eq, hid] at hx
    rw [h.eq_of_id (List.mem_of_find?_eq_some hfind) hsrc (Option.some.inj hx)]
    rfl

/-- The expiry of a subscription that keeps its timer. -/
theorem expiry_congr (h : Timed s) (h' : Timed t)
    (hlookup : (t.subscriptions.lookup sid).isSome ↔ (s.subscriptions.lookup sid).isSome)
    (hkeep : ∀ src ∈ s.sources, src.sid = sid → src ∈ t.sources) : t.expiry sid = s.expiry sid := by
  cases hd : s.subscriptions.lookup sid with
  | none =>
    rw [hd] at hlookup
    have hnone : t.subscriptions.lookup sid = none := by
      cases ht : t.subscriptions.lookup sid with
      | none => rfl
      | some d =>
        rw [ht] at hlookup
        exact absurd (hlookup.1 rfl) (by simp)
    unfold ServiceState.expiry
    rw [hd, hnone]
    rfl
  | some d =>
    obtain ⟨src, hsrc, rfl, -⟩ := h.armed hd
    rw [h.expiry_eq hsrc, h'.expiry_eq (hkeep src hsrc rfl)]

/-- Where only one subscription has another entry or timer, the others are the same. -/
theorem othersSame (h : Timed s) (h' : Timed t)
    (hlookup : ∀ sid', sid' ≠ sid → t.subscriptions.lookup sid' = s.subscriptions.lookup sid')
    (hkeep : ∀ src ∈ s.sources, src.sid ≠ sid → src ∈ t.sources) : OthersSame sid s t where
  lookup := hlookup
  expiry := by
    intro sid' hne
    apply expiry_congr h h'
    · rw [hlookup sid' hne]
    · intro src hsrc hsid
      exact hkeep src hsrc (hsid ▸ hne)

/-! ## The three kinds of requests -/

/-- The service after a SUBSCRIBE that created a subscription. -/
theorem lookup_subscribed (query : ServiceState → Str → Option Str) (req : SubscriptionRequest)
    (callbacks : Cursor Uri) :
    (sendInitialState query (generateSid ctx s.nextUuid)
      (s.answered ctx req callbacks)).subscriptions.lookup (generateSid ctx s.nextUuid) =
        some (notifySubscriber ((s.answered ctx req callbacks).initialState query)
          (.new callbacks (generateSid ctx s.nextUuid) s.nextSource)).1 := by
  have hnew : (s.answered ctx req callbacks).subscriptions.lookup (generateSid ctx s.nextUuid) =
      some (.new callbacks (generateSid ctx s.nextUuid) s.nextSource) := lookup_created ctx callbacks s
  rw [sendInitialState_eq, lookup_update, if_pos rfl]
  exact congrArg (Option.map _) hnew

theorem lookup_subscribed_ne (query : ServiceState → Str → Option Str) (req : SubscriptionRequest)
    (callbacks : Cursor Uri) (hne : sid ≠ generateSid ctx s.nextUuid) :
    (sendInitialState query (generateSid ctx s.nextUuid)
      (s.answered ctx req callbacks)).subscriptions.lookup sid = s.subscriptions.lookup sid := by
  rw [sendInitialState_eq, lookup_update, if_neg hne]
  exact lookup_created_ne callbacks hne

theorem log_subscribed (query : ServiceState → Str → Option Str) (req : SubscriptionRequest)
    (callbacks : Cursor Uri) :
    (sendInitialState query (generateSid ctx s.nextUuid) (s.answered ctx req callbacks)).log =
      s.log ++ [.answer req (ctx.subscriptionAnswer (generateSid ctx s.nextUuid)),
        .notify (SubscriptionData.message (.new callbacks (generateSid ctx s.nextUuid) s.nextSource)
          ((s.answered ctx req callbacks).initialState query))] := by
  have hnew : (s.answered ctx req callbacks).subscriptions.lookup (generateSid ctx s.nextUuid) =
      some (.new callbacks (generateSid ctx s.nextUuid) s.nextSource) := lookup_created ctx callbacks s
  rw [sendInitialState_eq, update_log]
  show _ ++ ((s.answered ctx req callbacks).subscriptions.lookup
    (generateSid ctx s.nextUuid)).toList.flatMap _ = _
  rw [hnew]
  show (s.log ++ [_]) ++ [_] = _
  rw [List.append_assoc]
  rfl

theorem added (h : Timed s) (hw : WellFormed ctx s) (query : ServiceState → Str → Option Str)
    (callbacks : Cursor Uri) (hmethod : req.method = Gena.methodSubscribe)
    (hcallback : req.callback.isSome) (hnt : req.nt = some Gena.ntEvent) (hsid : req.sid = none) :
    OthersSame (generateSid ctx s.nextUuid) s
        (sendInitialState query (generateSid ctx s.nextUuid) (s.answered ctx req callbacks)) ∧
      Added ctx req (generateSid ctx s.nextUuid) s
        (sendInitialState query (generateSid ctx s.nextUuid) (s.answered ctx req callbacks)) := by
  have hanswered := timed_answered h hw req callbacks
  have hsame := sameTimers_sendInitialState query (generateSid ctx s.nextUuid)
    (s.answered ctx req callbacks)
  have htimed := hanswered.same hsame
  have hsources : (sendInitialState query (generateSid ctx s.nextUuid)
      (s.answered ctx req callbacks)).sources = s.sources ++
        [⟨s.nextSource, generateSid ctx s.nextUuid, s.clock + subscriptionTimeoutSeconds⟩] :=
    hsame.sources
  refine ⟨othersSame h htimed (fun sid' hne => lookup_subscribed_ne query req callbacks hne)
    (fun src hsrc _ => ?_), ?_⟩
  · rw [hsources]
    exact List.mem_append_left _ hsrc
  · refine ⟨hmethod, hcallback, hnt, hsid, lookup_next hw, ?_, ?_, ?_⟩
    · exact ⟨_, lookup_subscribed query req callbacks, rfl, rfl⟩
    · have hmem : (⟨s.nextSource, generateSid ctx s.nextUuid,
          s.clock + subscriptionTimeoutSeconds⟩ : Source) ∈
            (sendInitialState query (generateSid ctx s.nextUuid)
              (s.answered ctx req callbacks)).sources := by
        rw [hsources]
        exact List.mem_append_right _ (List.mem_singleton_self _)
      exact htimed.expiry_eq hmem
    · exact ⟨_, rfl, log_subscribed query req callbacks⟩

theorem renewed (h : Timed s) {d : SubscriptionData} (hd : s.subscriptions.lookup sid = some d)
    (haddressed : Addressed ctx sid req) (hmethod : req.method = Gena.methodSubscribe) :
    OthersSame sid s (resubscribe ctx req sid s) ∧
      Renewed ctx req sid s (resubscribe ctx req sid s) := by
  have htimed : Timed (resubscribe ctx req sid s) := timed_resubscribe h hd req
  rw [resubscribe_some hd] at htimed ⊢
  refine ⟨othersSame h htimed (fun sid' hne => Table.lookup_modify_ne hne ..)
    (fun src hsrc hne => ?_), haddressed, hmethod, ⟨d, s.nextSource, hd, ?_⟩, ?_, rfl⟩
  · refine List.mem_append_left _ ?_
    rw [h.filter_eq hd, List.mem_filter, decide_eq_true_eq]
    exact ⟨hsrc, hne⟩
  · show (s.subscriptions.modify sid _).lookup sid = _
    rw [Table.lookup_modify_self, hd]
    rfl
  · have hmem := List.mem_append_right (s.sources.filter fun x => some x.id ≠ d.timeoutSrc)
      (List.mem_singleton_self
        (⟨s.nextSource, sid, s.clock + subscriptionTimeoutSeconds⟩ : Source))
    exact htimed.expiry_eq hmem

theorem dropped (h : Timed s) {d : SubscriptionData} (hd : s.subscriptions.lookup sid = some d)
    (haddressed : Addressed ctx sid req) (hmethod : req.method = Gena.methodUnsubscribe) :
    OthersSame sid s (unsubscribe req sid s) ∧ Dropped ctx req sid s (unsubscribe req sid s) := by
  have htimed := timed_unsubscribe h req sid
  rw [unsubscribe_some hd] at htimed ⊢
  split
  · rename_i hsent
    rw [if_pos hsent] at htimed
    refine ⟨othersSame h htimed (fun sid' hne => ?_) (fun src hsrc hne => ?_),
      haddressed, hmethod, ⟨d, hd, .inl ?_⟩, ?_⟩
    · show (removeSubscription sid s).subscriptions.lookup sid' = _
      rw [lookup_removeSubscription, if_neg hne]
    · show src ∈ (removeSubscription sid s).sources
      rw [removeSubscription_sources h, List.mem_filter, decide_eq_true_eq]
      exact ⟨hsrc, hne⟩
    · show (removeSubscription sid s).subscriptions.lookup sid = _
      rw [lookup_removeSubscription, if_pos rfl]
    · show (removeSubscription sid s).log ++ _ = _
      rw [removeSubscription_log]
  · rename_i hsent
    rw [if_neg hsent] at htimed
    have hself : (s.subscriptions.modify sid fun d => { d with toDelete := true }).lookup sid =
        some { d with toDelete := true } := by
      rw [Table.lookup_modify_self, hd]
      rfl
    refine ⟨othersSame h htimed (fun sid' hne => Table.lookup_modify_ne hne ..)
      (fun src hsrc _ => hsrc), haddressed, hmethod, ⟨d, hd, .inr ⟨hself, ?_⟩⟩, rfl⟩
    refine expiry_congr h htimed ?_ fun src hsrc _ => hsrc
    show ((s.subscriptions.modify sid _).lookup sid).isSome ↔ _
    rw [hself, hd]
    exact iff_of_true rfl rfl

/-! ## The main result -/

theorem head_drop_append {log tail : List Effect} : ((log ++ tail).drop log.length).head? =
    tail.head? := by rw [List.drop_left]

/-- **Every request to the event subscription URL is atomic**, in every state a run reaches. -/
theorem request_atomic {es : List Event} (h : Run (step ctx) AnyStep .init es s)
    (query : ServiceState → Str → Option Str) (req : SubscriptionRequest) :
    Atomic ctx req s (subscriptionServerHandler ctx query req s) := by
  have htimed := timed_run h
  have hw := wellFormed_run h
  obtain ⟨ans, hstatus, heq⟩ | ⟨callbacks, hmethod, hcallback, hnt, hsid, heq⟩ |
    ⟨sid, d, haddressed, hmethod, hd, heq⟩ | ⟨sid, d, haddressed, hmethod, hd, heq⟩ :=
      handler_spec ctx query req s
  · rw [heq]
    exact ⟨ans, by rw [ServiceState.record, head_drop_append]; rfl, fun _ => rfl,
      fun hok => absurd hok hstatus⟩
  · rw [heq]
    obtain ⟨hothers, hadded⟩ := added htimed hw query callbacks hmethod hcallback hnt hsid
    obtain ⟨msg, -, hlog⟩ := hadded.log
    refine ⟨ctx.subscriptionAnswer (generateSid ctx s.nextUuid), ?_, fun hno => absurd rfl hno,
      fun _ => ⟨_, hothers, .inl hadded⟩⟩
    rw [hlog, head_drop_append]
    rfl
  · rw [heq]
    obtain ⟨hothers, hrenewed⟩ := renewed htimed hd haddressed hmethod
    refine ⟨ctx.subscriptionAnswer sid, ?_, fun hno => absurd rfl hno,
      fun _ => ⟨_, hothers, .inr (.inl hrenewed)⟩⟩
    rw [hrenewed.log, head_drop_append]
    rfl
  · rw [heq]
    obtain ⟨hothers, hdropped⟩ := dropped htimed hd haddressed hmethod
    refine ⟨.plain .ok, ?_, fun hno => absurd rfl hno,
      fun _ => ⟨_, hothers, .inr (.inr hdropped)⟩⟩
    rw [hdropped.log, head_drop_append]
    rfl

/-- An UNSUBSCRIBE after the initial event was received. -/
theorem request_atomic_sample : ∃ s, Run (step sampleContext) AnyStep .init
    [.request sampleSubscribe sampleQuery, .response sampleSid 0 (.done none 200 "OK")] s ∧
    Atomic sampleContext (sampleRequest Gena.methodUnsubscribe) s
      (subscriptionServerHandler sampleContext sampleQuery
        (sampleRequest Gena.methodUnsubscribe) s) := by
  have hrun : Run (step sampleContext) AnyStep .init
      [.request sampleSubscribe sampleQuery, .response sampleSid 0 (.done none 200 "OK")] _ :=
    .cons trivial rfl (.single trivial rfl)
  exact ⟨_, hrun, request_atomic hrun sampleQuery (sampleRequest Gena.methodUnsubscribe)⟩

end GUPnP.Service
