import GUPnP.Service.Proof.LifeEvents

/-!
# What a request means for a subscription

`lives_handler`: a request to the event subscription URL creates a subscription, renews or
unsubscribes the one it names, or is refused; for every other subscription nothing happens.
-/

set_option autoImplicit false

namespace GUPnP.Service

variable {ctx : Context} {sid : Str} {s t u : ServiceState} {ok : History → LifeEvent → Prop}

/-! ## SUBSCRIBE -/

theorem generateSid_injective (ctx : Context) : Function.Injective (generateSid ctx) := by
  intro k k' h
  exact ctx.uuid_injective (List.append_cancel_left h)

theorem not_issued_next (ctx : Context) (s : ServiceState) :
    ¬ Issued ctx s (generateSid ctx s.nextUuid) := by
  rintro ⟨k, hk, he⟩
  rw [generateSid_injective ctx he] at hk
  exact Nat.lt_irrefl _ hk

/-- The service with a new subscription, before the answer. -/
def ServiceState.created (ctx : Context) (callbacks : Cursor Uri) (s : ServiceState) :
    ServiceState :=
  { s with
    nextUuid := s.nextUuid + 1
    nextSource := s.nextSource + 1
    sources := s.sources ++
      [⟨s.nextSource, generateSid ctx s.nextUuid, s.clock + subscriptionTimeoutSeconds⟩]
    subscriptions := s.subscriptions.insert (generateSid ctx s.nextUuid)
      (.new callbacks (generateSid ctx s.nextUuid) s.nextSource) }

theorem lookup_created (ctx : Context) (callbacks : Cursor Uri) (s : ServiceState) :
    (s.created ctx callbacks).subscriptions.lookup (generateSid ctx s.nextUuid) =
      some (.new callbacks (generateSid ctx s.nextUuid) s.nextSource) := AList.lookup_insert _

theorem lookup_created_ne (callbacks : Cursor Uri) (hne : sid ≠ generateSid ctx s.nextUuid) :
    (s.created ctx callbacks).subscriptions.lookup sid = s.subscriptions.lookup sid :=
  AList.lookup_insert_ne hne

theorem subscribe_cases (ctx : Context) (query : ServiceState → Str → Option Str)
    (req : SubscriptionRequest) (callback : Str) (s : ServiceState) :
    subscribe ctx query req callback s =
        s.reply req (.preconditionFailed (some "No valid callbacks found")) ∨
      ∃ callbacks, callbacks.pos = 0 ∧ callbacks.toList = parseCallbacks ctx callback ∧
        subscribe ctx query req callback s =
          sendInitialState query (generateSid ctx s.nextUuid)
            (subscriptionResponse ctx req (generateSid ctx s.nextUuid) (s.created ctx callbacks)) := by
  unfold subscribe
  cases hc : Cursor.ofList? (parseCallbacks ctx callback) with
  | none => exact .inl rfl
  | some callbacks =>
    obtain ⟨hlist, hpos⟩ := Cursor.ofList?_toList hc
    exact .inr ⟨callbacks, hpos, hlist, rfl⟩

theorem wellFormed_created (h : WellFormed ctx s) (req : SubscriptionRequest)
    (callbacks : Cursor Uri) (sid₀ : Str) :
    WellFormed ctx (subscriptionResponse ctx req sid₀ (s.created ctx callbacks)) := by
  refine h.next (Nat.le_refl _) (Nat.le_succ _) (fun sid d hd => ?_) (fun msg hm => ?_)
  · by_cases heq : sid = generateSid ctx s.nextUuid
    · subst heq
      obtain rfl := Option.some.inj ((lookup_created ctx callbacks s).symm.trans hd)
      exact .inr ⟨.new _ _ _ _, s.nextUuid, Nat.lt_succ_self _, rfl⟩
    · exact .inl ((lookup_created_ne callbacks heq).symm.trans hd)
  · rcases List.mem_append.1 hm with hm | hm
    · exact .inl hm
    · cases List.mem_singleton.1 hm

/-- The answer that creates a subscription starts its life and is about no other. -/
theorem lives_created (h : WellFormed ctx s) {query : ServiceState → Str → Option Str}
    {req : SubscriptionRequest} {callbacks : Cursor Uri} (hpos : callbacks.pos = 0)
    (hg : Grants ctx (generateSid ctx s.nextUuid) req
      (ctx.subscriptionAnswer (generateSid ctx s.nextUuid)) callbacks.toList) :
    Lives ctx sid (Caused ctx sid s (.request req query)) s
      (subscriptionResponse ctx req (generateSid ctx s.nextUuid) (s.created ctx callbacks)) := by
  have hlog : about sid (subscriptionResponse ctx req (generateSid ctx s.nextUuid)
      (s.created ctx callbacks)).log = about sid s.log ++
        about sid [.answer req (ctx.subscriptionAnswer (generateSid ctx s.nextUuid))] :=
    about_append sid _ _
  have hsid : (Effect.answer req (ctx.subscriptionAnswer (generateSid ctx s.nextUuid))).sid? =
      some (generateSid ctx s.nextUuid) := by
    rw [Effect.sid?, hg.unnamed, Option.none_or]
    rfl
  by_cases heq : sid = generateSid ctx s.nextUuid
  · have hnew : (subscriptionResponse ctx req (generateSid ctx s.nextUuid)
        (s.created ctx callbacks)).subscriptions.lookup sid =
        some (.new callbacks (generateSid ctx s.nextUuid) s.nextSource) := by
      rw [heq]
      exact lookup_created ctx callbacks s
    have hnone : s.subscriptions.lookup sid = none := by
      cases hl : s.subscriptions.lookup sid with
      | none => rfl
      | some d => exact absurd (heq ▸ h.issued hl) (not_issued_next ctx s)
    have hself : about sid [Effect.answer req (ctx.subscriptionAnswer (generateSid ctx s.nextUuid))] =
        [.answer req (ctx.subscriptionAnswer (generateSid ctx s.nextUuid))] :=
      about_eq_self fun e he => by rw [List.mem_singleton.1 he, hsid, heq]
    rw [hself] at hlog
    refine .single (.create callbacks s.nextSource hpos (heq ▸ hg)) ?_
    rw [history_unborn hnone (heq ▸ not_issued_next ctx s), history_alive hnew, hlog]
    simp [lifeStep, heq]
  · have hother : about sid
        [Effect.answer req (ctx.subscriptionAnswer (generateSid ctx s.nextUuid))] = [] :=
      about_answer_ne fun hc => heq (Option.some.inj (hc.symm.trans hsid))
    rw [hother, List.append_nil] at hlog
    refine .of_eq (history_eq (lookup_created_ne callbacks heq) ?_ hlog)
    refine ⟨fun hi => ?_, fun hi => hi.mono (Nat.le_succ _)⟩
    obtain ⟨k, hk, hsid⟩ := hi
    refine ⟨k, Nat.lt_of_le_of_ne (Nat.le_of_lt_succ hk) fun hkn => heq ?_, hsid⟩
    rw [hsid, hkn]

theorem lives_subscribe (h : WellFormed ctx s) {query query' : ServiceState → Str → Option Str}
    {req : SubscriptionRequest} {callback : Str} (hm : req.method = Gena.methodSubscribe)
    (hc : req.callback = some callback) (hreq : req.sid = none) :
    WellFormed ctx (subscribe ctx query req callback s) ∧
      Lives ctx sid (Caused ctx sid s (.request req query')) s
        (subscribe ctx query req callback s) := by
  obtain he | ⟨callbacks, hpos, hlist, he⟩ := subscribe_cases ctx query req callback s
  · rw [he]
    refine ⟨wellFormed_reply h _ _, .of_eq ?_⟩
    rw [ServiceState.reply, history_record, about_plain_ne (by rw [hreq]; simp), List.append_nil]
    rfl
  · have hw := wellFormed_created h req callbacks (generateSid ctx s.nextUuid)
    rw [he]
    refine ⟨wellFormed_sendInitialState hw _ _, ?_⟩
    refine (lives_created h hpos ⟨hm, hreq, rfl, callback, hc, hlist.symm⟩).trans
      (lives_sendInitialState hw query _ fun d h' ps hd heq halive hfresh => ?_)
    -- The event sent here is the first one of the subscription that was just created.
    have hnew : (subscriptionResponse ctx req (generateSid ctx s.nextUuid)
        (s.created ctx callbacks)).subscriptions.lookup sid =
        some (.new callbacks (generateSid ctx s.nextUuid) s.nextSource) := by
      rw [heq]
      exact lookup_created ctx callbacks s
    rw [hnew] at hd
    obtain rfl := Option.some.inj hd
    exact .initial halive hpos hfresh

/-- A modification that keeps what the invariant reads. -/
theorem wellFormed_modify (h : WellFormed ctx s) {sid₀ : Str} {req : SubscriptionRequest}
    {ans : Answer} {f : SubscriptionData → SubscriptionData} {sources : List Source} {n : Nat}
    (hsid : ∀ d, (f d).sid = d.sid) (hp : ∀ d, (f d).pendingMessages = d.pendingMessages) :
    WellFormed ctx ({ s with
      subscriptions := s.subscriptions.modify sid₀ f
      sources := sources
      nextSource := n }.record [.answer req ans]) := by
  refine h.next (Nat.le_refl _) (Nat.le_refl _) (fun sid d hd => ?_) (fun msg hm => ?_)
  · have hd' : (s.subscriptions.modify sid₀ f).lookup sid = some d := hd
    rw [Table.lookup_modify] at hd'
    obtain ⟨d₀, hd₀, he⟩ := Option.map_eq_some_iff.1 hd'
    split at he
    · rw [← he]
      exact .inr ⟨(h.entry hd₀).of_eq (hsid d₀) (by rw [hp]; exact List.Subset.refl _),
        h.issued hd₀⟩
    · rw [← he]
      exact .inl hd₀
  · rcases List.mem_append.1 hm with hm | hm
    · exact .inl hm
    · cases List.mem_singleton.1 hm

theorem resubscribe_some {d : SubscriptionData} {sid₀ : Str}
    (h : s.subscriptions.lookup sid₀ = some d) (req : SubscriptionRequest) :
    resubscribe ctx req sid₀ s = { s with
      subscriptions := s.subscriptions.modify sid₀ fun d => { d with timeoutSrc := some s.nextSource }
      sources := (s.sources.filter fun x : Source => some x.id ≠ d.timeoutSrc) ++
        [⟨s.nextSource, sid₀, s.clock + subscriptionTimeoutSeconds⟩]
      nextSource := s.nextSource + 1 : ServiceState }.record
        [.answer req (ctx.subscriptionAnswer sid₀)] := by
  unfold resubscribe
  rw [h]
  rfl

theorem resubscribe_none {sid₀ : Str} (h : s.subscriptions.lookup sid₀ = none)
    (req : SubscriptionRequest) : resubscribe ctx req sid₀ s = s.reply req noPrevious := by
  unfold resubscribe
  rw [h]
  rfl

/-- `unsubscribe` for a subscription that exists removes it, or marks it for removal. -/
theorem unsubscribe_some {d : SubscriptionData} {sid₀ : Str}
    (h : s.subscriptions.lookup sid₀ = some d) (req : SubscriptionRequest) :
    unsubscribe req sid₀ s =
      (if d.initialStateSent then removeSubscription sid₀ s
        else { s with subscriptions :=
          s.subscriptions.modify sid₀ fun d => { d with toDelete := true } }).reply req .ok := by
  unfold unsubscribe
  rw [h]

theorem unsubscribe_none {sid₀ : Str} (h : s.subscriptions.lookup sid₀ = none)
    (req : SubscriptionRequest) : unsubscribe req sid₀ s = s.reply req noPrevious := by
  unfold unsubscribe
  rw [h]
  rfl

/-- A renewal or an UNSUBSCRIBE for an unknown SID. -/
theorem lives_unknown {query : ServiceState → Str → Option Str} {req : SubscriptionRequest}
    {sid₀ : Str} (hr : req.sid = some sid₀) (hd : s.subscriptions.lookup sid₀ = none) :
    Lives ctx sid (Caused ctx sid s (.request req query)) s (s.reply req noPrevious) := by
  refine lives_reply (by decide) fun ha => ?_
  have heq := hr.symm.trans ha.sid
  exact ⟨Option.some.inj heq ▸ hd, rfl⟩

theorem lives_resubscribe (h : WellFormed ctx s) {query : ServiceState → Str → Option Str}
    {req : SubscriptionRequest} {sid₀ : Str} (ha : Addressed ctx sid₀ req)
    (hm : req.method = Gena.methodSubscribe) :
    WellFormed ctx (resubscribe ctx req sid₀ s) ∧
      Lives ctx sid (Caused ctx sid s (.request req query)) s (resubscribe ctx req sid₀ s) := by
  cases hd : s.subscriptions.lookup sid₀ with
  | none =>
    rw [resubscribe_none hd]
    exact ⟨wellFormed_reply h _ _, lives_unknown ha.sid hd⟩
  | some d =>
    rw [resubscribe_some hd]
    refine ⟨wellFormed_modify h (fun _ => rfl) fun _ => rfl, ?_⟩
    by_cases heq : sid = sid₀
    · subst heq
      refine .single (.renew s.nextSource ha hm) ?_
      rw [history_record, about_answer ha.sid, history_alive hd]
      simp [lifeStep, ServiceState.life, Table.lookup_modify_self, hd]
    · refine .of_eq ?_
      have hne : req.sid.or (ctx.subscriptionAnswer sid₀).sid ≠ some sid := by
        rw [ha.sid, Option.some_or]
        exact fun hc => heq (Option.some.inj hc).symm
      rw [history_record, about_answer_ne hne, List.append_nil]
      refine history_eq ?_ (issued_iff rfl) rfl
      exact Table.lookup_modify_ne heq _ _

theorem lives_unsubscribe (h : WellFormed ctx s) {query : ServiceState → Str → Option Str}
    {req : SubscriptionRequest} {sid₀ : Str} (ha : Addressed ctx sid₀ req)
    (hm : req.method = Gena.methodUnsubscribe) :
    WellFormed ctx (unsubscribe req sid₀ s) ∧
      Lives ctx sid (Caused ctx sid s (.request req query)) s (unsubscribe req sid₀ s) := by
  cases hd : s.subscriptions.lookup sid₀ with
  | none =>
    rw [unsubscribe_none hd]
    exact ⟨wellFormed_reply h _ _, lives_unknown ha.sid hd⟩
  | some d =>
    rw [unsubscribe_some hd]
    have hother : sid ≠ sid₀ → about sid [.answer req (.plain .ok)] = [] := fun hne =>
      about_plain_ne (by rw [ha.sid]; exact fun hc => hne (Option.some.inj hc).symm) _
    cases hsent : d.initialStateSent with
    | true =>
      rw [if_pos rfl]
      refine ⟨wellFormed_reply (wellFormed_remove h sid₀) _ _, ?_⟩
      by_cases heq : sid = sid₀
      · subst heq
        refine .single (.unsubscribe ha hm) ?_
        have hgone : (removeSubscription sid s).life ctx sid = .dead := by
          have hlookup := lookup_removeSubscription sid s sid
          rw [if_pos rfl] at hlookup
          have hissued : Issued ctx (removeSubscription sid s) sid := (h.issued hd).mono (by simp)
          exact congrArg History.life (history_dead hlookup hissued)
        rw [history_alive hd, ServiceState.reply, history_record, about_answer ha.sid, hgone]
        simp [lifeStep, hsent]
      · refine .of_eq ?_
        rw [ServiceState.reply, history_record, hother heq,
          List.append_nil]
        refine history_eq ?_ (issued_iff (by simp)) (by simp)
        rw [lookup_removeSubscription, if_neg heq]
    | false =>
      rw [if_neg (by simp)]
      refine ⟨wellFormed_modify h (fun _ => rfl) fun _ => rfl, ?_⟩
      by_cases heq : sid = sid₀
      · subst heq
        refine .single (.unsubscribe ha hm) ?_
        rw [history_alive hd, ServiceState.reply, history_record, about_answer ha.sid]
        simp [lifeStep, ServiceState.life, Table.lookup_modify_self, hd, hsent]
      · refine .of_eq ?_
        rw [ServiceState.reply, history_record, hother heq,
          List.append_nil]
        refine history_eq ?_ (issued_iff rfl) rfl
        exact Table.lookup_modify_ne heq _ _

/-! ## The handler -/

/-- A request is refused before it is for any subscription, or it goes to one of the three functions
for its method. -/
theorem handler_dispatch (ctx : Context) (query : ServiceState → Str → Option Str)
    (req : SubscriptionRequest) (s : ServiceState) :
    (∃ status : Status, status.code ≠ 200 ∧ (∀ sid, ¬ Addressed ctx sid req) ∧
      subscriptionServerHandler ctx query req s = s.reply req status) ∨
    (∃ callback, req.method = Gena.methodSubscribe ∧ req.callback = some callback ∧
      req.nt = some Gena.ntEvent ∧ req.sid = none ∧
      subscriptionServerHandler ctx query req s = subscribe ctx query req callback s) ∨
    (∃ sid, Addressed ctx sid req ∧ req.method = Gena.methodSubscribe ∧
      subscriptionServerHandler ctx query req s = resubscribe ctx req sid s) ∨
    ∃ sid, Addressed ctx sid req ∧ req.method = Gena.methodUnsubscribe ∧
      subscriptionServerHandler ctx query req s = unsubscribe req sid s := by
  unfold subscriptionServerHandler
  split
  · rename_i hhost
    exact .inl ⟨_, by decide, fun sid ha => by simp [ha.host] at hhost, rfl⟩
  · rename_i hhost
    rw [Bool.not_eq_true', Bool.not_eq_false] at hhost
    split
    · rename_i hmethod
      split
      · rename_i callback hcallback
        have hno : ∀ sid, ¬ Addressed ctx sid req := fun sid ha => by simp [ha.callback] at hcallback
        split
        · exact .inl ⟨_, by decide, hno, rfl⟩
        · rename_i hsid
          split
          · exact .inl ⟨_, by decide, hno, rfl⟩
          · rename_i hnt
            exact .inr (.inl ⟨callback, hmethod, hcallback, not_not.1 hnt, by simpa using hsid, rfl⟩)
      · rename_i sid hcallback hsid
        split
        · rename_i hnt
          exact .inl ⟨_, by decide, fun sid ha => by simp [ha.nt] at hnt, rfl⟩
        · rename_i hnt
          have ha : Addressed ctx sid req :=
            ⟨hhost, .inl hmethod, hcallback, by simpa using hnt, hsid⟩
          exact .inr (.inr (.inl ⟨sid, ha, hmethod, rfl⟩))
      · rename_i hcallback hsid
        exact .inl ⟨_, by decide, fun sid ha => by simp [ha.sid] at hsid, rfl⟩
    · split
      · rename_i hmethod
        split
        · rename_i sid hsid
          split
          · rename_i hbad
            exact .inl ⟨_, by decide, fun sid ha => by simp [ha.nt, ha.callback] at hbad, rfl⟩
          · rename_i hbad
            simp only [Bool.or_eq_true, Option.isSome_iff_ne_none, not_or, not_not] at hbad
            have ha : Addressed ctx sid req := ⟨hhost, .inr hmethod, hbad.2, hbad.1, hsid⟩
            exact .inr (.inr (.inr ⟨sid, ha, hmethod, rfl⟩))
        · rename_i hsid
          exact .inl ⟨_, by decide, fun sid ha => by simp [ha.sid] at hsid, rfl⟩
      · rename_i hsub hunsub
        refine .inl ⟨_, by decide, fun sid ha => ?_, rfl⟩
        rcases ha.method with hm | hm
        · exact hsub hm
        · exact hunsub hm

theorem lives_handler (h : WellFormed ctx s) (query : ServiceState → Str → Option Str)
    (req : SubscriptionRequest) :
    WellFormed ctx (subscriptionServerHandler ctx query req s) ∧
      Lives ctx sid (Caused ctx sid s (.request req query)) s
        (subscriptionServerHandler ctx query req s) := by
  obtain ⟨status, hstatus, hno, heq⟩ | ⟨callback, hmethod, hcallback, -, hsid, heq⟩ |
    ⟨sid₀, ha, hmethod, heq⟩ | ⟨sid₀, ha, hmethod, heq⟩ := handler_dispatch ctx query req s
  · have hnot : status ≠ .ok := by
      rintro rfl
      exact hstatus rfl
    rw [heq]
    exact ⟨wellFormed_reply h _ _, lives_reply hnot fun ha => absurd ha (hno sid)⟩
  · rw [heq]
    exact lives_subscribe h hmethod hcallback hsid
  · rw [heq]
    exact lives_resubscribe h ha hmethod
  · rw [heq]
    exact lives_unsubscribe h ha hmethod

end GUPnP.Service
