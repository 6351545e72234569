import GUPnP.Service.Proof.Frame

/-!
# Subscriptions and their timers

`Timed`: the timer sources and the subscriptions belong to each other, one to one, and no timer is
overdue. Every part of a handler keeps it (`timed_remove`, `timed_created`, `timed_renewed`,
`Timed.same`), so it holds in every state a run reaches (`timed_run`). `handler_spec` says what a
request does: it is refused, or it creates, renews or unsubscribes one subscription.
-/

set_option autoImplicit false

namespace GUPnP.Service

/-! ## The invariant -/

structure Timed (s : ServiceState) : Prop where
  ids : (s.sources.map Source.id).Nodup
  below : ∀ src ∈ s.sources, src.id < s.nextSource
  owned : ∀ src ∈ s.sources, ∃ d, s.subscriptions.lookup src.sid = some d ∧
    d.timeoutSrc = some src.id
  armed : ∀ {sid d}, s.subscriptions.lookup sid = some d →
    ∃ src ∈ s.sources, src.sid = sid ∧ d.timeoutSrc = some src.id
  due : ∀ src ∈ s.sources, s.clock ≤ src.due

variable {ctx : Context} {sid : Str} {s t u : ServiceState} {src src' : Source}

theorem Timed.eq_of_id (h : Timed s) (hsrc : src ∈ s.sources) (hsrc' : src' ∈ s.sources)
    (hid : src.id = src'.id) : src = src' := List.inj_on_of_nodup_map h.ids hsrc hsrc' hid

/-- A subscription has one timer. -/
theorem Timed.eq_of_sid (h : Timed s) (hsrc : src ∈ s.sources) (hsrc' : src' ∈ s.sources)
    (hsid : src.sid = src'.sid) : src = src' := by
  obtain ⟨d, hd, hid⟩ := h.owned src hsrc
  obtain ⟨d', hd', hid'⟩ := h.owned src' hsrc'
  rw [hsid, hd'] at hd
  obtain rfl := Option.some.inj hd
  rw [hid'] at hid
  exact h.eq_of_id hsrc hsrc' (Option.some.inj hid).symm

/-- The timers of the other subscriptions are those that are not the timer of this one. -/
theorem Timed.filter_eq (h : Timed s) {d : SubscriptionData}
    (hd : s.subscriptions.lookup sid = some d) :
    (s.sources.filter fun x => some x.id ≠ d.timeoutSrc) =
      s.sources.filter fun x => x.sid ≠ sid := by
  apply List.filter_congr
  intro x hx
  obtain ⟨src, hsrc, rfl, hid⟩ := h.armed hd
  rw [hid]
  have hiff : some x.id = some src.id ↔ x.sid = src.sid := by
    constructor
    · intro heq
      rw [h.eq_of_id hx hsrc (Option.some.inj heq)]
    · intro heq
      rw [h.eq_of_sid hx hsrc heq]
  simp only [ne_eq, hiff]

/-- Nothing else has a timer. -/
theorem Timed.filter_of_none (h : Timed s) (hd : s.subscriptions.lookup sid = none) :
    (s.sources.filter fun x => x.sid ≠ sid) = s.sources := by
  refine List.filter_eq_self.2 fun src hsrc => decide_eq_true ?_
  rintro rfl
  obtain ⟨d, hd', -⟩ := h.owned src hsrc
  rw [hd] at hd'
  cases hd'

/-- From `s` to `t` the timers, the time and which subscription has which timer are the same. -/
structure SameTimers (s t : ServiceState) : Prop where
  sources : t.sources = s.sources
  nextSource : t.nextSource = s.nextSource
  clock : t.clock = s.clock
  timeoutSrc : ∀ sid, (t.subscriptions.lookup sid).map SubscriptionData.timeoutSrc =
    (s.subscriptions.lookup sid).map SubscriptionData.timeoutSrc

theorem SameTimers.refl (s : ServiceState) : SameTimers s s := ⟨rfl, rfl, rfl, fun _ => rfl⟩

theorem SameTimers.trans (h : SameTimers s t) (h' : SameTimers t u) : SameTimers s u where
  sources := h'.sources.trans h.sources
  nextSource := h'.nextSource.trans h.nextSource
  clock := h'.clock.trans h.clock
  timeoutSrc := fun sid => (h'.timeoutSrc sid).trans (h.timeoutSrc sid)

theorem Timed.same (h : Timed s) (hsame : SameTimers s t) : Timed t := by
  refine ⟨?_, ?_, ?_, ?_, ?_⟩
  · rw [hsame.sources]
    exact h.ids
  · rw [hsame.sources, hsame.nextSource]
    exact h.below
  · intro src hsrc
    rw [hsame.sources] at hsrc
    obtain ⟨d, hd, hid⟩ := h.owned src hsrc
    have hlookup := hsame.timeoutSrc src.sid
    rw [hd] at hlookup
    obtain ⟨d', hd', heq⟩ := Option.map_eq_some_iff.1 hlookup
    exact ⟨d', hd', heq.trans hid⟩
  · intro sid d hd
    have hlookup := hsame.timeoutSrc sid
    rw [hd] at hlookup
    obtain ⟨d', hd', heq⟩ := Option.map_eq_some_iff.1 hlookup.symm
    obtain ⟨src, hsrc, hsid, hid⟩ := h.armed hd'
    rw [hsame.sources]
    exact ⟨src, hsrc, hsid, heq.symm.trans hid⟩
  · rw [hsame.sources, hsame.clock]
    exact h.due

/-! ## The parts of the handlers -/

theorem removeSubscription_sources (h : Timed s) (sid₀ : Str) :
    (removeSubscription sid₀ s).sources = s.sources.filter fun x => x.sid ≠ sid₀ := by
  unfold removeSubscription
  cases hd : s.subscriptions.lookup sid₀ with
  | none => exact (h.filter_of_none hd).symm
  | some d => exact h.filter_eq hd

@[simp] theorem removeSubscription_nextSource (sid₀ : Str) (s : ServiceState) :
    (removeSubscription sid₀ s).nextSource = s.nextSource := by
  unfold removeSubscription
  split <;> rfl

@[simp] theorem removeSubscription_clock (sid₀ : Str) (s : ServiceState) :
    (removeSubscription sid₀ s).clock = s.clock := by
  unfold removeSubscription
  split <;> rfl

theorem timed_remove (h : Timed s) (sid₀ : Str) : Timed (removeSubscription sid₀ s) := by
  have hsources := removeSubscription_sources h sid₀
  have hmem : ∀ src ∈ (removeSubscription sid₀ s).sources, src ∈ s.sources ∧ src.sid ≠ sid₀ := by
    intro src hsrc
    rw [hsources, List.mem_filter, decide_eq_true_eq] at hsrc
    exact hsrc
  refine ⟨?_, ?_, ?_, ?_, ?_⟩
  · rw [hsources]
    exact (List.filter_sublist.map Source.id).nodup h.ids
  · intro src hsrc
    rw [removeSubscription_nextSource]
    exact h.below src (hmem src hsrc).1
  · intro src hsrc
    rw [lookup_removeSubscription, if_neg (hmem src hsrc).2]
    exact h.owned src (hmem src hsrc).1
  · intro sid d hd
    rw [lookup_removeSubscription] at hd
    split at hd
    · cases hd
    · rename_i hne
      obtain ⟨src, hsrc, rfl, hid⟩ := h.armed hd
      refine ⟨src, ?_, rfl, hid⟩
      rw [hsources, List.mem_filter, decide_eq_true_eq]
      exact ⟨hsrc, hne⟩
  · intro src hsrc
    rw [removeSubscription_clock]
    exact h.due src (hmem src hsrc).1

/-- A timer that fires removes its subscription as any other removal would. -/
theorem subscriptionTimeout_eq (h : Timed s) (hsrc : src ∈ s.sources) :
    subscriptionTimeout src s = removeSubscription src.sid s := by
  obtain ⟨d, hd, hid⟩ := h.owned src hsrc
  unfold subscriptionTimeout removeSubscription
  simp only [hd, List.filter_filter, hid]
  congr 1
  apply List.filter_congr
  intro x _
  simp

theorem timed_removeAll (h : Timed s) : Timed (removeAll s) := by
  have hsources : (removeAll s).sources = [] := by
    refine List.filter_eq_nil_iff.2 fun src hsrc hall => ?_
    obtain ⟨d, hd, hid⟩ := h.owned src hsrc
    have hentry := List.all_eq_true.1 hall ⟨src.sid, d⟩ (AList.mem_lookup_iff.1 hd)
    simp [hid] at hentry
  refine ⟨?_, ?_, ?_, ?_, ?_⟩
  · rw [hsources]
    exact List.nodup_nil
  · rw [hsources]
    exact fun src hsrc => absurd hsrc List.not_mem_nil
  · rw [hsources]
    exact fun src hsrc => absurd hsrc List.not_mem_nil
  · intro sid d hd
    cases hd
  · rw [hsources]
    exact fun src hsrc => absurd hsrc List.not_mem_nil

@[simp] theorem notifySubscriber_timeoutSrc (propertySet : PropertySet) (d : SubscriptionData) :
    (notifySubscriber propertySet d).1.timeoutSrc = d.timeoutSrc := by
  unfold notifySubscriber
  split <;> rfl

@[simp] theorem notifySubscriber_toDelete (propertySet : PropertySet) (d : SubscriptionData) :
    (notifySubscriber propertySet d).1.toDelete = d.toDelete := by
  unfold notifySubscriber
  split <;> rfl

theorem sameTimers_update (sid₀ : Str) {f : SubscriptionData → SubscriptionData × List Effect}
    (hf : ∀ d, (f d).1.timeoutSrc = d.timeoutSrc) (s : ServiceState) :
    SameTimers s (s.update sid₀ f) := by
  have hlookup : ∀ sid, ((s.update sid₀ f).subscriptions.lookup sid).map
      SubscriptionData.timeoutSrc =
        (s.subscriptions.lookup sid).map SubscriptionData.timeoutSrc := by
    intro sid
    rw [lookup_update]
    split
    · rw [Option.map_map]
      exact congrArg (fun g => (s.subscriptions.lookup sid).map g) (funext hf)
    · rfl
  unfold ServiceState.update at hlookup ⊢
  split
  · exact .refl s
  · rename_i d hd
    rw [hd] at hlookup
    exact ⟨rfl, rfl, rfl, hlookup⟩

theorem sameTimers_sendInitialState (query : ServiceState → Str → Option Str) (sid₀ : Str)
    (s : ServiceState) : SameTimers s (sendInitialState query sid₀ s) := by
  rw [sendInitialState_eq]
  have hbytes : SameTimers s { s with nextBytes := s.nextBytes + 1 } :=
    ⟨rfl, rfl, rfl, fun _ => rfl⟩
  exact hbytes.trans (sameTimers_update sid₀ (notifySubscriber_timeoutSrc _) _)

theorem sameTimers_flush (s : ServiceState) : SameTimers s (flushNotifications s) := by
  refine ⟨rfl, rfl, rfl, fun sid => ?_⟩
  rw [flushNotifications_eq]
  simp only [Table.lookup_mapValues, Option.map_map]
  exact congrArg (fun g => (s.subscriptions.lookup sid).map g)
    (funext (notifySubscriber_timeoutSrc _))

/-- A response that does not end the subscription. -/
theorem notifyGotResponse_keeps {i : Nat} {msg : NotifySubscriberData}
    {outcome : NotifyOutcome} {d d' : SubscriptionData}
    (h : (notifyGotResponse i msg outcome d).1 = some d') :
    d'.timeoutSrc = d.timeoutSrc ∧ d'.toDelete = d.toDelete := by
  obtain ⟨-, heq⟩ | ⟨-, heq⟩ | ⟨-, heq⟩ | ⟨-, next, -, heq⟩ | ⟨-, -, error, heq⟩ :=
    notifyGotResponse_cases i msg outcome d <;> rw [heq] at h
  · obtain rfl := Option.some.inj h
    exact ⟨rfl, rfl⟩
  · obtain rfl := Option.some.inj h
    exact ⟨rfl, rfl⟩
  · cases h
  · obtain rfl := Option.some.inj h
    exact ⟨notifySubscriber_timeoutSrc .., notifySubscriber_toDelete ..⟩
  · obtain rfl := Option.some.inj h
    exact ⟨rfl, rfl⟩

/-! ## New timers -/

/-- A subscription that is new, or has its timer replaced. -/
theorem Timed.rearm (h : Timed s) (sid₀ : Str) (due : Nat)
    (hsources : t.sources = (s.sources.filter fun x => x.sid ≠ sid₀) ++ [⟨s.nextSource, sid₀, due⟩])
    (hnext : t.nextSource = s.nextSource + 1) (hclock : t.clock = s.clock) (hdue : s.clock ≤ due)
    (hself : ∃ d, t.subscriptions.lookup sid₀ = some d ∧ d.timeoutSrc = some s.nextSource)
    (hothers : ∀ sid, sid ≠ sid₀ → t.subscriptions.lookup sid = s.subscriptions.lookup sid) :
    Timed t := by
  have hmem : ∀ src, src ∈ t.sources ↔
      (src ∈ s.sources ∧ src.sid ≠ sid₀) ∨ src = ⟨s.nextSource, sid₀, due⟩ := by
    intro src
    rw [hsources, List.mem_append, List.mem_filter, decide_eq_true_eq, List.mem_singleton]
  refine ⟨?_, ?_, ?_, ?_, ?_⟩
  · rw [hsources, List.map_append, List.nodup_append']
    refine ⟨(List.filter_sublist.map Source.id).nodup h.ids, List.nodup_singleton _, ?_⟩
    intro id hid hnew
    obtain ⟨src, hsrc, rfl⟩ := List.mem_map.1 hid
    have hlt := h.below src (List.mem_filter.1 hsrc).1
    have heq : src.id = s.nextSource := List.mem_singleton.1 hnew
    omega
  · intro src hsrc
    rw [hnext]
    rcases (hmem src).1 hsrc with ⟨hsrc, -⟩ | rfl
    · exact Nat.lt_succ_of_lt (h.below src hsrc)
    · exact Nat.lt_succ_self _
  · intro src hsrc
    rcases (hmem src).1 hsrc with ⟨hsrc, hne⟩ | rfl
    · rw [hothers _ hne]
      exact h.owned src hsrc
    · exact hself
  · intro sid d hd
    by_cases heq : sid = sid₀
    · subst heq
      obtain ⟨d', hd', hid⟩ := hself
      rw [hd'] at hd
      obtain rfl := Option.some.inj hd
      exact ⟨_, (hmem _).2 (.inr rfl), rfl, hid⟩
    · rw [hothers _ heq] at hd
      obtain ⟨src, hsrc, rfl, hid⟩ := h.armed hd
      exact ⟨src, (hmem src).2 (.inl ⟨hsrc, heq⟩), rfl, hid⟩
  · intro src hsrc
    rw [hclock]
    rcases (hmem src).1 hsrc with ⟨hsrc, -⟩ | rfl
    · exact h.due src hsrc
    · exact hdue

/-- No subscription has the next SID. -/
theorem lookup_next (hw : WellFormed ctx s) :
    s.subscriptions.lookup (generateSid ctx s.nextUuid) = none := by
  cases hd : s.subscriptions.lookup (generateSid ctx s.nextUuid) with
  | none => rfl
  | some d => exact absurd (hw.issued hd) (not_issued_next ctx s)

theorem timed_answered (h : Timed s) (hw : WellFormed ctx s) (req : SubscriptionRequest)
    (callbacks : Cursor Uri) : Timed (s.answered ctx req callbacks) := by
  refine h.rearm (generateSid ctx s.nextUuid) (s.clock + subscriptionTimeoutSeconds) ?_ rfl rfl
    (Nat.le_add_right ..) ⟨_, AList.lookup_insert _, rfl⟩ fun sid hne => AList.lookup_insert_ne hne
  rw [h.filter_of_none (lookup_next hw)]
  rfl

theorem timed_resubscribe (h : Timed s) {d : SubscriptionData} {sid₀ : Str}
    (hd : s.subscriptions.lookup sid₀ = some d) (req : SubscriptionRequest) :
    Timed (resubscribe ctx req sid₀ s) := by
  rw [resubscribe_some hd]
  refine h.rearm sid₀ (s.clock + subscriptionTimeoutSeconds) ?_ rfl rfl
    (Nat.le_add_right ..) ⟨{ d with timeoutSrc := some s.nextSource }, ?_, rfl⟩ fun sid hne => ?_
  · show (s.sources.filter fun x => some x.id ≠ d.timeoutSrc) ++ _ = _
    rw [h.filter_eq hd]
  · show (s.subscriptions.modify sid₀ _).lookup sid₀ = _
    rw [Table.lookup_modify_self, hd]
    rfl
  · exact Table.lookup_modify_ne hne ..

theorem timed_unsubscribe (h : Timed s) (req : SubscriptionRequest) (sid₀ : Str) :
    Timed (unsubscribe req sid₀ s) := by
  have hreply : ∀ {s : ServiceState} (status : Status), Timed s → Timed (s.reply req status) :=
    fun status h => h.same ⟨rfl, rfl, rfl, fun _ => rfl⟩
  unfold unsubscribe
  split
  · exact hreply _ h
  · apply hreply
    split
    · exact timed_remove h sid₀
    · refine h.same ⟨rfl, rfl, rfl, fun sid => ?_⟩
      simp only [Table.lookup_modify, Option.map_map]
      refine congrArg (fun g => (s.subscriptions.lookup sid).map g) (funext fun d => ?_)
      simp only [Function.comp_apply]
      split <;> rfl

/-! ## Requests -/

/-- A request is refused, or it creates a subscription, or it renews or unsubscribes the one it
names. -/
theorem handler_spec (ctx : Context) (query : ServiceState → Str → Option Str)
    (req : SubscriptionRequest) (s : ServiceState) :
    (∃ ans, ans.status.code ≠ 200 ∧
      subscriptionServerHandler ctx query req s = s.record [.answer req ans]) ∨
    (∃ callbacks, req.method = Gena.methodSubscribe ∧ req.callback.isSome ∧
      req.nt = some Gena.ntEvent ∧ req.sid = none ∧ subscriptionServerHandler ctx query req s =
        sendInitialState query (generateSid ctx s.nextUuid) (s.answered ctx req callbacks)) ∨
    (∃ sid d, Addressed ctx sid req ∧ req.method = Gena.methodSubscribe ∧
      s.subscriptions.lookup sid = some d ∧
      subscriptionServerHandler ctx query req s = resubscribe ctx req sid s) ∨
    ∃ sid d, Addressed ctx sid req ∧ req.method = Gena.methodUnsubscribe ∧
      s.subscriptions.lookup sid = some d ∧
      subscriptionServerHandler ctx query req s = unsubscribe req sid s := by
  have hreply : ∀ status : Status, status.code ≠ 200 → ∃ ans : Answer, ans.status.code ≠ 200 ∧
      s.reply req status = s.record [.answer req ans] := fun status h => ⟨.plain status, h, rfl⟩
  obtain ⟨status, hstatus, -, heq⟩ | ⟨callback, hmethod, hcallback, hnt, hsid, heq⟩ |
    ⟨sid, ha, hmethod, heq⟩ | ⟨sid, ha, hmethod, heq⟩ := handler_dispatch ctx query req s
  · rw [heq]
    exact .inl (hreply status hstatus)
  · obtain he | ⟨callbacks, -, -, he⟩ := subscribe_cases ctx query req callback s
    · rw [heq, he]
      exact .inl (hreply _ (by decide))
    · exact .inr (.inl ⟨callbacks, hmethod, hcallback ▸ rfl, hnt, hsid, heq.trans he⟩)
  · cases hd : s.subscriptions.lookup sid with
    | none =>
      rw [heq, resubscribe_none hd]
      exact .inl (hreply _ (by decide))
    | some d => exact .inr (.inr (.inl ⟨sid, d, ha, hmethod, hd, heq⟩))
  · cases hd : s.subscriptions.lookup sid with
    | none =>
      rw [heq, unsubscribe_none hd]
      exact .inl (hreply _ (by decide))
    | some d => exact .inr (.inr (.inr ⟨sid, d, ha, hmethod, hd, heq⟩))

/-! ## Runs -/

theorem timed_handler (h : Timed s) (hw : WellFormed ctx s)
    (query : ServiceState → Str → Option Str) (req : SubscriptionRequest) :
    Timed (subscriptionServerHandler ctx query req s) := by
  obtain ⟨ans, -, heq⟩ | ⟨callbacks, -, -, -, -, heq⟩ | ⟨sid, d, -, -, hd, heq⟩ |
    ⟨sid, d, -, -, hd, heq⟩ := handler_spec ctx query req s
  · rw [heq]
    exact h.same ⟨rfl, rfl, rfl, fun _ => rfl⟩
  · rw [heq]
    exact (timed_answered h hw req callbacks).same (sameTimers_sendInitialState ..)
  · rw [heq]
    exact timed_resubscribe h hd req
  · rw [heq]
    exact timed_unsubscribe h req sid

theorem timed_introspectedStep (h : Timed s) (query : ServiceState → Str → Option Str)
    (sid₀ : Str) : Timed (introspectedStep query s sid₀) := by
  have hsend := h.same (sameTimers_sendInitialState query sid₀ s)
  obtain heq | ⟨d, -, -, heq⟩ := introspectedStep_cases query sid₀ s
  · rw [heq]
    exact hsend
  · rw [heq]
    exact timed_remove hsend sid₀

theorem timed_introspectedLoop (query : ServiceState → Str → Option Str) (keys : List Str)
    (h : Timed s) : Timed (keys.foldl (introspectedStep query) s) := by
  induction keys generalizing s with
  | nil => exact h
  | cons key keys ih => exact ih (timed_introspectedStep h query key)

theorem sameTimers_addStateVariables (result : Except String (List StateVariableInfo))
    (s : ServiceState) : SameTimers s (addStateVariables result s) := by
  cases result <;> exact ⟨rfl, rfl, rfl, fun _ => rfl⟩

/-- What the queue of notifications does to a subscription is to send it events. -/
theorem sameTimers_update_event {e : Event} (hu : isUpdate e = true) (he : step ctx s e = some t) :
    SameTimers s t := by
  cases e with
  | notifyValue name value =>
    obtain rfl := Option.some.inj he
    unfold notifyValue
    dsimp only
    split
    · exact ⟨rfl, rfl, rfl, fun _ => rfl⟩
    · exact (show SameTimers s { s with notifyQueue := s.notifyQueue ++ [⟨name, value⟩] } from
        ⟨rfl, rfl, rfl, fun _ => rfl⟩).trans (sameTimers_flush _)
  | freezeNotify =>
    obtain rfl := Option.some.inj he
    exact ⟨rfl, rfl, rfl, fun _ => rfl⟩
  | thawNotify =>
    obtain rfl := Option.some.inj he
    unfold thawNotify
    dsimp only
    split
    · exact ⟨rfl, rfl, rfl, fun _ => rfl⟩
    · exact (show SameTimers s { s with notifyFrozen := false } from
        ⟨rfl, rfl, rfl, fun _ => rfl⟩).trans (sameTimers_flush _)
  | _ => cases hu

/-- A response removes its subscription, or leaves the timers alone. -/
theorem response_timers {sid₀ : Str} {i : Nat} {outcome : NotifyOutcome}
    (he : receiveOutcome sid₀ i outcome s = some t) :
    SameTimers s t ∨ ∃ es, t = removeSubscription sid₀ (s.record es) := by
  obtain ⟨d, msg, hd, -, ⟨d', hd', rfl⟩ | ⟨-, rfl⟩⟩ := receiveOutcome_cases he
  · refine .inl ⟨rfl, rfl, rfl, fun sid => ?_⟩
    by_cases heq : sid = sid₀
    · subst heq
      simp only [Table.lookup_modify_self, hd, Option.map_some]
      exact congrArg some (notifyGotResponse_keeps hd').1
    · simp only [Table.lookup_modify_ne heq]
  · exact .inr ⟨_, rfl⟩

theorem timed_step {e : Event} (h : Timed s) (hw : WellFormed ctx s)
    (he : step ctx s e = some t) : Timed t := by
  cases e with
  | request req query =>
    simp only [step, Option.ite_none_right_eq_some, Option.some.injEq] at he
    rw [← he.2]
    exact timed_handler h hw query req
  | notifyValue name value => exact h.same (sameTimers_update_event rfl he)
  | freezeNotify => exact h.same (sameTimers_update_event rfl he)
  | thawNotify => exact h.same (sameTimers_update_event rfl he)
  | introspected result query =>
    simp only [step, Option.ite_none_right_eq_some, Option.some.injEq] at he
    rw [← he.2]
    apply timed_introspectedLoop
    exact h.same ((show SameTimers s { s with introspecting := false } from
      ⟨rfl, rfl, rfl, fun _ => rfl⟩).trans (sameTimers_addStateVariables result _))
  | response sid i outcome =>
    rcases response_timers he with hsame | ⟨es, rfl⟩
    · exact h.same hsame
    · have hrecord : SameTimers s (s.record es) := ⟨rfl, rfl, rfl, fun _ => rfl⟩
      exact timed_remove (h.same hrecord) sid
  | timeout src =>
    simp only [step, Option.ite_none_right_eq_some, Option.some.injEq] at he
    rw [← he.2, subscriptionTimeout_eq h he.1.1]
    exact timed_remove h src.sid
  | unavailable =>
    obtain rfl := Option.some.inj he
    exact timed_removeAll h
  | dispose =>
    obtain rfl := Option.some.inj he
    exact timed_removeAll (h.same ⟨rfl, rfl, rfl, fun _ => rfl⟩)
  | tick =>
    simp only [step, Option.ite_none_right_eq_some, Option.some.injEq] at he
    obtain ⟨hall, rfl⟩ := he
    refine ⟨h.ids, h.below, h.owned, h.armed, fun src hsrc => ?_⟩
    have hlt := List.all_eq_true.1 hall src hsrc
    exact of_decide_eq_true hlt

theorem timed_init : Timed .init := by
  refine ⟨List.nodup_nil, ?_, ?_, ?_, ?_⟩
  · exact fun src hsrc => absurd hsrc List.not_mem_nil
  · exact fun src hsrc => absurd hsrc List.not_mem_nil
  · intro sid d hd
    cases hd
  · exact fun src hsrc => absurd hsrc List.not_mem_nil

/-- **Subscriptions and timers belong to each other in every state a run reaches.** -/
theorem timed_run {ok : ServiceState → Event → Prop} {es : List Event}
    (h : Run (step ctx) ok .init es s) : Timed s := by
  have hinv := h.inv (fun s => WellFormed ctx s ∧ Timed s)
    (fun s e t hs _ he => ⟨(step_lives hs.1 he []).1, timed_step hs.2 hs.1 he⟩)
    ⟨wellFormed_init, timed_init⟩
  exact hinv.2

end GUPnP.Service
