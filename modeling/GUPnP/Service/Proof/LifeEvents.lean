import GUPnP.Service.Proof.Life

/-!
# What the handlers mean for a subscription

One lemma for each part of a handler: what an answer, the removal of a subscription, an event, the
response to a NOTIFY and the end of the introspection keep of the invariant `WellFormed`, and which
run of the life of the subscription they are.
-/

set_option autoImplicit false

namespace GUPnP.Service

variable {ctx : Context} {sid : Str} {s t u : ServiceState} {ok : History → LifeEvent → Prop}

theorem Issued.mono (h : Issued ctx s sid) (hu : s.nextUuid ≤ t.nextUuid) : Issued ctx t sid := by
  obtain ⟨k, hk, rfl⟩ := h
  exact ⟨k, Nat.lt_of_lt_of_le hk hu, rfl⟩

theorem issued_iff (hu : t.nextUuid = s.nextUuid) : Issued ctx t sid ↔ Issued ctx s sid := by
  unfold Issued
  rw [hu]

/-- The invariant survives a change whose new subscriptions and messages satisfy it. -/
theorem WellFormed.next (h : WellFormed ctx s) (hb : s.nextBytes ≤ t.nextBytes)
    (hu : s.nextUuid ≤ t.nextUuid)
    (hl : ∀ sid d, t.subscriptions.lookup sid = some d →
      s.subscriptions.lookup sid = some d ∨ (EntryOk sid t.nextBytes d ∧ Issued ctx t sid))
    (hlog : ∀ msg, Effect.notify msg ∈ t.log →
      Effect.notify msg ∈ s.log ∨ msg.propertySet.id < t.nextBytes) : WellFormed ctx t := by
  refine ⟨fun {sid d} hd => ?_, fun {sid d} hd => ?_, fun {msg} hm => ?_⟩
  · rcases hl sid d hd with hs | ht
    · exact (h.entry hs).mono hb
    · exact ht.1
  · rcases hl sid d hd with hs | ht
    · exact (h.issued hs).mono hu
    · exact ht.2
  · rcases hlog msg hm with hs | ht
    · exact Nat.lt_of_lt_of_le (h.log hs) hb
    · exact ht

theorem WellFormed.fresh (h : WellFormed ctx s) (sid : Str) :
    s.nextBytes ∉ eventIds (about sid s.log) := by
  intro hmem
  obtain ⟨msg, hm, hid⟩ := List.mem_map.1 hmem
  have hlog := (List.mem_filter.1 (mem_notifies.1 hm)).1
  have hlt := h.log hlog
  rw [hid] at hlt
  exact Nat.lt_irrefl _ hlt

/-! ## Answers -/

theorem history_record (es : List Effect) :
    (s.record es).history ctx sid = ⟨s.life ctx sid, about sid s.log ++ about sid es⟩ := by
  rw [← about_append]
  rfl

theorem about_answer {req : SubscriptionRequest} {ans : Answer} (h : req.sid = some sid) :
    about sid [.answer req ans] = [.answer req ans] := by
  simp [about, Effect.sid?, h]

theorem about_answer_ne {req : SubscriptionRequest} {ans : Answer}
    (h : req.sid.or ans.sid ≠ some sid) : about sid [.answer req ans] = [] := by
  simp [about, Effect.sid?, h]

/-- An answer without headers is about no other subscription than its request. -/
theorem about_plain_ne {req : SubscriptionRequest} (h : req.sid ≠ some sid) (status : Status) :
    about sid [.answer req (.plain status)] = [] := by
  refine about_answer_ne ?_
  rwa [Answer.plain, Option.or_none]

theorem wellFormed_reply (h : WellFormed ctx s) (req : SubscriptionRequest) (status : Status) :
    WellFormed ctx (s.reply req status) := by
  refine h.next (Nat.le_refl _) (Nat.le_refl _) (fun _ _ hd => .inl hd) fun msg hm => ?_
  rcases List.mem_append.1 hm with hm | hm
  · exact .inl hm
  · cases List.mem_singleton.1 hm

/-- A request that is refused leaves nothing but its answer. -/
theorem lives_reply {req : SubscriptionRequest} {query : ServiceState → Str → Option Str}
    {status : Status} (hstatus : status ≠ .ok)
    (hunknown : Addressed ctx sid req →
      s.subscriptions.lookup sid = none ∧ status = noPrevious) :
    Lives ctx sid (Caused ctx sid s (.request req query)) s (s.reply req status) := by
  by_cases hr : req.sid = some sid
  · refine .single (.reject (.plain status) hr hstatus hunknown) ?_
    rw [ServiceState.reply, history_record, about_answer hr]
    rfl
  · refine .of_eq ?_
    rw [ServiceState.reply, history_record, about_plain_ne hr, List.append_nil]
    rfl

/-! ## Removal -/

theorem lookup_removeSubscription (sid₀ : Str) (s : ServiceState) (sid : Str) :
    (removeSubscription sid₀ s).subscriptions.lookup sid =
      if sid = sid₀ then none else s.subscriptions.lookup sid := by
  unfold removeSubscription
  split
  · rename_i h
    split
    · rename_i heq
      rw [heq, h]
    · rfl
  · by_cases heq : sid = sid₀
    · rw [if_pos heq, heq, AList.lookup_erase]
    · rw [if_neg heq, AList.lookup_erase_ne heq]

@[simp] theorem removeSubscription_log (sid₀ : Str) (s : ServiceState) :
    (removeSubscription sid₀ s).log = s.log := by
  unfold removeSubscription
  split <;> rfl

@[simp] theorem removeSubscription_nextUuid (sid₀ : Str) (s : ServiceState) :
    (removeSubscription sid₀ s).nextUuid = s.nextUuid := by
  unfold removeSubscription
  split <;> rfl

@[simp] theorem removeSubscription_nextBytes (sid₀ : Str) (s : ServiceState) :
    (removeSubscription sid₀ s).nextBytes = s.nextBytes := by
  unfold removeSubscription
  split <;> rfl

theorem wellFormed_remove (h : WellFormed ctx s) (sid₀ : Str) :
    WellFormed ctx (removeSubscription sid₀ s) := by
  refine h.next (by simp) (by simp) (fun sid d hd => .inl ?_) (fun msg hm => .inl (by simpa using hm))
  rw [lookup_removeSubscription] at hd
  split at hd
  · cases hd
  · exact hd

/-- The way to a state in which the subscription is gone and all else about it is the same. -/
theorem lives_gone (h : WellFormed ctx s) (hok : ∀ h, ok h .remove)
    (ht : t.subscriptions.lookup sid = none) (hu : t.nextUuid = s.nextUuid)
    (hlog : about sid t.log = about sid s.log) : Lives ctx sid ok s t := by
  cases hs : s.subscriptions.lookup sid with
  | none => exact .of_eq (history_eq (ht.trans hs.symm) (issued_iff hu) hlog)
  | some d =>
    refine .single (hok _) ?_
    rw [history_alive hs, history_dead ht ((issued_iff hu).2 (h.issued hs)), hlog]
    rfl

theorem lives_remove (h : WellFormed ctx s) (hok : ∀ h, ok h .remove) (sid₀ : Str) :
    Lives ctx sid ok s (removeSubscription sid₀ s) := by
  by_cases heq : sid = sid₀
  · refine lives_gone h hok ?_ (by simp) (by simp)
    rw [lookup_removeSubscription, if_pos heq]
  · refine .of_eq (history_eq ?_ (issued_iff (by simp)) (by simp))
    rw [lookup_removeSubscription, if_neg heq]

/-! ## Events -/

theorem lookup_update (sid₀ : Str) (f : SubscriptionData → SubscriptionData × List Effect)
    (s : ServiceState) (sid : Str) : (s.update sid₀ f).subscriptions.lookup sid =
      if sid = sid₀ then (s.subscriptions.lookup sid).map fun d => (f d).1
      else s.subscriptions.lookup sid := by
  unfold ServiceState.update
  split
  · rename_i h
    split
    · rename_i heq
      rw [heq, h, Option.map_none]
    · rfl
  · rename_i d h
    by_cases heq : sid = sid₀
    · subst heq
      simp [Table.lookup_modify_self, h]
    · simp [heq, Table.lookup_modify_ne heq]

theorem update_log (sid₀ : Str) (f : SubscriptionData → SubscriptionData × List Effect)
    (s : ServiceState) : (s.update sid₀ f).log =
      s.log ++ (s.subscriptions.lookup sid₀).toList.flatMap fun d => (f d).2 := by
  unfold ServiceState.update
  cases s.subscriptions.lookup sid₀ <;> simp

@[simp] theorem update_nextUuid (sid₀ : Str)
    (f : SubscriptionData → SubscriptionData × List Effect) (s : ServiceState) :
    (s.update sid₀ f).nextUuid = s.nextUuid := by
  unfold ServiceState.update
  split <;> rfl

@[simp] theorem update_nextBytes (sid₀ : Str)
    (f : SubscriptionData → SubscriptionData × List Effect) (s : ServiceState) :
    (s.update sid₀ f).nextBytes = s.nextBytes := by
  unfold ServiceState.update
  split <;> rfl

/-- The effects of an event message are about the subscription it is sent to. -/
theorem about_notifySubscriber {n : Nat} {d : SubscriptionData} (h : EntryOk sid n d)
    (propertySet : PropertySet) :
    about sid (notifySubscriber propertySet d).2 = (notifySubscriber propertySet d).2 := by
  refine about_eq_self fun e he => ?_
  rw [mem_notifySubscriber he]
  exact congrArg some h.filed

theorem about_notifySubscriber_ne {sid₀ : Str} {n : Nat} {d : SubscriptionData}
    (h : EntryOk sid₀ n d) (hne : sid ≠ sid₀) (propertySet : PropertySet) :
    about sid (notifySubscriber propertySet d).2 = [] := by
  refine about_eq_nil fun e he hs => ?_
  rw [mem_notifySubscriber he] at hs
  exact hne (Option.some.inj hs ▸ h.filed)

/-- The initial event message of a subscription. -/
def ServiceState.initialState (query : ServiceState → Str → Option Str) (s : ServiceState) :
    PropertySet :=
  ⟨s.nextBytes, s.stateVariables.filterMap fun name =>
    (query s name).map fun value => ⟨name, value⟩⟩

theorem sendInitialState_eq (query : ServiceState → Str → Option Str) (sid₀ : Str)
    (s : ServiceState) : sendInitialState query sid₀ s =
      ServiceState.update sid₀ (notifySubscriber (s.initialState query))
        { s with nextBytes := s.nextBytes + 1 } := rfl

theorem wellFormed_sendInitialState (h : WellFormed ctx s)
    (query : ServiceState → Str → Option Str) (sid₀ : Str) :
    WellFormed ctx (sendInitialState query sid₀ s) := by
  rw [sendInitialState_eq]
  refine h.next (by simp) (by simp) (fun sid d hd => ?_) (fun msg hm => ?_)
  · rw [lookup_update] at hd
    split at hd
    · obtain ⟨d₀, hd₀, rfl⟩ := Option.map_eq_some_iff.1 hd
      refine .inr ⟨?_, (h.issued hd₀).mono (by simp)⟩
      exact EntryOk.notify ((h.entry hd₀).mono (by simp)) (by simp [ServiceState.initialState])
    · exact .inl hd
  · rw [update_log] at hm
    rcases List.mem_append.1 hm with hm | hm
    · exact .inl hm
    · obtain ⟨d, -, hd⟩ := List.mem_flatMap.1 hm
      rw [Effect.notify.inj (mem_notifySubscriber hd)]
      exact .inr (by simp [SubscriptionData.message, ServiceState.initialState])

/-- The initial state is sent to one subscription. -/
theorem about_sendInitialState (h : WellFormed ctx s) (query : ServiceState → Str → Option Str)
    {sid₀ : Str} {d : SubscriptionData} (hd : s.subscriptions.lookup sid₀ = some d) (sid : Str) :
    about sid (sendInitialState query sid₀ s).log = about sid s.log ++
      if sid = sid₀ then (notifySubscriber (s.initialState query) d).2 else [] := by
  rw [sendInitialState_eq, update_log, about_append]
  simp only [hd, Option.toList_some, List.flatMap_cons, List.flatMap_nil, List.append_nil]
  split
  · rename_i heq
    subst heq
    rw [about_notifySubscriber (h.entry hd)]
  · rename_i hne
    rw [about_notifySubscriber_ne (h.entry hd) hne]

theorem lives_sendInitialState (h : WellFormed ctx s) (query : ServiceState → Str → Option Str)
    (sid₀ : Str)
    (hok : ∀ d h propertySet, s.subscriptions.lookup sid = some d → sid = sid₀ →
      h.life = .alive d → propertySet.id ∉ eventIds h.log → ok h (.event propertySet)) :
    Lives ctx sid ok s (sendInitialState query sid₀ s) := by
  have hlookup : (sendInitialState query sid₀ s).subscriptions.lookup sid =
      if sid = sid₀ then
        (s.subscriptions.lookup sid).map fun d => (notifySubscriber (s.initialState query) d).1
      else s.subscriptions.lookup sid := by rw [sendInitialState_eq, lookup_update]
  have huuid : (sendInitialState query sid₀ s).nextUuid = s.nextUuid := by
    rw [sendInitialState_eq, update_nextUuid]
  cases hs : s.subscriptions.lookup sid₀ with
  | none =>
    refine .of_eq (history_eq ?_ (issued_iff huuid) ?_)
    · rw [hlookup]
      split
      · rename_i heq
        subst heq
        rw [hs, Option.map_none]
      · rfl
    · rw [sendInitialState_eq, update_log]
      simp [hs]
  | some d =>
    have hlog := about_sendInitialState h query hs sid
    by_cases heq : sid = sid₀
    · subst heq
      rw [if_pos rfl] at hlog hlookup
      rw [hs, Option.map_some] at hlookup
      refine .single (l := .event (s.initialState query))
        (hok d _ _ hs rfl (by rw [history_alive hs]) (h.fresh sid)) ?_
      rw [history_alive hs, history_alive hlookup, hlog]
      rfl
    · rw [if_neg heq] at hlog hlookup
      exact .of_eq (history_eq hlookup (issued_iff huuid) (hlog.trans (List.append_nil _)))

/-- The event message of a flush. -/
def ServiceState.queued (s : ServiceState) : PropertySet := ⟨s.nextBytes, s.notifyQueue⟩

/-- The service after `flushNotifications`. -/
theorem flushNotifications_eq (s : ServiceState) : flushNotifications s =
    { s with
      nextBytes := s.nextBytes + 1
      notifyQueue := []
      subscriptions := s.subscriptions.mapValues fun _ d => (notifySubscriber s.queued d).1
      log := s.log ++ s.subscriptions.entries.flatMap fun e => (notifySubscriber s.queued e.2).2 } :=
  rfl

theorem wellFormed_flush (h : WellFormed ctx s) : WellFormed ctx (flushNotifications s) := by
  rw [flushNotifications_eq]
  refine h.next (by simp) (by simp) (fun sid d hd => ?_) (fun msg hm => ?_)
  · rw [Table.lookup_mapValues] at hd
    obtain ⟨d₀, hd₀, rfl⟩ := Option.map_eq_some_iff.1 hd
    refine .inr ⟨?_, (h.issued hd₀).mono (Nat.le_refl _)⟩
    exact EntryOk.notify ((h.entry hd₀).mono (by simp)) (Nat.lt_succ_self _)
  · rcases List.mem_append.1 hm with hm | hm
    · exact .inl hm
    · obtain ⟨e, -, hd⟩ := List.mem_flatMap.1 hm
      rw [Effect.notify.inj (mem_notifySubscriber hd)]
      exact .inr (Nat.lt_succ_self _)

/-- A flush sends each subscription one event message. -/
theorem about_flush (h : WellFormed ctx s) (sid : Str) :
    about sid (flushNotifications s).log = about sid s.log ++
      (s.subscriptions.lookup sid).toList.flatMap fun d => (notifySubscriber s.queued d).2 := by
  rw [flushNotifications_eq]
  refine (about_append sid _ _).trans (congrArg (about sid s.log ++ ·) ?_)
  refine Table.flatMap_filter s.subscriptions sid (fun d => (notifySubscriber s.queued d).2)
    (fun e => e.sid? = some sid) fun k d hd e hm => ?_
  rw [mem_notifySubscriber hm]
  simp [Effect.sid?, SubscriptionData.message, (h.entry hd).filed]

theorem lives_flush (h : WellFormed ctx s)
    (hok : ∀ d h propertySet, s.subscriptions.lookup sid = some d → h.life = .alive d →
      propertySet.id ∉ eventIds h.log → ok h (.event propertySet)) :
    Lives ctx sid ok s (flushNotifications s) := by
  have hlog := about_flush h sid
  have hlookup : (flushNotifications s).subscriptions.lookup sid =
      (s.subscriptions.lookup sid).map fun d => (notifySubscriber s.queued d).1 :=
    Table.lookup_mapValues _ _ _
  cases hs : s.subscriptions.lookup sid with
  | none =>
    rw [hs] at hlog hlookup
    refine .of_eq (history_eq ?_ (issued_iff rfl) ?_)
    · rw [hlookup, hs, Option.map_none]
    · simpa using hlog
  | some d =>
    rw [hs] at hlog hlookup
    refine .single (l := .event s.queued) (hok d _ _ hs (by rw [history_alive hs]) (h.fresh sid)) ?_
    rw [history_alive hs, history_alive hlookup, hlog]
    simp [lifeStep]

/-! ## Responses -/

theorem receiveOutcome_cases {sid₀ : Str} {i : Nat} {outcome : NotifyOutcome}
    (he : receiveOutcome sid₀ i outcome s = some t) : ∃ d msg,
      s.subscriptions.lookup sid₀ = some d ∧ d.pendingMessages[i]? = some msg ∧
      ((∃ d', (notifyGotResponse i msg outcome d).1 = some d' ∧
          t = { s with
            subscriptions := s.subscriptions.modify sid₀ fun _ => d'
            log := s.log ++ .response msg outcome :: (notifyGotResponse i msg outcome d).2 }) ∨
        ((notifyGotResponse i msg outcome d).1 = none ∧
          t = removeSubscription sid₀
            (s.record (.response msg outcome :: (notifyGotResponse i msg outcome d).2)))) := by
  obtain ⟨d, hd, he⟩ := Option.bind_eq_some_iff.1 he
  obtain ⟨msg, hm, he⟩ := Option.map_eq_some_iff.1 he
  refine ⟨d, msg, hd, hm, ?_⟩
  split at he
  · rename_i d' es hr
    rw [hr]
    exact .inl ⟨d', rfl, he.symm⟩
  · rename_i es hr
    rw [hr]
    exact .inr ⟨rfl, he.symm⟩

/-- What is logged for a response is about its subscription. -/
theorem about_response {i : Nat} {n : Nat} {d : SubscriptionData} {msg : NotifySubscriberData}
    {sid₀ : Str} (h : EntryOk sid₀ n d) (hm : d.pendingMessages[i]? = some msg)
    (outcome : NotifyOutcome) (sid : Str) :
    about sid (.response msg outcome :: (notifyGotResponse i msg outcome d).2) =
      if sid = sid₀ then .response msg outcome :: (notifyGotResponse i msg outcome d).2 else [] := by
  have hall : ∀ e ∈ Effect.response msg outcome :: (notifyGotResponse i msg outcome d).2,
      e.sid? = some sid₀ := by
    intro e he
    rcases List.mem_cons.1 he with rfl | he
    · exact congrArg some (h.pendingSid msg (List.mem_of_getElem? hm))
    · exact (mem_notifyGotResponse h hm he).1
  split
  · rename_i heq
    subst heq
    exact about_eq_self hall
  · rename_i hne
    refine about_eq_nil fun e he hs => hne ?_
    rw [hall e he] at hs
    exact (Option.some.inj hs).symm

theorem wellFormed_response (h : WellFormed ctx s) {sid₀ : Str} {i : Nat} {outcome : NotifyOutcome}
    (he : receiveOutcome sid₀ i outcome s = some t) : WellFormed ctx t := by
  obtain ⟨d, msg, hd, hm, ⟨d', hr, rfl⟩ | ⟨-, rfl⟩⟩ := receiveOutcome_cases he
  · refine h.next (Nat.le_refl _) (Nat.le_refl _) (fun sid x hx => ?_) (fun m hmem => ?_)
    · rw [Table.lookup_modify] at hx
      obtain ⟨x₀, hx₀, hxe⟩ := Option.map_eq_some_iff.1 hx
      split at hxe
      · rename_i heq
        subst heq
        subst hxe
        exact .inr ⟨(h.entry hd).response hm hr, h.issued hd⟩
      · rw [← hxe]
        exact .inl hx₀
    · rcases List.mem_append.1 hmem with hmem | hmem
      · exact .inl hmem
      · rcases List.mem_cons.1 hmem with hmem | hmem
        · cases hmem
        · exact .inr ((mem_notifyGotResponse (h.entry hd) hm hmem).2 m rfl)
  · refine wellFormed_remove ?_ sid₀
    refine h.next (Nat.le_refl _) (Nat.le_refl _) (fun _ _ hx => .inl hx) fun m hmem => ?_
    rcases List.mem_append.1 hmem with hmem | hmem
    · exact .inl hmem
    · rcases List.mem_cons.1 hmem with hmem | hmem
      · cases hmem
      · exact .inr ((mem_notifyGotResponse (h.entry hd) hm hmem).2 m rfl)

theorem lives_response (h : WellFormed ctx s) {sid₀ : Str} {i : Nat} {outcome : NotifyOutcome}
    (he : receiveOutcome sid₀ i outcome s = some t) :
    Lives ctx sid (Caused ctx sid s (.response sid₀ i outcome)) s t := by
  obtain ⟨d, msg, hd, hm, ht⟩ := receiveOutcome_cases he
  have habout := about_response (h.entry hd) hm outcome sid
  by_cases heq : sid = sid₀
  · subst heq
    rw [if_pos rfl] at habout
    refine .single .response ?_
    obtain ⟨d', hr, rfl⟩ | ⟨hr, rfl⟩ := ht
    · rw [history_alive hd, history_alive (d := d')]
      · simp [lifeStep, hm, hr, Life.ofOption, about_append, habout]
      · rw [Table.lookup_modify_self, hd]
        rfl
    · rw [history_alive hd, history_dead]
      · simp [lifeStep, hm, hr, Life.ofOption, ServiceState.record, about_append, habout]
      · rw [lookup_removeSubscription, if_pos rfl]
      · exact (h.issued hd).mono (by simp [ServiceState.record])
  · rw [if_neg heq] at habout
    refine .of_eq ?_
    obtain ⟨d', hr, rfl⟩ | ⟨hr, rfl⟩ := ht
    · refine history_eq ?_ (issued_iff rfl) ?_
      · rw [Table.lookup_modify_ne heq]
      · rw [about_append, habout, List.append_nil]
    · refine history_eq ?_ (issued_iff (by simp [ServiceState.record])) ?_
      · rw [lookup_removeSubscription, if_neg heq]
        rfl
      · simp [ServiceState.record, about_append, habout]

/-! ## Introspection -/

/-- The loop body sends the initial state; a subscription that can be deleted then is removed. -/
theorem introspectedStep_cases (query : ServiceState → Str → Option Str) (sid₀ : Str)
    (s : ServiceState) :
    introspectedStep query s sid₀ = sendInitialState query sid₀ s ∨
    ∃ d, (sendInitialState query sid₀ s).subscriptions.lookup sid₀ = some d ∧ d.canDelete = true ∧
      introspectedStep query s sid₀ = removeSubscription sid₀ (sendInitialState query sid₀ s) := by
  unfold introspectedStep
  dsimp only
  split
  · exact .inl rfl
  · rename_i d hd
    split
    · rename_i hdelete
      exact .inr ⟨d, hd, hdelete, rfl⟩
    · exact .inl rfl

theorem wellFormed_introspectedStep (h : WellFormed ctx s)
    (query : ServiceState → Str → Option Str) (sid₀ : Str) :
    WellFormed ctx (introspectedStep query s sid₀) := by
  have hw := wellFormed_sendInitialState h query sid₀
  obtain heq | ⟨d, -, -, heq⟩ := introspectedStep_cases query sid₀ s
  · rw [heq]
    exact hw
  · rw [heq]
    exact wellFormed_remove hw sid₀

/-- The loop body leaves the other subscriptions alone. -/
theorem lookup_introspectedStep_ne {sid₀ : Str} (hne : sid ≠ sid₀)
    (query : ServiceState → Str → Option Str) (s : ServiceState) :
    (introspectedStep query s sid₀).subscriptions.lookup sid = s.subscriptions.lookup sid := by
  have hlookup : (sendInitialState query sid₀ s).subscriptions.lookup sid =
      s.subscriptions.lookup sid := by
    rw [sendInitialState_eq, lookup_update, if_neg hne]
  obtain heq | ⟨d, -, -, heq⟩ := introspectedStep_cases query sid₀ s
  · rw [heq, hlookup]
  · rw [heq, lookup_removeSubscription, if_neg hne, hlookup]

theorem lives_introspectedStep (h : WellFormed ctx s) (query : ServiceState → Str → Option Str)
    (sid₀ : Str) (hremove : ∀ h, ok h .remove)
    (hok : ∀ d h propertySet, s.subscriptions.lookup sid = some d → sid = sid₀ →
      h.life = .alive d → propertySet.id ∉ eventIds h.log → ok h (.event propertySet)) :
    Lives ctx sid ok s (introspectedStep query s sid₀) := by
  have hw := wellFormed_sendInitialState h query sid₀
  have hl := lives_sendInitialState h query sid₀ hok
  obtain heq | ⟨d, -, -, heq⟩ := introspectedStep_cases query sid₀ s
  · rw [heq]
    exact hl
  · rw [heq]
    exact hl.trans (lives_remove hw hremove sid₀)

/-- The loop over the subscriptions visits each of them once. -/
theorem lives_introspected (query : ServiceState → Str → Option Str) (keys : List Str)
    (hnodup : keys.Nodup) (hremove : ∀ h, ok h .remove) : ∀ s, WellFormed ctx s →
    (∀ d h propertySet, sid ∈ keys → s.subscriptions.lookup sid = some d →
      h.life = .alive d → propertySet.id ∉ eventIds h.log → ok h (.event propertySet)) →
    WellFormed ctx (keys.foldl (introspectedStep query) s) ∧
      Lives ctx sid ok s (keys.foldl (introspectedStep query) s) := by
  induction keys with
  | nil => exact fun s h _ => ⟨h, .of_eq rfl⟩
  | cons sid₀ keys ih =>
    intro s h hok
    obtain ⟨hnot, hnodup⟩ := List.nodup_cons.1 hnodup
    have hw := wellFormed_introspectedStep h query sid₀
    have hstep : Lives ctx sid ok s (introspectedStep query s sid₀) :=
      lives_introspectedStep h query sid₀ hremove fun d h' ps hd heq =>
        hok d h' ps (heq ▸ List.mem_cons_self) hd
    obtain ⟨hw', hl⟩ := ih hnodup _ hw fun d h' ps hmem hd => by
      have hne : sid ≠ sid₀ := fun heq => hnot (heq ▸ hmem)
      rw [lookup_introspectedStep_ne hne] at hd
      exact hok d h' ps (List.mem_cons_of_mem _ hmem) hd
    exact ⟨hw', hstep.trans hl⟩

end GUPnP.Service
