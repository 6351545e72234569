import GUPnP.Service.Proof.Atomic

/-!
# Subscriptions live as long as promised

The timer of a subscription is due `subscriptionTimeoutSeconds` after the last SUBSCRIBE that was
answered with its SID, and before that time a subscription is removed only for the reasons that
`EndsEarly` names (`lifetimes`).
-/

set_option autoImplicit false

namespace GUPnP.Service

/-! ## The statement -/

/-- In the step from `s` to `t` a SUBSCRIBE was answered with the SID. -/
def granted (ctx : Context) (sid : Str) (s t : ServiceState) : Event → Bool
  | .request req _ => decide (req.method = Gena.methodSubscribe ∧
      (t.log.drop s.log.length).head? = some (.answer req (ctx.subscriptionAnswer sid)))
  | _ => false

/-- The state after an event and the time of the last SUBSCRIBE that was answered with the SID. -/
def grantStep (ctx : Context) (sid : Str) (at_ : ServiceState × Option Nat) (e : Event) :
    ServiceState × Option Nat :=
  match step ctx at_.1 e with
  | none => at_
  | some t => (t, if granted ctx sid at_.1 t e then some at_.1.clock else at_.2)

/-- When, in the run of these events, the last SUBSCRIBE was answered with the SID. -/
def lastGrant (ctx : Context) (sid : Str) (es : List Event) : Option Nat :=
  (es.foldl (grantStep ctx sid) (.init, none)).2

/-- What may end a subscription before its time: an UNSUBSCRIBE for it, a 412 in answer to a NOTIFY,
the root device or the service going away, and, where an earlier UNSUBSCRIBE only marked it, the end of
the introspection. -/
def EndsEarly (sid : Str) (s t : ServiceState) : Event → Prop
  | .request req _ => req.method = Gena.methodUnsubscribe ∧ req.sid = some sid ∧
      t.log = s.log ++ [.answer req (.plain .ok)]
  | .response sid' _ (.done _ status _) => sid' = sid ∧ status = 412
  | .introspected _ _ => ∃ req, req.method = Gena.methodUnsubscribe ∧ req.sid = some sid ∧
      Effect.answer req (.plain .ok) ∈ s.log
  | .unavailable => True
  | .dispose => True
  | _ => False

/-- A subscription has one timer, due 300 seconds after the last grant, and is there no longer. -/
structure OnTime (ctx : Context) (sid : Str) (es : List Event) (s : ServiceState) : Prop where
  timer : ∃ src ∈ s.sources, src.sid = sid ∧ (∀ src' ∈ s.sources, src'.sid = sid → src' = src) ∧
    ∃ time, lastGrant ctx sid es = some time ∧ src.due = time + subscriptionTimeoutSeconds
  expiry : ∃ due, s.expiry sid = some due ∧ s.clock ≤ due

variable {ctx : Context} {sid : Str} {s t : ServiceState} {src : Source} {e : Event}
  {ok : ServiceState → Event → Prop} {es : List Event}

/-! ## When a subscription was granted -/

theorem grantStep_some {p : ServiceState × Option Nat} (he : step ctx p.1 e = some t) :
    grantStep ctx sid p e = (t, if granted ctx sid p.1 t e then some p.1.clock else p.2) := by
  unfold grantStep
  rw [he]

theorem grantStep_run (sid : Str) (h : Run (step ctx) ok .init es s) :
    (es.foldl (grantStep ctx sid) (.init, none)).1 = s := by
  refine h.history (fun es s => (es.foldl (grantStep ctx sid) (.init, none)).1 = s)
    (fun es s e t hs _ he => ?_) rfl
  rw [List.foldl_append]
  rw [← hs] at he
  exact congrArg Prod.fst (grantStep_some he)

theorem lastGrant_snoc (h : Run (step ctx) ok .init es s) (he : step ctx s e = some t) :
    lastGrant ctx sid (es ++ [e]) =
      if granted ctx sid s t e then some s.clock else lastGrant ctx sid es := by
  have hs := grantStep_run sid h
  unfold lastGrant
  rw [List.foldl_append]
  rw [← hs] at he ⊢
  exact congrArg Prod.snd (grantStep_some he)

theorem granted_iff {query : ServiceState → Str → Option Str} {req : SubscriptionRequest}
    {ans : Answer} {tail : List Effect} (hlog : t.log = s.log ++ .answer req ans :: tail) :
    granted ctx sid s t (.request req query) = true ↔
      req.method = Gena.methodSubscribe ∧ ans = ctx.subscriptionAnswer sid := by
  unfold granted
  rw [decide_eq_true_eq, hlog, head_drop_append, List.head?_cons, Option.some.injEq,
    Effect.answer.injEq]
  simp only [true_and]

theorem subscriptionAnswer_inj {sid' : Str}
    (h : ctx.subscriptionAnswer sid' = ctx.subscriptionAnswer sid) : sid' = sid :=
  Option.some.inj (congrArg Answer.sid h)

/-- A timer after a grant is one of another subscription, or the new timer of the granted one. -/
theorem timers_granted {query : ServiceState → Str → Option Str} {req : SubscriptionRequest}
    {sid₀ : Str} {tail : List Effect} (hmethod : req.method = Gena.methodSubscribe)
    (hlog : t.log = s.log ++ .answer req (ctx.subscriptionAnswer sid₀) :: tail)
    (hcases : (src ∈ s.sources ∧ src.sid ≠ sid₀) ∨
      src = ⟨s.nextSource, sid₀, s.clock + subscriptionTimeoutSeconds⟩) :
    (granted ctx src.sid s t (.request req query) = true ∧
      src.due = s.clock + subscriptionTimeoutSeconds) ∨
    (granted ctx src.sid s t (.request req query) = false ∧ src ∈ s.sources) := by
  rcases hcases with ⟨hmem, hne⟩ | rfl
  · refine .inr ⟨?_, hmem⟩
    rw [← Bool.not_eq_true, granted_iff hlog]
    exact fun hgrant => hne (subscriptionAnswer_inj hgrant.2).symm
  · exact .inl ⟨(granted_iff hlog).2 ⟨hmethod, rfl⟩, rfl⟩

/-- A timer after a request is one from before, or the new timer of the subscription it grants. -/
theorem timers_request (h : Timed s) (hw : WellFormed ctx s)
    (query : ServiceState → Str → Option Str) (req : SubscriptionRequest)
    (ht : subscriptionServerHandler ctx query req s = t) (hsrc : src ∈ t.sources) :
    (granted ctx src.sid s t (.request req query) = true ∧
      src.due = s.clock + subscriptionTimeoutSeconds) ∨
    (granted ctx src.sid s t (.request req query) = false ∧ src ∈ s.sources) := by
  obtain ⟨ans, hstatus, heq⟩ | ⟨callbacks, hmethod, hcallback, hnt, hsid, heq⟩ |
    ⟨sid, d, haddressed, hmethod, hd, heq⟩ | ⟨sid, d, haddressed, hmethod, hd, heq⟩ :=
      handler_spec ctx query req s
  · rw [heq] at ht
    subst ht
    refine .inr ⟨?_, hsrc⟩
    rw [← Bool.not_eq_true, granted_iff rfl]
    rintro ⟨-, rfl⟩
    exact hstatus rfl
  · obtain ⟨msg, -, hlog⟩ := (added h hw query callbacks hmethod hcallback hnt hsid).2.log
    rw [heq] at ht
    rw [ht] at hlog
    refine timers_granted hmethod hlog ?_
    have hsources : t.sources = s.sources ++
        [⟨s.nextSource, generateSid ctx s.nextUuid, s.clock + subscriptionTimeoutSeconds⟩] := by
      rw [← ht]
      exact (sameTimers_sendInitialState ..).sources
    rw [hsources, ← h.filter_of_none (lookup_next hw), List.mem_append, List.mem_filter,
      decide_eq_true_eq, List.mem_singleton] at hsrc
    exact hsrc
  · have hlog := (renewed h hd haddressed hmethod).2.log
    rw [heq] at ht
    rw [ht] at hlog
    refine timers_granted hmethod hlog ?_
    have hsources : t.sources = (s.sources.filter fun x => some x.id ≠ d.timeoutSrc) ++
        [⟨s.nextSource, sid, s.clock + subscriptionTimeoutSeconds⟩] := by
      rw [← ht, resubscribe_some hd]
      rfl
    rw [hsources, h.filter_eq hd, List.mem_append, List.mem_filter, decide_eq_true_eq,
      List.mem_singleton] at hsrc
    exact hsrc
  · have hlog := (dropped h hd haddressed hmethod).2.log
    rw [heq] at ht
    rw [ht] at hlog
    refine .inr ⟨?_, ?_⟩
    · rw [← Bool.not_eq_true, granted_iff hlog, hmethod]
      exact fun hgrant => absurd hgrant.1 (by decide)
    · rw [← ht, unsubscribe_some hd] at hsrc
      split at hsrc
      · have hmem : src ∈ (removeSubscription sid s).sources := hsrc
        rw [removeSubscription_sources h] at hmem
        exact (List.mem_filter.1 hmem).1
      · exact hsrc

/-! ## Steps that are no requests -/

/-- From `s` to `t` no timer is new and only subscriptions that were marked are gone. -/
structure Sheds (s t : ServiceState) : Prop where
  sources : t.sources ⊆ s.sources
  lookup : ∀ {sid d}, s.subscriptions.lookup sid = some d →
    (∃ d', t.subscriptions.lookup sid = some d' ∧ d'.toDelete = d.toDelete) ∨ d.toDelete = true

theorem Sheds.trans {u : ServiceState} (h : Sheds s t) (h' : Sheds t u) : Sheds s u where
  sources := fun _ hsrc => h.sources (h'.sources hsrc)
  lookup := by
    intro sid d hd
    rcases h.lookup hd with ⟨d', hd', heq⟩ | hmarked
    · rcases h'.lookup hd' with ⟨d'', hd'', heq'⟩ | hmarked
      · exact .inl ⟨d'', hd'', heq'.trans heq⟩
      · exact .inr (heq.symm.trans hmarked)
    · exact .inr hmarked

theorem sheds_introspectedStep (h : Timed s) (query : ServiceState → Str → Option Str)
    (sid₀ : Str) : Sheds s (introspectedStep query s sid₀) := by
  have hsame := sameTimers_sendInitialState query sid₀ s
  have hlookup : ∀ {sid d}, s.subscriptions.lookup sid = some d →
      ∃ d', (sendInitialState query sid₀ s).subscriptions.lookup sid = some d' ∧
        d'.toDelete = d.toDelete := by
    intro sid d hd
    rw [sendInitialState_eq, lookup_update]
    show ∃ d', (if sid = sid₀ then (s.subscriptions.lookup sid).map _
      else s.subscriptions.lookup sid) = some d' ∧ _
    rw [hd]
    split
    · exact ⟨_, rfl, notifySubscriber_toDelete ..⟩
    · exact ⟨d, rfl, rfl⟩
  obtain hstep | ⟨d₀, hd₀, hdelete, hstep⟩ := introspectedStep_cases query sid₀ s
  · rw [hstep]
    exact ⟨fun _ hsrc => hsame.sources ▸ hsrc, fun hd => .inl (hlookup hd)⟩
  · rw [hstep]
    refine ⟨?_, ?_⟩
    · rw [removeSubscription_sources (h.same hsame), hsame.sources]
      exact fun _ hsrc => (List.mem_filter.1 hsrc).1
    · intro sid d hd
      rw [lookup_removeSubscription]
      split
      · rename_i heq
        obtain ⟨d', hd', hmark⟩ := hlookup hd
        rw [heq, hd₀] at hd'
        obtain rfl := Option.some.inj hd'
        exact .inr (hmark.symm.trans (Bool.and_eq_true_iff.1 hdelete).2)
      · exact .inl (hlookup hd)

theorem sheds_introspectedLoop (query : ServiceState → Str → Option Str) (keys : List Str)
    (h : Timed s) : Sheds s (keys.foldl (introspectedStep query) s) := by
  induction keys generalizing s with
  | nil => exact ⟨fun _ hsrc => hsrc, fun hd => .inl ⟨_, hd, rfl⟩⟩
  | cons key keys ih =>
    exact (sheds_introspectedStep h query key).trans (ih (timed_introspectedStep h query key))

theorem sheds_introspected (h : Timed s) (result : Except String (List StateVariableInfo))
    (query : ServiceState → Str → Option Str) : Sheds s (gotIntrospection result query s) := by
  have hadd : SameTimers s (addStateVariables result { s with introspecting := false }) :=
    (show SameTimers s { s with introspecting := false } from
      ⟨rfl, rfl, rfl, fun _ => rfl⟩).trans (sameTimers_addStateVariables result _)
  have hsubs : (addStateVariables result { s with introspecting := false }).subscriptions =
      s.subscriptions := by cases result <;> rfl
  have hloop := sheds_introspectedLoop query s.subscriptions.keys (h.same hadd)
  refine ⟨?_, ?_⟩
  · unfold gotIntrospection
    dsimp only
    rw [hsubs]
    exact fun _ hsrc => hadd.sources ▸ hloop.sources hsrc
  · intro sid d hd
    rw [← hsubs] at hd
    unfold gotIntrospection
    dsimp only
    rw [hsubs]
    exact hloop.lookup hd

/-- Only a request makes a timer. -/
theorem sources_subset (h : Timed s) (he : step ctx s e = some t)
    (hreq : ∀ req query, e ≠ .request req query) : t.sources ⊆ s.sources := by
  cases e with
  | request req query => exact absurd rfl (hreq req query)
  | notifyValue name value => exact fun _ hsrc => (sameTimers_update_event rfl he).sources ▸ hsrc
  | freezeNotify => exact fun _ hsrc => (sameTimers_update_event rfl he).sources ▸ hsrc
  | thawNotify => exact fun _ hsrc => (sameTimers_update_event rfl he).sources ▸ hsrc
  | introspected result query =>
    simp only [step, Option.ite_none_right_eq_some, Option.some.injEq] at he
    rw [← he.2]
    exact (sheds_introspected h result query).sources
  | response sid i outcome =>
    rcases response_timers he with hsame | ⟨tail, rfl⟩
    · exact fun _ hsrc => hsame.sources ▸ hsrc
    · have hrecord : Timed (s.record tail) := h.same ⟨rfl, rfl, rfl, fun _ => rfl⟩
      rw [removeSubscription_sources hrecord]
      exact fun _ hsrc => (List.mem_filter.1 hsrc).1
  | timeout src =>
    simp only [step, Option.ite_none_right_eq_some, Option.some.injEq] at he
    rw [← he.2, subscriptionTimeout_eq h he.1.1, removeSubscription_sources h]
    exact fun _ hsrc => (List.mem_filter.1 hsrc).1
  | unavailable =>
    obtain rfl := Option.some.inj he
    exact fun _ hsrc => (List.mem_filter.1 hsrc).1
  | dispose =>
    obtain rfl := Option.some.inj he
    exact fun _ hsrc => (List.mem_filter.1 hsrc).1
  | tick =>
    simp only [step, Option.ite_none_right_eq_some, Option.some.injEq] at he
    rw [← he.2]
    exact fun _ hsrc => hsrc

/-! ## Due times -/

/-- A timer after a step is one from before, or the new timer of the subscription it grants. -/
theorem timers_step (h : Timed s) (hw : WellFormed ctx s) (he : step ctx s e = some t)
    (hsrc : src ∈ t.sources) :
    (granted ctx src.sid s t e = true ∧ src.due = s.clock + subscriptionTimeoutSeconds) ∨
    (granted ctx src.sid s t e = false ∧ src ∈ s.sources) := by
  cases e with
  | request req query =>
    simp only [step, Option.ite_none_right_eq_some, Option.some.injEq] at he
    exact timers_request h hw query req he.2 hsrc
  | _ => exact .inr ⟨rfl, sources_subset h he (fun _ _ => by simp) hsrc⟩

/-- Every timer is due as long after the last grant as was promised. -/
theorem due_run (h : Run (step ctx) ok .init es s) (hsrc : src ∈ s.sources) :
    ∃ time, lastGrant ctx src.sid es = some time ∧
      src.due = time + subscriptionTimeoutSeconds := by
  have hinv := h.history (fun es s => Run (step ctx) ok .init es s ∧ ∀ src ∈ s.sources,
      ∃ time, lastGrant ctx src.sid es = some time ∧ src.due = time + subscriptionTimeoutSeconds)
    (fun es s e t hs ho he => ⟨.snoc hs.1 ho he, fun src hsrc => ?_⟩)
    ⟨.nil, fun src hsrc => absurd hsrc List.not_mem_nil⟩
  · exact hinv.2 src hsrc
  · rw [lastGrant_snoc hs.1 he]
    rcases timers_step (timed_run hs.1) (wellFormed_run hs.1) he hsrc with ⟨hgrant, hdue⟩ |
      ⟨hgrant, hold⟩
    · rw [if_pos hgrant]
      exact ⟨s.clock, rfl, hdue⟩
    · rw [hgrant]
      exact hs.2 src hold

/-! ## Marked subscriptions -/

/-- A subscription is marked by an UNSUBSCRIBE that was accepted. -/
def MarkedBy (sid : Str) (life : Life) (log : List Effect) : Prop :=
  ∀ d, life = .alive d → d.toDelete = true →
    ∃ req, req.method = Gena.methodUnsubscribe ∧ req.sid = some sid ∧
      Effect.answer req (.plain .ok) ∈ log

theorem MarkedBy.append {d d' : SubscriptionData} {log : List Effect}
    (h : MarkedBy sid (.alive d) log) (hkeep : d'.toDelete = d.toDelete) (tail : List Effect) :
    MarkedBy sid (.alive d') (log ++ tail) := by
  intro d'' hd hmarked
  obtain rfl := Life.alive.inj hd
  obtain ⟨req, hmethod, hsid, hmem⟩ := h d rfl (hkeep ▸ hmarked)
  exact ⟨req, hmethod, hsid, List.mem_append_left _ hmem⟩

theorem markedBy_invariant (ctx : Context) (sid : Str) :
    LifeInvariant ctx sid ok (MarkedBy sid) where
  init := fun d hd => Life.noConfusion hd
  create := by
    intro req ans callbacks log src _ _ _ d hd hmarked
    obtain rfl := Life.alive.inj hd
    cases hmarked
  event := fun _ h => h.append (notifySubscriber_toDelete ..) _
  response := by
    intro s i msg outcome d _ _ _ h
    cases hr : (notifyGotResponse i msg outcome d).1 with
    | none => exact fun d' hd => Life.noConfusion hd
    | some d' => exact h.append (notifyGotResponse_keeps hr).2 _
  renew := by
    intro req d log src _ _ h
    refine h.append ?_ _
    rfl
  unsubscribe := by
    intro s req query d _ haddressed hmethod _ _
    split
    · exact fun d' hd => Life.noConfusion hd
    · intro d' _ _
      exact ⟨req, hmethod, haddressed.sid, List.mem_append_right _ (List.mem_singleton_self _)⟩
  reject := by
    intro req ans life log _ _ _ h d hd hmarked
    obtain ⟨req', hmethod, hsid, hmem⟩ := h d hd hmarked
    exact ⟨req', hmethod, hsid, List.mem_append_left _ hmem⟩
  remove := fun _ d hd => Life.noConfusion hd

/-! ## Removal -/

theorem SameTimers.lookup_ne_none (h : SameTimers s t) {d : SubscriptionData}
    (hd : s.subscriptions.lookup sid = some d) : t.subscriptions.lookup sid ≠ none := by
  intro hnone
  have hsame := h.timeoutSrc sid
  rw [hd, hnone] at hsame
  cases hsame

/-- A response that ends a subscription is a 412. -/
theorem notifyGotResponse_none {i : Nat} {msg : NotifySubscriberData} {outcome : NotifyOutcome}
    {d : SubscriptionData} (h : (notifyGotResponse i msg outcome d).1 = none) :
    ∃ error reason, outcome = .done error 412 reason := by
  unfold notifyGotResponse at h
  split at h
  · cases h
  · rename_i error status reason
    dsimp only at h
    split at h
    · cases h
    · split at h
      · rename_i hstatus
        exact ⟨error, reason, by rw [hstatus]⟩
      · split at h <;> cases h

/-- A request that removes a subscription is its UNSUBSCRIBE. -/
theorem endsEarly_request (htimed : Timed s) (hw : WellFormed ctx s) (req : SubscriptionRequest)
    (query : ServiceState → Str → Option Str) {d : SubscriptionData}
    (hd : s.subscriptions.lookup sid = some d)
    (hgone : (subscriptionServerHandler ctx query req s).subscriptions.lookup sid = none) :
    EndsEarly sid s (subscriptionServerHandler ctx query req s) (.request req query) := by
  have hself : ∀ {sid₀}, OthersSame sid₀ s (subscriptionServerHandler ctx query req s) →
      sid = sid₀ := by
    intro sid₀ hothers
    by_contra hne
    rw [hothers.lookup sid hne, hd] at hgone
    cases hgone
  obtain ⟨ans, -, heq⟩ | ⟨callbacks, hmethod, hcallback, hnt, hunnamed, heq⟩ |
    ⟨sid₀, d₀, haddressed, hmethod, hd₀, heq⟩ | ⟨sid₀, d₀, haddressed, hmethod, hd₀, heq⟩ :=
      handler_spec ctx query req s
  · rw [heq] at hgone
    rw [show (s.record [.answer req ans]).subscriptions = s.subscriptions from rfl, hd] at hgone
    cases hgone
  · obtain ⟨hothers, hadded⟩ := added htimed hw query callbacks hmethod hcallback hnt hunnamed
    rw [← heq] at hothers hadded
    obtain rfl := hself hothers
    rw [hadded.fresh] at hd
    cases hd
  · obtain ⟨hothers, hrenewed⟩ := renewed htimed hd₀ haddressed hmethod
    rw [← heq] at hothers hrenewed
    obtain rfl := hself hothers
    obtain ⟨_, _, -, hstays⟩ := hrenewed.entry
    rw [hgone] at hstays
    cases hstays
  · obtain ⟨hothers, hdropped⟩ := dropped htimed hd₀ haddressed hmethod
    rw [← heq] at hothers hdropped
    obtain rfl := hself hothers
    exact ⟨hmethod, haddressed.sid, hdropped.log⟩

/-- A subscription that is removed before it is due. -/
theorem endsEarly (h : Run (step ctx) ok .init es s) (he : step ctx s e = some t)
    {d : SubscriptionData} (hd : s.subscriptions.lookup sid = some d)
    (hgone : t.subscriptions.lookup sid = none) (hsrc : src ∈ s.sources) (hsid : src.sid = sid)
    (hearly : s.clock < src.due) : EndsEarly sid s t e := by
  have htimed := timed_run h
  have hw := wellFormed_run h
  cases e with
  | request req query =>
    simp only [step, Option.ite_none_right_eq_some, Option.some.injEq] at he
    obtain ⟨-, rfl⟩ := he
    exact endsEarly_request htimed hw req query hd hgone
  | notifyValue name value => exact absurd hgone ((sameTimers_update_event rfl he).lookup_ne_none hd)
  | freezeNotify => exact absurd hgone ((sameTimers_update_event rfl he).lookup_ne_none hd)
  | thawNotify => exact absurd hgone ((sameTimers_update_event rfl he).lookup_ne_none hd)
  | introspected result query =>
    simp only [step, Option.ite_none_right_eq_some, Option.some.injEq] at he
    rw [← he.2] at hgone
    rcases (sheds_introspected htimed result query).lookup hd with ⟨d', hd', -⟩ | hmarked
    · rw [hgone] at hd'
      cases hd'
    · have hinv : LifeInvariant ctx sid ok (MarkedBy sid) := markedBy_invariant ctx sid
      have hby := lives_run hinv h
      obtain ⟨req, hmethod, hnamed, hmem⟩ := hby d (life_alive_iff.2 hd) hmarked
      exact ⟨req, hmethod, hnamed, (List.mem_filter.1 hmem).1⟩
  | response sid₀ i outcome =>
    obtain ⟨d₀, msg, -, -, ⟨d', hd', rfl⟩ | ⟨hnone, rfl⟩⟩ := receiveOutcome_cases he
    · simp only [Table.lookup_modify, hd, Option.map_some] at hgone
      cases hgone
    · rw [lookup_removeSubscription] at hgone
      split at hgone
      · rename_i heq
        obtain ⟨error, reason, rfl⟩ := notifyGotResponse_none hnone
        exact ⟨heq.symm, rfl⟩
      · rw [show (s.record _).subscriptions = s.subscriptions from rfl, hd] at hgone
        cases hgone
  | timeout fired =>
    simp only [step, Option.ite_none_right_eq_some, Option.some.injEq] at he
    obtain ⟨⟨hfired, hdue⟩, rfl⟩ := he
    rw [subscriptionTimeout_eq htimed hfired, lookup_removeSubscription] at hgone
    split at hgone
    · rename_i heq
      rw [htimed.eq_of_sid hsrc hfired (hsid.trans heq)] at hearly
      omega
    · rw [hd] at hgone
      cases hgone
  | unavailable => trivial
  | dispose => trivial
  | tick =>
    simp only [step, Option.ite_none_right_eq_some, Option.some.injEq] at he
    rw [← he.2, hd] at hgone
    cases hgone

/-! ## The main result -/

/-- **Subscriptions live exactly as long as promised.** In every state a run reaches, every
subscription has one timer and every timer a subscription; the timer is due when it was promised and
not overdue; and a step that removes a subscription before it is due is one that `EndsEarly` names. -/
theorem lifetimes (h : Run (step ctx) AnyStep .init es s) :
    (∀ sid d, s.subscriptions.lookup sid = some d → OnTime ctx sid es s) ∧
    (∀ src ∈ s.sources, (s.subscriptions.lookup src.sid).isSome) ∧
    ∀ e t sid d due, step ctx s e = some t → s.subscriptions.lookup sid = some d →
      t.subscriptions.lookup sid = none → s.expiry sid = some due → s.clock < due →
      EndsEarly sid s t e := by
  have htimed := timed_run h
  refine ⟨fun sid d hd => ?_, fun src hsrc => ?_, fun e t sid d due he hd hgone hdue hearly => ?_⟩
  · obtain ⟨src, hsrc, rfl, -⟩ := htimed.armed hd
    refine ⟨⟨src, hsrc, rfl, fun src' hsrc' hsid => htimed.eq_of_sid hsrc' hsrc hsid,
      due_run h hsrc⟩, src.due, htimed.expiry_eq hsrc, htimed.due src hsrc⟩
  · obtain ⟨d, hd, -⟩ := htimed.owned src hsrc
    rw [hd]
    rfl
  · obtain ⟨src, hsrc, rfl, -⟩ := htimed.armed hd
    rw [htimed.expiry_eq hsrc] at hdue
    obtain rfl := Option.some.inj hdue
    exact endsEarly h he hd hgone hsrc rfl hearly

/-- The initial event of a subscription is answered with 412. -/
theorem lifetimes_sample : ∃ s, Run (step sampleContext) AnyStep .init
    [.request sampleSubscribe sampleQuery, .tick] s ∧
    OnTime sampleContext sampleSid [.request sampleSubscribe sampleQuery, .tick] s ∧
    ∃ t, step sampleContext s (.response sampleSid 0 (.done none 412 "Gone")) = some t ∧
      EndsEarly sampleSid s t (.response sampleSid 0 (.done none 412 "Gone")) := by
  have hrun : Run (step sampleContext) AnyStep .init
      [.request sampleSubscribe sampleQuery, .tick] _ := .cons trivial rfl (.single trivial rfl)
  have hall := lifetimes hrun
  exact ⟨_, hrun, hall.1 sampleSid _ rfl, _, rfl, hall.2.2 _ _ sampleSid _ _ rfl rfl rfl rfl
    (by decide)⟩

end GUPnP.Service
