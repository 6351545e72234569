import GUPnP.Service.Proof.Frame
import GUPnP.Service.Proof.Numbering
import GUPnP.Service.Proof.Sent

/-!
# The initial event message

A subscription is sent its initial state when it is created, and every subscription there is when the
introspection completes is sent it again. `initial_event_once`: where no subscription was created
before the introspection succeeds (and none is left to be served when it fails), every subscription is
sent one initial state, as its first NOTIFY, with the number 0 and all evented variables that have a
value (`OneInitialEvent`). A subscription created earlier is sent two (`initial_event_twice`).
-/

set_option autoImplicit false

namespace GUPnP.Service

/-! ## One initial event -/

/-- The request creates the subscription in the state `s`. -/
structure CreatedBy (ctx : Context) (sid : Str) (req : SubscriptionRequest)
    (query : ServiceState → Str → Option Str) (callbacks : Cursor Uri) (s : ServiceState) :
    Prop where
  generated : sid = generateSid ctx s.nextUuid
  handler : subscriptionServerHandler ctx query req s =
    sendInitialState query sid (s.answered ctx req callbacks)

/-- In the run over `es` to `t` the subscription was created and sent one initial state: as its first
NOTIFY, with the number 0 and, where the introspection succeeded, with the value that the handler of
`query-variable` supplied for each evented variable. -/
def OneInitialEvent (ctx : Context) (sid : Str) (es : List Event) (t : ServiceState) : Prop :=
  ∃ es₁ req query es₂ s callbacks msg,
    es = es₁ ++ .request req query :: es₂ ∧ Run (step ctx) AnyStep .init es₁ s ∧
    CreatedBy ctx sid req query callbacks s ∧
    sentIn ctx sid isInitial .init es = [msg] ∧
    (notifies (about sid t.log)).head? = some msg ∧ msg.seq = "0".toList ∧
    ∀ infos query', .introspected (.ok infos) query' ∈ es → ∀ info ∈ infos,
      info.sendEvents = true → ∀ value, query (s.answered ctx req callbacks) info.name = some value →
        ⟨info.name, value⟩ ∈ msg.propertySet.properties

/-- The introspection succeeds before any subscription is created, or fails when no subscription is
left to be served. -/
def IntrospectedFirst (s : ServiceState) : Event → Prop
  | .introspected (.ok _) _ => s.nextUuid = 0
  | .introspected (.error _) _ =>
    ∀ sid d, s.subscriptions.lookup sid = some d → d.canDelete = true
  | _ => True

variable {ctx : Context} {sid : Str} {s t u : ServiceState} {e : Event} {es : List Event}

/-! ## What a step sends -/

theorem notifies_answer (sid : Str) (req : SubscriptionRequest) (ans : Answer) :
    notifies (about sid [.answer req ans]) = [] := by
  cases hd : decide ((Effect.answer req ans).sid? = some sid) <;> simp [about, hd, notifies]

/-- A request that is only answered sends nothing. -/
theorem sent_onlyAnswers {req : SubscriptionRequest} (h : OnlyAnswers req s t) :
    sentBetween sid s t = [] := by
  obtain ⟨-, ans, hlog⟩ := h
  have habout : about sid t.log = about sid s.log ++ about sid [.answer req ans] := by
    rw [hlog, about_append]
  rw [sentBetween_eq habout, notifies_answer]

/-- Nothing is sent to a subscription that is waiting for its deletion. -/
theorem introspectedStep_deletable (query : ServiceState → Str → Option Str) (sid₀ : Str)
    (h : ∀ sid d, s.subscriptions.lookup sid = some d → d.canDelete = true) :
    (introspectedStep query s sid₀).log = s.log ∧
    ∀ sid d, (introspectedStep query s sid₀).subscriptions.lookup sid = some d →
      d.canDelete = true := by
  have hquiet : ∀ d, s.subscriptions.lookup sid₀ = some d →
      notifySubscriber (s.initialState query) d = (d, []) := by
    intro d hd
    rw [notifySubscriber, h sid₀ d hd]
    rfl
  have hlog : (sendInitialState query sid₀ s).log = s.log := by
    rw [sendInitialState_eq, update_log]
    cases hd : s.subscriptions.lookup sid₀ with
    | none => simp
    | some d => simp [hquiet d hd]
  have hcan : ∀ sid d, (sendInitialState query sid₀ s).subscriptions.lookup sid = some d →
      d.canDelete = true := by
    intro sid d hd
    rw [sendInitialState_eq, lookup_update] at hd
    split at hd
    · rename_i heq
      obtain ⟨d₀, hd₀, rfl⟩ := Option.map_eq_some_iff.1 hd
      subst heq
      rw [hquiet d₀ hd₀]
      exact h _ d₀ hd₀
    · exact h sid d hd
  obtain heq | ⟨_, -, -, heq⟩ := introspectedStep_cases query sid₀ s
  · rw [heq]
    exact ⟨hlog, hcan⟩
  · rw [heq]
    refine ⟨by rw [removeSubscription_log, hlog], fun sid d hd => ?_⟩
    rw [lookup_removeSubscription] at hd
    split at hd
    · cases hd
    · exact hcan sid d hd

theorem introspectedLoop_deletable (query : ServiceState → Str → Option Str) (keys : List Str)
    (h : ∀ sid d, s.subscriptions.lookup sid = some d → d.canDelete = true) :
    (keys.foldl (introspectedStep query) s).log = s.log := by
  induction keys generalizing s with
  | nil => rfl
  | cons key keys ih =>
    obtain ⟨hlog, hcan⟩ := introspectedStep_deletable query key h
    rw [List.foldl_cons, ih hcan, hlog]

/-- Where the introspection completes in time, it sends nothing. -/
theorem introspected_sends_nothing (h : WellFormed ctx s)
    {result : Except String (List StateVariableInfo)} {query : ServiceState → Str → Option Str}
    (hok : IntrospectedFirst s (.introspected result query)) :
    (gotIntrospection result query s).log = s.log := by
  have hcan : ∀ sid d, s.subscriptions.lookup sid = some d → d.canDelete = true := by
    cases result with
    | error message => exact hok
    | ok infos =>
      intro sid d hd
      obtain ⟨k, hk, -⟩ := h.issued hd
      have hzero : s.nextUuid = 0 := hok
      omega
  unfold gotIntrospection
  have hsub : (addStateVariables result { s with introspecting := false }).subscriptions =
      s.subscriptions := by cases result <;> rfl
  simp only
  rw [introspectedLoop_deletable query _ (by rw [hsub]; exact hcan)]
  cases result <;> rfl

/-- The SUBSCRIBE that creates a subscription sends it, and no other, its initial state. -/
theorem sent_created (h : WellFormed ctx s) {req : SubscriptionRequest}
    {query : ServiceState → Str → Option Str} {callbacks : Cursor Uri}
    (ht : t = sendInitialState query (generateSid ctx s.nextUuid) (s.answered ctx req callbacks))
    (sid : Str) : sentBetween sid s t =
      if sid = generateSid ctx s.nextUuid then
        [(SubscriptionData.new callbacks sid s.nextSource).message
          ((s.answered ctx req callbacks).initialState query)]
      else [] := by
  have hw : WellFormed ctx (s.answered ctx req callbacks) := wellFormed_created h req callbacks _
  have hlog := about_sendInitialState hw query (lookup_created ctx callbacks s) sid
  have hanswer : about sid (s.answered ctx req callbacks).log = about sid s.log ++
      about sid [.answer req (ctx.subscriptionAnswer (generateSid ctx s.nextUuid))] :=
    about_append sid _ _
  rw [hanswer, List.append_assoc, ← ht] at hlog
  rw [sentBetween_eq hlog, notifies_append, notifies_answer, List.nil_append]
  split
  · rename_i heq
    rw [heq]
    rfl
  · rfl

/-! ## Runs -/

/-- Later steps that send no initial state keep it. -/
theorem OneInitialEvent.snoc (h : OneInitialEvent ctx sid es t)
    (hrun : Run (step ctx) AnyStep .init es t) (he : step ctx t e = some u)
    (hnone : isInitial e = true → sentBetween sid t u = [])
    (hok : ∀ infos query, e ≠ .introspected (.ok infos) query) :
    OneInitialEvent ctx sid (es ++ [e]) u := by
  obtain ⟨es₁, req, query, es₂, s, callbacks, msg, rfl, hrun₁, hcreated, hsent, hhead, hseq, hall⟩ := h
  refine ⟨es₁, req, query, es₂ ++ [e], s, callbacks, msg, by simp, hrun₁, hcreated, ?_, ?_, hseq,
    fun infos query' hm => ?_⟩
  · rw [sentIn_snoc hrun he, hsent]
    split
    · rename_i hi
      rw [hnone hi, List.append_nil]
    · rw [List.append_nil]
  · rw [notifies_sent (wellFormed_run hrun) he, List.head?_append, hhead]
    rfl
  · rcases List.mem_append.1 hm with hm | hm
    · exact hall infos query' hm
    · exact absurd (List.mem_singleton.1 hm).symm (hok infos query')

/-- What holds of the events `es` and the state they lead to. -/
structure Initialised (ctx : Context) (sid : Str) (es : List Event) (t : ServiceState) : Prop where
  evented : ∀ infos query, .introspected (.ok infos) query ∈ es → ∀ info ∈ infos,
    info.sendEvents = true → info.name ∈ t.stateVariables
  unborn : ¬ Issued ctx t sid → sentIn ctx sid isInitial .init es = []
  born : Issued ctx t sid → OneInitialEvent ctx sid es t

/-- A step that creates no subscription and is no completed introspection. -/
theorem Initialised.keep (h : Initialised ctx sid es t) (hrun : Run (step ctx) AnyStep .init es t)
    (he : step ctx t e = some u) (hnone : isInitial e = true → sentBetween sid t u = [])
    (hok : ∀ infos query, e ≠ .introspected (.ok infos) query)
    (hvars : u.stateVariables = t.stateVariables) (huuid : u.nextUuid = t.nextUuid) :
    Initialised ctx sid (es ++ [e]) u where
  evented infos query hm := by
    rw [hvars]
    rcases List.mem_append.1 hm with hm | hm
    · exact h.evented infos query hm
    · exact absurd (List.mem_singleton.1 hm).symm (hok infos query)
  unborn hi := by
    rw [sentIn_snoc hrun he, h.unborn fun hi' => hi ((issued_iff huuid).2 hi'), List.nil_append]
    split
    · exact hnone ‹_›
    · rfl
  born hi := (h.born ((issued_iff huuid).1 hi)).snoc hrun he hnone hok

/-- A SID that was not issued was sent nothing. -/
theorem notifies_unborn (hrun : Run (step ctx) AnyStep .init es t) (hunborn : ¬ Issued ctx t sid) :
    notifies (about sid t.log) = [] := by
  have hcount := lives_run (counted_invariant ctx sid) hrun
  refine hcount.unborn ?_
  cases hl : t.subscriptions.lookup sid with
  | none => exact congrArg History.life (history_unborn hl hunborn)
  | some d => exact absurd ((wellFormed_run hrun).issued hl) hunborn

/-- The SUBSCRIBE that creates a subscription, after the introspection or before it. -/
theorem Initialised.created (h : Initialised ctx sid es t)
    (hrun : Run (step ctx) AnyStep .init es t) {req : SubscriptionRequest}
    {query : ServiceState → Str → Option Str} {callbacks : Cursor Uri}
    (he : step ctx t (.request req query) = some u)
    (hu : subscriptionServerHandler ctx query req t = u)
    (hc : u = sendInitialState query (generateSid ctx t.nextUuid) (t.answered ctx req callbacks)) :
    Initialised ctx sid (es ++ [.request req query]) u := by
  have hw := wellFormed_run hrun
  have hsent := sent_created hw hc sid
  have hframe : Frame (t.answered ctx req callbacks) u := hc ▸ frame_sendInitialState _ _ _
  have huuid : u.nextUuid = t.nextUuid + 1 := hframe.nextUuid
  have hold : ∀ infos query', .introspected (.ok infos) query' ∈ es ++ [Event.request req query] →
      .introspected (.ok infos) query' ∈ es := fun infos query' hm => by
    rcases List.mem_append.1 hm with hm | hm
    · exact hm
    · cases List.mem_singleton.1 hm
  have hissued : Issued ctx u sid → sid ≠ generateSid ctx t.nextUuid → Issued ctx t sid := by
    rintro ⟨k, hk, hsid⟩ hne
    refine ⟨k, Nat.lt_of_le_of_ne (by omega) fun hkn => hne ?_, hsid⟩
    rw [hsid, hkn]
  refine ⟨fun infos query' hm => ?_, fun hi => ?_, fun hi => ?_⟩
  · rw [hframe.stateVariables]
    exact h.evented infos query' (hold infos query' hm)
  · have hne : sid ≠ generateSid ctx t.nextUuid := fun heq =>
      hi ⟨t.nextUuid, by omega, heq⟩
    rw [sentIn_snoc hrun he, h.unborn fun hi' => hi (hi'.mono (by omega)), hsent, if_neg hne]
    rfl
  · by_cases heq : sid = generateSid ctx t.nextUuid
    · -- Its life begins here: nothing was sent before.
      have hunborn : ¬ Issued ctx t sid := heq ▸ not_issued_next ctx t
      have hnone : notifies (about sid t.log) = [] := notifies_unborn hrun hunborn
      rw [if_pos heq] at hsent
      have hseq : (SubscriptionData.new callbacks sid t.nextSource).seq = 0 := rfl
      have hzero := (congrArg CString.printD hseq).trans (show _ = "0".toList by decide)
      have hlog : notifies (about sid u.log) = sentBetween sid t u := by
        rw [notifies_sent hw he, hnone, List.nil_append]
      refine ⟨es, req, query, [], t, callbacks,
        (SubscriptionData.new callbacks sid t.nextSource).message
          ((t.answered ctx req callbacks).initialState query), rfl, hrun,
        ⟨heq, by rw [hu, hc, heq]⟩, ?_, ?_, hzero, fun infos query' hm info hinfo hev value hval => ?_⟩
      · rw [sentIn_snoc hrun he, h.unborn hunborn, hsent]
        rfl
      · rw [hlog, hsent]
        rfl
      · have hmem := h.evented infos query' (hold infos query' hm) info hinfo hev
        refine List.mem_filterMap.2 ⟨info.name, hmem, ?_⟩
        rw [hval]
        rfl
    · rw [if_neg heq] at hsent
      exact (h.born (hissued hi heq)).snoc hrun he (fun _ => hsent) (fun _ _ h => by cases h)

/-- The introspection that completes in time. -/
theorem Initialised.introspected (h : Initialised ctx sid es t)
    (hrun : Run (step ctx) AnyStep .init es t) {result : Except String (List StateVariableInfo)}
    {query : ServiceState → Str → Option Str} (hok : IntrospectedFirst t (.introspected result query))
    (he : step ctx t (.introspected result query) = some u) :
    Initialised ctx sid (es ++ [.introspected result query]) u := by
  have hu := he
  simp only [step, Option.ite_none_right_eq_some, Option.some.injEq] at hu
  have hnone : sentBetween sid t u = [] := by
    refine sentBetween_of_eq ?_
    rw [← hu.2, introspected_sends_nothing (wellFormed_run hrun) hok]
  have hframe : Frame (addStateVariables result { t with introspecting := false }) u :=
    hu.2 ▸ frame_introspectedLoop query _ _
  cases result with
  | error message =>
    exact h.keep hrun he (fun _ => hnone) (fun _ _ h => by cases h) hframe.stateVariables
      hframe.nextUuid
  | ok infos =>
    have huuid : u.nextUuid = 0 := hframe.nextUuid.trans hok
    have hunborn : ∀ {v : ServiceState}, v.nextUuid = 0 → ¬ Issued ctx v sid := by
      rintro v hv ⟨k, hk, -⟩
      omega
    refine ⟨fun infos' query' hm info hinfo hev => ?_, fun _ => ?_, fun hi => absurd hi (hunborn huuid)⟩
    · rw [hframe.stateVariables]
      rcases List.mem_append.1 hm with hm | hm
      · exact List.mem_append_right _ (h.evented infos' query' hm info hinfo hev)
      · cases List.mem_singleton.1 hm
        refine List.mem_append_left _ (List.mem_reverse.2 ?_)
        exact List.mem_map_of_mem (List.mem_filter.2 ⟨hinfo, hev⟩)
    · rw [sentIn_snoc hrun he, h.unborn (hunborn hok), hnone]
      rfl

theorem initialised_run (h : Run (step ctx) IntrospectedFirst .init es t) (sid : Str) :
    Initialised ctx sid es t := by
  induction h with
  | nil =>
    refine ⟨nofun, fun _ => rfl, ?_⟩
    rintro ⟨k, hk, -⟩
    exact absurd hk (Nat.not_lt_zero k)
  | @snoc es t u e hrun hok he ih =>
    have hany := hrun.any
    have hw := wellFormed_run hany
    cases e with
    | request req query =>
      have hu := he
      simp only [step, Option.ite_none_right_eq_some, Option.some.injEq] at hu
      obtain ⟨callbacks, hc⟩ | hanswer := handler_cases ctx query req t
      · exact ih.created hany he hu.2 (hu.2 ▸ hc)
      · rw [hu.2] at hanswer
        exact ih.keep hany he (fun _ => sent_onlyAnswers hanswer) (fun _ _ h => by cases h)
          hanswer.1.stateVariables hanswer.1.nextUuid
    | introspected result query =>
      exact ih.introspected hany hok he
    | _ =>
      obtain ⟨queue, hframe, -⟩ := step_frame he rfl
      exact ih.keep hany he (fun h => absurd h Bool.false_ne_true) (fun _ _ h => by cases h)
        hframe.stateVariables hframe.nextUuid

/-- **One complete initial event.** In every run in which the introspection completes in time, every
subscription that was created is sent one initial state, as its first NOTIFY, with the number 0 and all
evented variables that have a value. -/
theorem initial_event_once (h : Run (step ctx) IntrospectedFirst .init es t)
    (hi : Issued ctx t sid) : OneInitialEvent ctx sid es t :=
  (initialised_run h sid).born hi

/-! ## A concrete service -/

/-- A service with one evented variable. -/
def sampleInfos : List StateVariableInfo := [⟨"Status".toList, true⟩, ⟨"A_ARG_TYPE_ID".toList, false⟩]

def sampleValues : ServiceState → Str → Option Str := fun _ name =>
  if name = "Status".toList then some "1".toList else none

theorem initial_event_once_sample : ∃ t,
    Run (step sampleContext) IntrospectedFirst .init
      [.introspected (.ok sampleInfos) sampleValues, .request sampleSubscribe sampleValues] t ∧
    OneInitialEvent sampleContext sampleSid
      [.introspected (.ok sampleInfos) sampleValues, .request sampleSubscribe sampleValues] t := by
  have hrun : Run (step sampleContext) IntrospectedFirst .init
      [.introspected (.ok sampleInfos) sampleValues, .request sampleSubscribe sampleValues] _ :=
    .cons rfl rfl (.single trivial rfl)
  exact ⟨_, hrun, initial_event_once hrun ⟨0, Nat.zero_lt_one, rfl⟩⟩

/-- A subscription that is created before the introspection completes is sent two initial states. -/
theorem initial_event_twice : ¬ ∀ (ctx : Context) (es : List Event) (t : ServiceState) (sid : Str),
    Run (step ctx) AnyStep .init es t → Issued ctx t sid → OneInitialEvent ctx sid es t := by
  intro h
  have hrun : Run (step sampleContext) AnyStep .init
      [.request sampleSubscribe sampleValues, .introspected (.ok sampleInfos) sampleValues] _ :=
    .cons trivial rfl (.single trivial rfl)
  obtain ⟨es₁, req, query, es₂, s, callbacks, msg, -, -, -, hsent, -⟩ :=
    h sampleContext _ _ sampleSid hrun ⟨0, Nat.zero_lt_one, rfl⟩
  have htwo : (sentIn sampleContext sampleSid isInitial .init
      [.request sampleSubscribe sampleValues,
        .introspected (.ok sampleInfos) sampleValues]).length = 2 := by decide
  rw [hsent] at htwo
  cases htwo

end GUPnP.Service
