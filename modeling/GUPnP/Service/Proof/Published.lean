import GUPnP.Base.Replica
import GUPnP.Service.Proof.InitialState
import GUPnP.Service.Proof.Updates
import GUPnP.Service.Proof.Vetted

/-!
# What a service publishes

`Publishing`: a service together with the values its application keeps, where every change of a value
is notified and the handler of `query-variable` answers with the values. Seen from a subscription that
is served at one callback URL it is a publisher (`Publishing.view`): an event is a flush of the queue,
and an initial state is a snapshot of the evented variables (`publishes_step`). After every run what
the subscription was sent and then the queue are therefore the values of the evented variables
(`publishes_values`).
-/

set_option autoImplicit false

namespace GUPnP.Service

/-! ## A service and the values of its application -/

structure Publishing where
  vars : Str → Option Str
  service : ServiceState

/-- The values after an event. -/
def varsAfter (vars : Str → Option Str) : Event → Str → Option Str
  | .notifyValue name value => Function.update vars name (some value)
  | _ => vars

def Publishing.step (ctx : Context) (p : Publishing) (e : Event) : Option Publishing :=
  (Service.step ctx p.service e).map fun s => ⟨varsAfter p.vars e, s⟩

/-- The handler of `query-variable` answers with the values of the application. -/
def Answers (p : Publishing) : Event → Prop
  | .request _ query => ∀ s, query s = p.vars
  | .introspected _ query => ∀ s, query s = p.vars
  | _ => True

/-- The subscription is served and has one callback URL. -/
def ServedAtOne (sid : Str) (s : ServiceState) : Prop :=
  ∃ d, s.subscriptions.lookup sid = some d ∧ d.toDelete = false ∧ d.callbacks.toList.length = 1

def NotifyData.pair (data : NotifyData) : Str × Str := (data.name, data.value)

/-- The pairs of variable and value that the messages hold. -/
def contents (msgs : List NotifySubscriberData) : List (Str × Str) :=
  msgs.flatMap fun msg => msg.propertySet.properties.map NotifyData.pair

/-- The service as a subscription sees it. -/
def Publishing.view (ctx : Context) (sid : Str) (p : Publishing) : Publisher Str Str where
  store := p.vars
  queue := p.service.notifyQueue.map NotifyData.pair
  sent := contents (notifies (about sid p.service.log))
  keys := if Issued ctx p.service sid then some p.service.stateVariables else none

variable {ctx : Context} {sid : Str} {s t : ServiceState} {e : Event} {p q : Publishing}
  {vars : Str → Option Str} {log log' : List Effect}

theorem contents_append (msgs msgs' : List NotifySubscriberData) :
    contents (msgs ++ msgs') = contents msgs ++ contents msgs' := List.flatMap_append

/-! ## The life of a subscription keeps its callback URLs -/

/-- What every event of the life of a subscription keeps. -/
structure KeptAlive (Q : SubscriptionData → Prop) : Prop where
  notify : ∀ {d} (propertySet : PropertySet), Q d → Q (notifySubscriber propertySet d).1
  response : ∀ {d d' i msg outcome}, Q d → (notifyGotResponse i msg outcome d).1 = some d' → Q d'
  renew : ∀ {d} (src : Nat), Q d → Q { d with timeoutSrc := some src }
  unsubscribe : ∀ {d}, Q d → Q { d with toDelete := true }

theorem KeptAlive.lifeStep {Q : SubscriptionData → Prop} (hQ : KeptAlive Q) {h h' : History}
    {l : LifeEvent} (hborn : h.life ≠ .unborn) (hq : ∀ d, h.life = .alive d → Q d)
    (he : lifeStep sid h l = some h') : h'.life ≠ .unborn ∧ ∀ d, h'.life = .alive d → Q d := by
  obtain ⟨life, log⟩ := h
  cases life with
  | unborn => exact absurd rfl hborn
  | dead =>
    cases l with
    | reject req ans =>
      obtain rfl := Option.some.inj he
      exact ⟨nofun, nofun⟩
    | create req ans callbacks src => cases he
    | event propertySet => cases he
    | response i outcome => cases he
    | renew req ans src => cases he
    | unsubscribe req => cases he
    | remove => cases he
  | alive d =>
    have hd : Q d := hq d rfl
    cases l with
    | create req ans callbacks src => cases he
    | event propertySet =>
      obtain rfl := Option.some.inj he
      refine ⟨nofun, fun d' hd' => ?_⟩
      obtain rfl := Life.alive.inj hd'
      exact hQ.notify propertySet hd
    | response i outcome =>
      obtain ⟨msg, -, rfl⟩ := Option.map_eq_some_iff.1 he
      dsimp only
      cases hr : (notifyGotResponse i msg outcome d).1 with
      | none => exact ⟨nofun, nofun⟩
      | some d₁ =>
        refine ⟨nofun, fun d' hd' => ?_⟩
        obtain rfl := Life.alive.inj hd'
        exact hQ.response hd hr
    | renew req ans src =>
      obtain rfl := Option.some.inj he
      refine ⟨nofun, fun d' hd' => ?_⟩
      obtain rfl := Life.alive.inj hd'
      exact hQ.renew src hd
    | unsubscribe req =>
      obtain rfl := Option.some.inj he
      dsimp only
      split
      · exact ⟨nofun, nofun⟩
      · refine ⟨nofun, fun d' hd' => ?_⟩
        obtain rfl := Life.alive.inj hd'
        exact hQ.unsubscribe hd
    | reject req ans =>
      obtain rfl := Option.some.inj he
      exact ⟨nofun, hq⟩
    | remove =>
      obtain rfl := Option.some.inj he
      exact ⟨nofun, nofun⟩

/-- A subscription that was created stays so, and keeps it in every step of the service. -/
theorem KeptAlive.step {Q : SubscriptionData → Prop} (hQ : KeptAlive Q) (h : WellFormed ctx s)
    (he : step ctx s e = some t) (hi : Issued ctx s sid)
    (hq : ∀ d, s.subscriptions.lookup sid = some d → Q d) :
    Issued ctx t sid ∧ ∀ d, t.subscriptions.lookup sid = some d → Q d := by
  obtain ⟨hw, ls, hls⟩ := step_lives h he sid
  have hborn : (s.history ctx sid).life ≠ .unborn := by
    cases hl : s.subscriptions.lookup sid with
    | none => rw [history_dead hl hi]; exact nofun
    | some d => rw [history_alive hl]; exact nofun
  have hinv := hls.inv (fun h => h.life ≠ .unborn ∧ ∀ d, h.life = .alive d → Q d)
    (fun _ _ _ hh _ hstep => hQ.lifeStep hh.1 hh.2 hstep)
    ⟨hborn, fun d hd => hq d (life_alive_iff.1 hd)⟩
  refine ⟨?_, fun d hd => hinv.2 d (life_alive_iff.2 hd)⟩
  by_contra hunborn
  cases hl : t.subscriptions.lookup sid with
  | none => exact hinv.1 (congrArg History.life (history_unborn hl hunborn))
  | some d => exact hunborn (hw.issued hl)

theorem keptAlive_notServed :
    KeptAlive fun d => ¬ (d.toDelete = false ∧ d.callbacks.toList.length = 1) where
  notify propertySet h := by rwa [notifySubscriber_toDelete, notifySubscriber_callbacks]
  response h hr := by rwa [(notifyGotResponse_keeps hr).2, notifyGotResponse_callbacks hr]
  renew _ h := h
  unsubscribe _ h := Bool.false_ne_true h.1.symm

/-- A subscription that is served was served since it was created. -/
theorem servedAtOne_before (h : WellFormed ctx s) (he : step ctx s e = some t)
    (hserved : Issued ctx t sid → ServedAtOne sid t) (hi : Issued ctx s sid) : ServedAtOne sid s := by
  by_contra hs
  obtain ⟨hissued, hkept⟩ :=
    keptAlive_notServed.step h he hi fun d' hd' hserved' => hs ⟨d', hd', hserved'⟩
  obtain ⟨d, hd, hd'⟩ := hserved hissued
  exact hkept d hd hd'

theorem ServedAtOne.served (h : ServedAtOne sid s) : Served sid s := by
  obtain ⟨d, hd, hdelete, -⟩ := h
  exact ⟨d, hd, hdelete⟩

theorem ServedAtOne.issued (hw : WellFormed ctx s) (h : ServedAtOne sid s) : Issued ctx s sid := by
  obtain ⟨d, hd, -⟩ := h
  exact hw.issued hd

/-! ## What the steps send -/

/-- Neither an update nor an initial state: nothing is sent to a subscription with one callback URL. -/
theorem sent_quiet (h : WellFormed ctx s) (he : step ctx s e = some t) (hi : isInitial e = false)
    (hu : isUpdate e = false) (hone : ServedAtOne sid s) : sentBetween sid s t = [] := by
  cases e with
  | request req query => cases hi
  | introspected result query => cases hi
  | notifyValue name value => cases hu
  | freezeNotify => cases hu
  | thawNotify => cases hu
  | response sid₀ i outcome =>
    obtain ⟨d, msg, hd, hm, ht⟩ := receiveOutcome_cases he
    have hlog : about sid t.log = about sid s.log ++
        about sid (.response msg outcome :: (notifyGotResponse i msg outcome d).2) := by
      obtain ⟨d', -, rfl⟩ | ⟨-, rfl⟩ := ht
      · exact about_append sid _ _
      · rw [removeSubscription_log]
        exact about_append sid _ _
    rw [sentBetween_eq hlog, about_response (h.entry hd) hm]
    split
    · rename_i heq
      subst heq
      obtain ⟨d₁, hd₁, -, hlength⟩ := hone
      obtain rfl := Option.some.inj (hd.symm.trans hd₁)
      obtain ⟨-, he⟩ | ⟨-, he⟩ | ⟨-, he⟩ | ⟨-, next, hnext, -⟩ | ⟨-, -, error, he⟩ :=
        notifyGotResponse_cases i msg outcome d
      · rw [he]
        rfl
      · rw [he]
        rfl
      · rw [he]
        rfl
      · -- There is no next URL.
        have hpos := Cursor.getElem?_pos next
        rw [Cursor.toList_next hnext, Cursor.pos_next hnext, List.getElem?_eq_none (by omega)] at hpos
        cases hpos
      · rw [he]
        rfl
    · rfl
  | timeout src =>
    simp only [step, Option.ite_none_right_eq_some, Option.some.injEq] at he
    rw [← he.2]
    exact sentBetween_of_eq (congrArg (about sid) (removeSubscription_log src.sid _))
  | unavailable =>
    obtain rfl := Option.some.inj he
    exact sentBetween_of_eq rfl
  | dispose =>
    obtain rfl := Option.some.inj he
    exact sentBetween_of_eq rfl
  | tick =>
    simp only [step, Option.ite_none_right_eq_some, Option.some.injEq] at he
    rw [← he.2]
    exact sentBetween_of_eq rfl

/-- The properties of an initial state are a snapshot of the evented variables. -/
theorem initialState_pairs {query : ServiceState → Str → Option Str} (hquery : query s = vars) :
    (s.initialState query).properties.map NotifyData.pair = snapshot s.stateVariables vars := by
  unfold ServiceState.initialState snapshot
  rw [hquery, List.map_filterMap]
  refine congrArg (List.filterMap · s.stateVariables) (funext fun name => ?_)
  rw [Option.map_map]
  rfl

theorem about_sendInitialState_ne (h : WellFormed ctx s) (query : ServiceState → Str → Option Str)
    {sid₀ : Str} (hne : sid ≠ sid₀) :
    about sid (sendInitialState query sid₀ s).log = about sid s.log := by
  cases hd : s.subscriptions.lookup sid₀ with
  | none =>
    rw [sendInitialState_eq, update_log]
    simp only [hd, Option.toList_none, List.flatMap_nil, List.append_nil]
  | some d => rw [about_sendInitialState h query hd, if_neg hne, List.append_nil]

theorem introspectedStep_log (query : ServiceState → Str → Option Str) (s : ServiceState)
    (sid₀ : Str) : (introspectedStep query s sid₀).log = (sendInitialState query sid₀ s).log := by
  obtain heq | ⟨d, -, -, heq⟩ := introspectedStep_cases query sid₀ s
  · rw [heq]
  · rw [heq, removeSubscription_log]

theorem about_introspectedLoop_ne (query : ServiceState → Str → Option Str) {keys : List Str}
    (hmem : sid ∉ keys) (h : WellFormed ctx s) :
    about sid (keys.foldl (introspectedStep query) s).log = about sid s.log := by
  induction keys generalizing s with
  | nil => rfl
  | cons sid₀ keys ih =>
    rw [List.mem_cons, not_or] at hmem
    rw [List.foldl_cons, ih hmem.2 (wellFormed_introspectedStep h query sid₀), introspectedStep_log,
      about_sendInitialState_ne h query hmem.1]

/-- The loop over the subscriptions sends each one that is served its initial state. -/
theorem about_introspectedLoop {query : ServiceState → Str → Option Str}
    (hquery : ∀ s, query s = vars) {keys : List Str} (hnodup : keys.Nodup) (hmem : sid ∈ keys)
    (h : WellFormed ctx s) {d : SubscriptionData} (hd : s.subscriptions.lookup sid = some d)
    (hcan : d.canDelete = false) : ∃ propertySet : PropertySet,
      propertySet.properties.map NotifyData.pair = snapshot s.stateVariables vars ∧
      about sid (keys.foldl (introspectedStep query) s).log =
        about sid s.log ++ [.notify (d.message propertySet)] := by
  induction keys generalizing s with
  | nil => cases hmem
  | cons sid₀ keys ih =>
    obtain ⟨hnot, hnodup⟩ := List.nodup_cons.1 hnodup
    have hw := wellFormed_introspectedStep h query sid₀
    rw [List.foldl_cons]
    by_cases heq : sid = sid₀
    · subst heq
      refine ⟨s.initialState query, initialState_pairs (hquery s), ?_⟩
      rw [about_introspectedLoop_ne query hnot hw, introspectedStep_log,
        about_sendInitialState h query hd, if_pos rfl]
      obtain ⟨htrue, -⟩ | ⟨-, hsend⟩ := notifySubscriber_cases (s.initialState query) d
      · cases hcan.symm.trans htrue
      · rw [hsend]
    · obtain ⟨propertySet, hpairs, hlog⟩ := ih hnodup ((List.mem_cons.1 hmem).resolve_left heq) hw
        (by rwa [lookup_introspectedStep_ne heq])
      rw [(frame_introspectedStep query s sid₀).stateVariables] at hpairs
      rw [introspectedStep_log, about_sendInitialState_ne h query heq] at hlog
      exact ⟨propertySet, hpairs, hlog⟩

/-- The completed introspection sends the evented variables, those that it found among them. -/
theorem sent_introspected (h : WellFormed ctx s) {result : Except String (List StateVariableInfo)}
    {query : ServiceState → Str → Option Str} (hquery : ∀ s, query s = vars)
    (hserved : Served sid s) :
    contents (sentBetween sid s (gotIntrospection result query s)) =
      snapshot (gotIntrospection result query s).stateVariables vars := by
  obtain ⟨d, hd, hdelete⟩ := hserved
  have hcan : d.canDelete = false := by simp [SubscriptionData.canDelete, hdelete]
  unfold gotIntrospection
  generalize hu : addStateVariables result { s with introspecting := false } = u
  have hsub : u.subscriptions = s.subscriptions := by
    rw [← hu]
    cases result <;> rfl
  have hlogs : u.log = s.log := by
    rw [← hu]
    cases result <;> rfl
  have hw : WellFormed ctx u := by
    rw [← hu]
    cases result <;> exact ⟨h.entry, h.issued, h.log⟩
  rw [← hsub] at hd
  have hmem : sid ∈ u.subscriptions.keys := AList.mem_keys.1 (AList.lookup_isSome.1 (by rw [hd]; rfl))
  obtain ⟨propertySet, hpairs, hlog⟩ :=
    about_introspectedLoop hquery (AList.keys_nodup _) hmem hw hd hcan
  dsimp only
  rw [hlogs] at hlog
  rw [sentBetween_eq hlog, (frame_introspectedLoop query _ u).stateVariables, ← hpairs]
  exact List.append_nil _

/-! ## What the messages carry -/

/-- The messages are event messages. -/
def Headed (log : List Effect) : Prop :=
  ∀ msg ∈ notifies log, msg.nt = Gena.ntEvent ∧ msg.nts = Gena.ntsPropChange

theorem Headed.append (h : Headed log) (h' : Headed log') : Headed (log ++ log') := by
  intro msg hm
  rw [notifies_append] at hm
  exact (List.mem_append.1 hm).elim (h msg) (h' msg)

theorem headed_notifySubscriber (propertySet : PropertySet) (d : SubscriptionData) :
    Headed (notifySubscriber propertySet d).2 := by
  intro msg hm
  cases mem_notifySubscriber (mem_notifies.1 hm)
  exact ⟨rfl, rfl⟩

theorem headed_invariant (ctx : Context) (sid : Str) :
    LifeInvariant ctx sid AnyStep fun _ log => Headed log where
  init := nofun
  create _ _ _ h := h.append nofun
  event _ h := h.append (headed_notifySubscriber _ _)
  response := fun {s i msg outcome d} _ _ _ h => by
    refine h.append ?_
    obtain ⟨-, he⟩ | ⟨-, he⟩ | ⟨-, he⟩ | ⟨-, next, -, he⟩ | ⟨-, -, error, he⟩ :=
      notifyGotResponse_cases i msg outcome d
    · rw [he]
      exact nofun
    · rw [he]
      exact nofun
    · rw [he]
      exact nofun
    · rw [he]
      exact headed_notifySubscriber msg.propertySet { d.without i with callbacks := next }
    · rw [he]
      exact nofun
  renew _ _ _ h := h.append nofun
  unsubscribe _ _ _ _ h := h.append nofun
  reject _ _ _ h := h.append nofun
  remove h := h

/-! ## The publisher -/

/-- From `p` to `q` the subscription sees a run of its publisher. -/
def Publishes (ctx : Context) (sid : Str) (p q : Publishing) : Prop :=
  ∃ pubs, Run Publisher.step AnyStep (p.view ctx sid) pubs (q.view ctx sid)

theorem Publishes.trans {r : Publishing} (h : Publishes ctx sid p q) (h' : Publishes ctx sid q r) :
    Publishes ctx sid p r := by
  obtain ⟨pubs, h⟩ := h
  obtain ⟨pubs', h'⟩ := h'
  exact ⟨pubs ++ pubs', h.trans h'⟩

theorem Publishes.of_eq (h : q.view ctx sid = p.view ctx sid) : Publishes ctx sid p q := by
  refine ⟨[], ?_⟩
  rw [h]
  exact .nil

theorem Publishes.single (pub : Publication Str Str)
    (h : (p.view ctx sid).step pub = some (q.view ctx sid)) : Publishes ctx sid p q :=
  ⟨[pub], .single trivial h⟩

/-- A subscription that was created is served, and one that was not was sent nothing. -/
structure Sane (ctx : Context) (sid : Str) (s : ServiceState) : Prop where
  wellFormed : WellFormed ctx s
  served : Issued ctx s sid → ServedAtOne sid s
  unsent : ¬ Issued ctx s sid → notifies (about sid s.log) = []

/-- A step that sends nothing and changes neither the values nor the variables. -/
theorem publishes_nothing (hvars : q.vars = p.vars) (hframe : Frame p.service q.service)
    (hlog : notifies (about sid q.service.log) = notifies (about sid p.service.log)) :
    Publishes ctx sid p q := by
  refine .of_eq ?_
  unfold Publishing.view
  rw [hvars, hframe.notifyQueue, hframe.stateVariables, hlog]
  simp only [issued_iff hframe.nextUuid]

theorem publishes_flush (h : Sane ctx sid s) :
    Publishes ctx sid ⟨vars, s⟩ ⟨vars, flushNotifications s⟩ := by
  have hframe : Frame { s with notifyQueue := [] } (flushNotifications s) := ⟨rfl, rfl, rfl, rfl⟩
  by_cases hi : Issued ctx s sid
  · obtain ⟨d, hd, hdelete⟩ := (h.served hi).served
    have hlog : notifies (about sid (flushNotifications s).log) =
        notifies (about sid s.log) ++ [d.message s.queued] := by
      obtain ⟨tail, htail⟩ : ∃ tail, about sid (flushNotifications s).log =
        about sid s.log ++ tail := ⟨_, about_flush h.wellFormed sid⟩
      rw [← sent_flush h.wellFormed hd hdelete, sentBetween_eq htail, htail, notifies_append]
    refine .single .flush ?_
    unfold Publishing.view Publisher.step
    dsimp only
    rw [hlog, contents_append, if_pos hi, if_pos ((issued_iff hframe.nextUuid).2 hi),
      hframe.stateVariables, hframe.notifyQueue]
    simp only [contents, List.flatMap_cons, List.flatMap_nil, List.append_nil, List.map_nil]
    rfl
  · have hnone : s.subscriptions.lookup sid = none := by
      cases hl : s.subscriptions.lookup sid with
      | none => rfl
      | some d => exact absurd (h.wellFormed.issued hl) hi
    have hlog : about sid (flushNotifications s).log = about sid s.log := by
      rw [about_flush h.wellFormed sid, hnone]
      exact List.append_nil _
    refine ⟨[.flush, .restart], .cons trivial rfl (.single trivial ?_)⟩
    unfold Publishing.view Publisher.step
    dsimp only
    rw [hlog, h.unsent hi, if_neg fun hi' => hi ((issued_iff hframe.nextUuid).1 hi'),
      hframe.notifyQueue]
    rfl

theorem publishes_write (name value : Str) : Publishes ctx sid ⟨vars, s⟩
    ⟨Function.update vars name (some value),
      { s with notifyQueue := s.notifyQueue ++ [⟨name, value⟩] }⟩ := by
  refine .single (.write name value) ?_
  unfold Publishing.view Publisher.step
  dsimp only
  rw [List.map_append]
  rfl

theorem Sane.queue (h : Sane ctx sid s) (queue : List NotifyData) (frozen : Bool) :
    Sane ctx sid { s with notifyQueue := queue, notifyFrozen := frozen } :=
  ⟨⟨h.wellFormed.entry, h.wellFormed.issued, h.wellFormed.log⟩, h.served, h.unsent⟩

/-- A SUBSCRIBE that creates the subscription sends it a snapshot; other requests send it nothing. -/
theorem publishes_request (h : Sane ctx sid s) {req : SubscriptionRequest}
    {query : ServiceState → Str → Option Str} (hquery : ∀ s, query s = vars)
    (he : step ctx s (.request req query) = some t) : Publishes ctx sid ⟨vars, s⟩ ⟨vars, t⟩ := by
  have hlog := notifies_sent h.wellFormed he sid
  simp only [step, Option.ite_none_right_eq_some, Option.some.injEq] at he
  obtain ⟨-, rfl⟩ := he
  obtain ⟨callbacks, heq⟩ | hanswer := handler_cases ctx query req s
  · have hframe : Frame (s.answered ctx req callbacks)
        (subscriptionServerHandler ctx query req s) := heq ▸ frame_sendInitialState _ _ _
    have huuid : (subscriptionServerHandler ctx query req s).nextUuid = s.nextUuid + 1 :=
      hframe.nextUuid
    rw [sent_created h.wellFormed heq sid] at hlog
    by_cases hs : sid = generateSid ctx s.nextUuid
    · have hborn : Issued ctx (subscriptionServerHandler ctx query req s) sid :=
        ⟨s.nextUuid, by omega, hs⟩
      have hpairs := initialState_pairs (hquery (s.answered ctx req callbacks))
      rw [if_pos hs] at hlog
      refine .single (.snapshot s.stateVariables) ?_
      unfold Publishing.view Publisher.step
      dsimp only
      rw [hlog, contents_append, if_pos hborn, hframe.stateVariables, hframe.notifyQueue]
      refine congrArg (fun sent => some (Publisher.mk vars (s.notifyQueue.map NotifyData.pair)
        (contents (notifies (about sid s.log)) ++ sent) (some s.stateVariables))) ?_
      exact hpairs.symm.trans (List.append_nil _).symm
    · have hissued : Issued ctx (subscriptionServerHandler ctx query req s) sid ↔
          Issued ctx s sid := by
        refine ⟨?_, fun hi => hi.mono (by omega)⟩
        rintro ⟨k, hk, hsid⟩
        refine ⟨k, Nat.lt_of_le_of_ne (by omega) fun hkn => hs ?_, hsid⟩
        rw [hsid, hkn]
      rw [if_neg hs, List.append_nil] at hlog
      refine .of_eq ?_
      unfold Publishing.view
      dsimp only
      rw [hframe.notifyQueue, hframe.stateVariables, hlog]
      simp only [hissued]
      rfl
  · rw [sent_onlyAnswers hanswer, List.append_nil] at hlog
    exact publishes_nothing rfl hanswer.1 hlog

/-- The completed introspection sends a subscription that is served a snapshot. -/
theorem publishes_introspected (h : Sane ctx sid s)
    {result : Except String (List StateVariableInfo)} {query : ServiceState → Str → Option Str}
    (hquery : ∀ s, query s = vars) (he : step ctx s (.introspected result query) = some t) :
    Publishes ctx sid ⟨vars, s⟩ ⟨vars, t⟩ := by
  have hlog := notifies_sent h.wellFormed he sid
  have hqueue := step_queue he rfl
  have hwt : WellFormed ctx t := (step_lives h.wellFormed he sid).1
  simp only [step, Option.ite_none_right_eq_some, Option.some.injEq] at he
  obtain ⟨-, rfl⟩ := he
  have huuid : (gotIntrospection result query s).nextUuid = s.nextUuid := by
    refine (frame_introspectedLoop query _ _).nextUuid.trans ?_
    cases result <;> rfl
  by_cases hi : Issued ctx s sid
  · refine .single (.snapshot (gotIntrospection result query s).stateVariables) ?_
    unfold Publishing.view Publisher.step
    dsimp only
    rw [hlog, contents_append, sent_introspected h.wellFormed hquery (h.served hi).served,
      if_pos ((issued_iff huuid).2 hi), hqueue]
  · have hnone : sentBetween sid s (gotIntrospection result query s) = [] := by
      refine sentBetween_of_eq ?_
      have hmem : sid ∉ (addStateVariables result
          { s with introspecting := false }).subscriptions.keys := by
        intro hmem
        have hsub : (addStateVariables result { s with introspecting := false }).subscriptions =
            s.subscriptions := by cases result <;> rfl
        rw [hsub] at hmem
        obtain ⟨d, hd⟩ := Option.isSome_iff_exists.1
          (AList.lookup_isSome.2 (AList.mem_keys.2 hmem))
        exact hi (h.wellFormed.issued hd)
      have hformed : WellFormed ctx (addStateVariables result { s with introspecting := false }) := by
        cases result <;> exact ⟨h.wellFormed.entry, h.wellFormed.issued, h.wellFormed.log⟩
      unfold gotIntrospection
      dsimp only
      rw [about_introspectedLoop_ne query hmem hformed]
      cases result <;> rfl
    refine .of_eq ?_
    unfold Publishing.view
    dsimp only
    rw [hlog, hnone, List.append_nil, hqueue, if_neg hi, if_neg fun hi' => hi ((issued_iff huuid).1 hi')]

/-- **Every step of a service is a run of the publisher** that each of its subscriptions sees. -/
theorem publishes_step (h : Sane ctx sid p.service) (ht : Sane ctx sid q.service) (ha : Answers p e)
    (hstep : p.step ctx e = some q) : Publishes ctx sid p q := by
  obtain ⟨vars, s⟩ := p
  obtain ⟨t, he, rfl⟩ := Option.map_eq_some_iff.1 hstep
  dsimp only at h he ht
  clear hstep
  cases e with
  | request req query => exact publishes_request h ha he
  | introspected result query => exact publishes_introspected h ha he
  | notifyValue name value =>
    obtain rfl := Option.some.inj he
    have hwrite : Publishes ctx sid ⟨vars, s⟩ ⟨Function.update vars name (some value),
        { s with notifyQueue := s.notifyQueue ++ [⟨name, value⟩] }⟩ := publishes_write name value
    unfold notifyValue varsAfter
    dsimp only
    split
    · exact hwrite
    · exact hwrite.trans (publishes_flush (h.queue _ _))
  | freezeNotify =>
    obtain rfl := Option.some.inj he
    exact .of_eq rfl
  | thawNotify =>
    obtain rfl := Option.some.inj he
    have hthaw : Publishes ctx sid ⟨vars, s⟩ ⟨vars, { s with notifyFrozen := false }⟩ := .of_eq rfl
    unfold thawNotify varsAfter
    dsimp only
    split
    · exact hthaw
    · exact hthaw.trans (publishes_flush (h.queue _ _))
  | _ =>
    obtain ⟨queue, hframe, hqueue⟩ := step_frame he rfl
    obtain rfl := hqueue rfl
    refine publishes_nothing rfl hframe ?_
    have hlog := notifies_sent h.wellFormed he sid
    by_cases hi : Issued ctx s sid
    · rwa [sent_quiet h.wellFormed he rfl rfl (h.served hi), List.append_nil] at hlog
    · rw [h.unsent hi, ht.unsent fun hi' => hi ((issued_iff hframe.nextUuid).1 hi')]

/-! ## Runs -/

theorem publishing_run {es : List Event} {ok : Publishing → Event → Prop}
    (h : Run (Publishing.step ctx) ok ⟨vars, .init⟩ es p) :
    Run (step ctx) AnyStep .init es p.service := by
  induction h with
  | nil => exact .nil
  | snoc _ _ he ih =>
    obtain ⟨t, ht, rfl⟩ := Option.map_eq_some_iff.1 he
    exact ih.snoc trivial ht

theorem sane_of_run {es : List Event} (h : Run (step ctx) AnyStep .init es s)
    (hserved : Issued ctx s sid → ServedAtOne sid s) : Sane ctx sid s :=
  ⟨wellFormed_run h, hserved, notifies_unborn h⟩

theorem publishes_run {es : List Event}
    (h : Run (Publishing.step ctx) Answers ⟨vars, .init⟩ es p)
    (hserved : Issued ctx p.service sid → ServedAtOne sid p.service) :
    Publishes ctx sid ⟨vars, .init⟩ p := by
  induction h with
  | nil => exact .of_eq rfl
  | @snoc es p q e hrun ha he ih =>
    have hstart := publishing_run hrun
    have hend := publishing_run (hrun.snoc ha he)
    obtain ⟨t, ht, rfl⟩ := Option.map_eq_some_iff.1 he
    have hbefore := servedAtOne_before (wellFormed_run hstart) ht hserved
    exact (ih hbefore).trans
      (publishes_step (sane_of_run hstart hbefore) (sane_of_run hend hserved) ha he)

/-- **What a subscription was sent and then the queue are the values** of the evented variables,
whatever was sent before the last initial state. -/
theorem publishes_values {es : List Event}
    (h : Run (Publishing.step ctx) Answers ⟨vars, .init⟩ es p) (hserved : ServedAtOne sid p.service)
    {name : Str} (hname : name ∈ p.service.stateVariables) :
    replay (contents (notifies (about sid p.service.log)) ++
      p.service.notifyQueue.map NotifyData.pair) (fun _ => none) name = p.vars name := by
  obtain ⟨pubs, hrun⟩ := publishes_run h fun _ => hserved
  have hissued := hserved.issued (wellFormed_run (publishing_run h))
  have hinit : (Publishing.view ctx sid ⟨vars, .init⟩) = Publisher.init vars := by
    unfold Publishing.view Publisher.init
    rw [if_neg]
    · rfl
    · rintro ⟨k, hk, -⟩
      exact Nat.not_lt_zero k hk
  rw [hinit] at hrun
  exact Publisher.replay_sent hrun (if_pos hissued) hname

end GUPnP.Service
