import GUPnP.Base.Trace
import GUPnP.Service.Proof.LifeRuns

/-!
# Fail-over to the next callback URL

`FailsOver urls log`: in what was done about a subscription with the callback URLs `urls`,
`notify-failed` is emitted for an event only after an attempt to deliver it failed at every URL, and
an event whose attempt failed is sent to a URL it was not sent to before. All messages in flight
share the cursor of the subscription; the property holds where every failure is handled in its turn
(`fails_over_in_turn`), and is lost with two events in flight (`two_events_in_flight`).
-/

set_option autoImplicit false

namespace GUPnP.Service

/-! ## The promise of the fail-over -/

/-- The messages whose delivery failed. -/
def failures (log : List Effect) : List NotifySubscriberData :=
  log.filterMap fun
    | .response msg outcome => if OtherFailure outcome then some msg else none
    | _ => none

/-- The event was sent to the callback URL at the position. -/
def SentAt (log : List Effect) (id position : Nat) : Prop :=
  ∃ msg ∈ notifies log, msg.propertySet.id = id ∧ msg.position = position

/-- An attempt to deliver the event failed at the callback URL at the position. -/
def FailedAt (log : List Effect) (id position : Nat) : Prop :=
  ∃ msg ∈ failures log, msg.propertySet.id = id ∧ msg.position = position

/-- After a failed attempt to deliver the event of `msg`: `notify-failed` is emitted for it, or it is
sent to a URL it was not sent to before. -/
def FollowedUp (msg : NotifySubscriberData) (before after : List Effect) : Prop :=
  (∃ callbacks error rest, after = .notifyFailed msg callbacks error :: rest) ∨
  ∃ msg' rest, after = .notify msg' :: rest ∧ msg'.propertySet = msg.propertySet ∧
    ¬ SentAt before msg.propertySet.id msg'.position

/-- What the fail-over promises for an effect, with what was done before and after it. -/
def InOrder (urls : List Uri) (before : List Effect) : Effect → List Effect → Prop
  | .notify msg, _ => urls[msg.position]? = some msg.uri
  | .response msg outcome, after =>
    Effect.notify msg ∈ before ∧ (OtherFailure outcome → FollowedUp msg before after)
  | .notifyFailed msg _ _, _ => ∀ k < urls.length, FailedAt before msg.propertySet.id k
  | .answer _ _, _ => True

def FailsOver (urls : List Uri) (log : List Effect) : Prop := Each (InOrder urls) log

instance (log : List Effect) (id position : Nat) : Decidable (SentAt log id position) :=
  inferInstanceAs (Decidable (∃ msg ∈ notifies log, _))

instance (log : List Effect) (id position : Nat) : Decidable (FailedAt log id position) :=
  inferInstanceAs (Decidable (∃ msg ∈ failures log, _))

instance (msg : NotifySubscriberData) (before : List Effect) :
    (after : List Effect) → Decidable (FollowedUp msg before after)
  | [] => isFalse (by simp [FollowedUp])
  | .notify msg' :: rest =>
    decidable_of_iff
      (msg'.propertySet = msg.propertySet ∧ ¬ SentAt before msg.propertySet.id msg'.position)
      (by simp [FollowedUp])
  | .notifyFailed msg' callbacks error :: rest => decidable_of_iff (msg' = msg) (by simp [FollowedUp])
  | .response msg' outcome :: rest => isFalse (by simp [FollowedUp])
  | .answer req ans :: rest => isFalse (by simp [FollowedUp])

instance (urls : List Uri) (before : List Effect) (e : Effect) (after : List Effect) :
    Decidable (InOrder urls before e after) :=
  match e with
  | .notify msg => inferInstanceAs (Decidable (urls[msg.position]? = _))
  | .response msg outcome =>
    inferInstanceAs (Decidable (_ ∧ (OtherFailure outcome → FollowedUp msg before after)))
  | .notifyFailed msg _ _ =>
    inferInstanceAs (Decidable (∀ k < urls.length, FailedAt before msg.propertySet.id k))
  | .answer _ _ => inferInstanceAs (Decidable True)

instance (urls : List Uri) (log : List Effect) : Decidable (FailsOver urls log) :=
  inferInstanceAs (Decidable (Each _ log))

variable {urls : List Uri} {log tail : List Effect} {id k : Nat} {msg : NotifySubscriberData}

/-! ## Attempts -/

theorem sentAt_append : SentAt (log ++ tail) id k ↔ SentAt log id k ∨ SentAt tail id k := by
  unfold SentAt
  rw [notifies_append]
  simp only [List.mem_append, or_and_right, exists_or]

theorem sentAt_notify : SentAt [.notify msg] id k ↔ msg.propertySet.id = id ∧ msg.position = k := by
  constructor
  · rintro ⟨msg', hm, hid, hk⟩
    obtain rfl := List.mem_singleton.1 hm
    exact ⟨hid, hk⟩
  · rintro ⟨hid, hk⟩
    exact ⟨msg, List.mem_singleton_self _, hid, hk⟩

theorem mem_eventIds : id ∈ eventIds log ↔ ∃ k, SentAt log id k := by
  constructor
  · intro h
    obtain ⟨msg, hm, hid⟩ := List.mem_map.1 h
    exact ⟨msg.position, msg, hm, hid, rfl⟩
  · rintro ⟨k, msg, hm, hid, -⟩
    exact List.mem_map.2 ⟨msg, hm, hid⟩

theorem FailedAt.append (h : FailedAt log id k) (tail : List Effect) : FailedAt (log ++ tail) id k := by
  obtain ⟨msg, hm, hrest⟩ := h
  refine ⟨msg, ?_, hrest⟩
  rw [failures, List.filterMap_append]
  exact List.mem_append_left _ hm

/-- A failed attempt. -/
theorem failedAt_response {outcome : NotifyOutcome} (hfail : OtherFailure outcome) :
    FailedAt (log ++ [.response msg outcome]) msg.propertySet.id msg.position := by
  refine ⟨msg, ?_, rfl, rfl⟩
  rw [failures, List.filterMap_append]
  refine List.mem_append_right _ ?_
  simp [hfail]

/-- What is promised for an effect survives what is done later. -/
theorem InOrder.append {before after : List Effect} {e : Effect}
    (h : InOrder urls before e after) (tail : List Effect) :
    InOrder urls before e (after ++ tail) := by
  cases e with
  | notify msg => exact h
  | response msg outcome =>
    refine ⟨h.1, fun hfail => ?_⟩
    obtain ⟨callbacks, error, rest, rfl⟩ | ⟨msg', rest, rfl, hrest⟩ := h.2 hfail
    · exact .inl ⟨callbacks, error, rest ++ tail, rfl⟩
    · exact .inr ⟨msg', rest ++ tail, rfl, hrest⟩
  | notifyFailed msg callbacks error => exact h
  | answer req ans => trivial

theorem FailsOver.append (h : FailsOver urls log)
    (he : Each (fun before => InOrder urls (log ++ before)) tail) : FailsOver urls (log ++ tail) :=
  Each.append h (fun _ _ _ hp => hp.append tail) he

theorem failsOver_of_answers (h : ∀ e ∈ log, ∃ req ans, e = .answer req ans) :
    FailsOver urls log := by
  intro before e after he
  obtain ⟨req, ans, rfl⟩ := h e (by simp [he])
  trivial

/-! ## Messages in flight -/

/-- A message in flight was sent, and its event was sent to consecutive URLs up to that of the message
and failed at all but the last. -/
structure OnItsWay (log : List Effect) (msg : NotifySubscriberData) : Prop where
  sent : Effect.notify msg ∈ log
  path : ∃ start ≤ msg.position,
    (∀ k, SentAt log msg.propertySet.id k ↔ start ≤ k ∧ k ≤ msg.position) ∧
    ∀ k, start ≤ k → k < msg.position → FailedAt log msg.propertySet.id k

theorem OnItsWay.append (h : OnItsWay log msg) (hn : msg.propertySet.id ∉ eventIds tail) :
    OnItsWay (log ++ tail) msg := by
  obtain ⟨start, hstart, hsent, hfailed⟩ := h.path
  refine ⟨List.mem_append_left _ h.sent, start, hstart, fun k => ?_,
    fun k h1 h2 => (hfailed k h1 h2).append tail⟩
  have hno : ¬ SentAt tail msg.propertySet.id k := fun hs => hn (mem_eventIds.2 ⟨k, hs⟩)
  rw [sentAt_append, hsent k, or_iff_left hno]

theorem OnItsWay.known (h : OnItsWay log msg) : msg.propertySet.id ∈ eventIds log :=
  mem_eventIds.2 ⟨msg.position, msg, mem_notifies.2 h.sent, rfl, rfl⟩

/-- The first attempt to deliver an event. -/
theorem onItsWay_first (hfresh : msg.propertySet.id ∉ eventIds log) :
    OnItsWay (log ++ [.notify msg]) msg := by
  refine ⟨by simp, msg.position, Nat.le_refl _, fun k => ?_, fun k h1 h2 => absurd h1 (by omega)⟩
  have hno : ¬ SentAt log msg.propertySet.id k := fun hs => hfresh (mem_eventIds.2 ⟨k, hs⟩)
  rw [sentAt_append, or_iff_right hno, sentAt_notify]
  omega

/-- The next attempt, at the URL after the one that failed. -/
theorem OnItsWay.next {msg' : NotifySubscriberData} {outcome : NotifyOutcome} (h : OnItsWay log msg)
    (hfail : OtherFailure outcome) (hset : msg'.propertySet = msg.propertySet)
    (hpos : msg'.position = msg.position + 1) :
    OnItsWay (log ++ [.response msg outcome, .notify msg']) msg' := by
  obtain ⟨start, hstart, hsent, hfailed⟩ := h.path
  refine ⟨by simp, start, by omega, fun k => ?_, fun k h1 h2 => ?_⟩
  · have hext : SentAt [.response msg outcome, .notify msg'] msg'.propertySet.id k ↔
        msg'.position = k := by
      rw [← List.singleton_append, sentAt_append, sentAt_notify]
      refine ⟨fun h => ?_, fun h => .inr ⟨rfl, h⟩⟩
      rcases h with ⟨m, hm, -⟩ | ⟨-, h⟩
      · cases hm
      · exact h
    rw [sentAt_append, hext, hset, hsent k]
    omega
  · rw [hset]
    by_cases hk : k = msg.position
    · subst hk
      rw [List.append_cons]
      exact (failedAt_response hfail).append _
    · exact (hfailed k h1 (by omega)).append _

/-- The URL after the one that failed was not tried before. -/
theorem OnItsWay.not_sent_next (h : OnItsWay log msg) :
    ¬ SentAt log msg.propertySet.id (msg.position + 1) := by
  obtain ⟨start, -, hsent, -⟩ := h.path
  rw [hsent]
  omega

/-- A failure at the last URL is one at every URL, when the event was first sent to the first. -/
theorem OnItsWay.failed_everywhere {outcome : NotifyOutcome} (h : OnItsWay log msg)
    (hfail : OtherFailure outcome) (hfirst : SentAt log msg.propertySet.id 0)
    (hk : k ≤ msg.position) : FailedAt (log ++ [.response msg outcome]) msg.propertySet.id k := by
  obtain ⟨start, hstart, hsent, hfailed⟩ := h.path
  have hzero : start ≤ 0 := ((hsent 0).1 hfirst).1
  by_cases hlast : k = msg.position
  · subst hlast
    exact failedAt_response hfail
  · exact (hfailed k (by omega) (by omega)).append _

/-! ## The subscription follows its URLs -/

variable {ctx : Context} {sid : Str} {d d' : SubscriptionData}

/-- The log of a subscription that was created with the callback URLs `urls`. -/
structure Settled (ctx : Context) (sid : Str) (urls : List Uri) (log : List Effect) : Prop where
  granted : ∀ {req ans us}, Effect.answer req ans ∈ log → Grants ctx sid req ans us → us = urls
  failsOver : FailsOver urls log

structure Tracked (ctx : Context) (sid : Str) (d : SubscriptionData) (log : List Effect) : Prop where
  settled : Settled ctx sid d.callbacks.toList log
  once : (d.pendingMessages.map fun msg => msg.propertySet.id).Nodup
  pending : ∀ msg ∈ d.pendingMessages, OnItsWay log msg

/-- The invariant: before its creation a subscription is only refused. -/
def Tracks (ctx : Context) (sid : Str) : Life → List Effect → Prop
  | .unborn, log => ∀ e ∈ log, ∃ req ans, e = .answer req ans ∧ req.sid = some sid
  | .alive d, log => Tracked ctx sid d log
  | .dead, log => ∃ urls, Settled ctx sid urls log

theorem Grants.urls_eq {req : SubscriptionRequest} {ans ans' : Answer} {us us' : List Uri}
    (h : Grants ctx sid req ans us) (h' : Grants ctx sid req ans' us') : us = us' := by
  obtain ⟨callback, hc, rfl⟩ := h.callbacks
  obtain ⟨callback', hc', rfl⟩ := h'.callbacks
  rw [hc] at hc'
  rw [Option.some.inj hc']

/-- Nothing is granted to a request that names a SID. -/
theorem not_grants {req : SubscriptionRequest} {ans : Answer} {us : List Uri}
    (h : req.sid = some sid) : ¬ Grants ctx sid req ans us := by
  intro hg
  have hnone := hg.unnamed
  rw [h] at hnone
  cases hnone

theorem Settled.append (h : Settled ctx sid urls log)
    (hg : ∀ req ans us, Effect.answer req ans ∈ tail → ¬ Grants ctx sid req ans us)
    (he : Each (fun before => InOrder urls (log ++ before)) tail) :
    Settled ctx sid urls (log ++ tail) := by
  refine ⟨fun {req ans us} hm hgrant => ?_, h.failsOver.append he⟩
  rcases List.mem_append.1 hm with hm | hm
  · exact h.granted hm hgrant
  · exact absurd hgrant (hg req ans us hm)

/-- An answer to a request that names the SID. -/
theorem Settled.answer (h : Settled ctx sid urls log) {req : SubscriptionRequest}
    (hr : req.sid = some sid) (ans : Answer) : Settled ctx sid urls (log ++ [.answer req ans]) := by
  refine h.append (fun req' ans' us hm => ?_) (each_singleton.2 trivial)
  cases List.mem_singleton.1 hm
  exact not_grants hr

/-- A change that sends nothing and adds no message in flight. -/
theorem Tracked.keep (h : Tracked ctx sid d log) (hc : d'.callbacks.toList = d.callbacks.toList)
    (hp : d'.pendingMessages.Sublist d.pendingMessages) (hn : eventIds tail = [])
    (hs : Settled ctx sid d.callbacks.toList (log ++ tail)) : Tracked ctx sid d' (log ++ tail) := by
  refine ⟨hc ▸ hs, h.once.sublist (hp.map _), fun msg hm => ?_⟩
  refine (h.pending msg (hp.subset hm)).append ?_
  rw [hn]
  exact List.not_mem_nil

/-- A message that is sent, of an event no other message in flight belongs to. -/
theorem Tracked.send {rest : List NotifySubscriberData} (h : Tracked ctx sid d log)
    (hc : d'.callbacks.toList = d.callbacks.toList) (hp : d'.pendingMessages = msg :: rest)
    (hsub : rest.Sublist d.pendingMessages)
    (hne : ∀ m ∈ rest, m.propertySet.id ≠ msg.propertySet.id)
    (hext : ∀ id ∈ eventIds tail, id = msg.propertySet.id)
    (hs : Settled ctx sid d.callbacks.toList (log ++ tail)) (hnew : OnItsWay (log ++ tail) msg) :
    Tracked ctx sid d' (log ++ tail) := by
  refine ⟨hc ▸ hs, ?_, fun m hm => ?_⟩
  · rw [hp, List.map_cons, List.nodup_cons]
    refine ⟨fun hmem => ?_, h.once.sublist (hsub.map _)⟩
    obtain ⟨m, hm, hid⟩ := List.mem_map.1 hmem
    exact hne m hm hid
  · rw [hp] at hm
    rcases List.mem_cons.1 hm with rfl | hm
    · exact hnew
    · exact (h.pending m (hsub.subset hm)).append fun hmem => hne m hm (hext _ hmem)

/-- Messages in flight belong to different events. -/
theorem Tracked.ne_of_mem_eraseIdx (h : Tracked ctx sid d log) {i : Nat} {m : NotifySubscriberData}
    (hmsg : d.pendingMessages[i]? = some msg) (hm : m ∈ d.pendingMessages.eraseIdx i) :
    m.propertySet.id ≠ msg.propertySet.id := by
  obtain ⟨j, hj, hmj⟩ := List.mem_eraseIdx_iff_getElem?.1 hm
  intro hid
  have hlt : j < (d.pendingMessages.map fun msg => msg.propertySet.id).length := by
    rw [List.length_map]
    exact (List.getElem?_eq_some_iff.1 hmj).1
  refine hj ((List.getElem?_inj hlt h.once).1 ?_)
  rw [List.getElem?_map, List.getElem?_map, hmj, hmsg]
  exact congrArg some hid

/-- A new event is sent to the current URL. -/
theorem Tracked.event {propertySet : PropertySet} (h : Tracked ctx sid d log)
    (hfresh : propertySet.id ∉ eventIds log) :
    Tracked ctx sid (notifySubscriber propertySet d).1
      (log ++ (notifySubscriber propertySet d).2) := by
  obtain ⟨-, he⟩ | ⟨-, he⟩ := notifySubscriber_cases propertySet d
  · rw [he, List.append_nil]
    exact h
  · rw [he]
    have hs : Settled ctx sid d.callbacks.toList (log ++ [.notify (d.message propertySet)]) :=
      h.settled.append (fun req ans us hm => by cases List.mem_singleton.1 hm)
        (each_singleton.2 d.callbacks.getElem?_pos)
    refine h.send rfl rfl (List.Sublist.refl _) (fun m hm hid => hfresh ?_) (fun id hid => ?_) hs
      (onItsWay_first hfresh)
    · exact hid ▸ (h.pending m hm).known
    · exact List.mem_singleton.1 hid

/-! ## Failures -/

/-- A failed attempt is handled in its turn: the cursor is at the URL of the message, the event was
sent to the first URL, and it can be sent to the next one. -/
structure InTurn (d : SubscriptionData) (log : List Effect) (msg : NotifySubscriberData) :
    Prop where
  cursor : msg.position = d.callbacks.pos
  started : SentAt log msg.propertySet.id 0
  sends : d.callbacks.next? ≠ none → d.canDelete = false

/-- The step handles no failed attempt out of its turn. -/
def FailsInTurn (s : ServiceState) : Event → Prop
  | .response sid i outcome => OtherFailure outcome → ∀ d msg,
      s.subscriptions.lookup sid = some d → d.pendingMessages[i]? = some msg →
        InTurn d (about sid s.log) msg
  | _ => True

instance (d : SubscriptionData) (log : List Effect) (msg : NotifySubscriberData) :
    Decidable (InTurn d log msg) :=
  decidable_of_iff (msg.position = d.callbacks.pos ∧ SentAt log msg.propertySet.id 0 ∧
      (d.callbacks.next? ≠ none → d.canDelete = false))
    ⟨fun h => ⟨h.1, h.2.1, h.2.2⟩, fun h => ⟨h.cursor, h.started, h.sends⟩⟩

theorem failsInTurn_response {s : ServiceState} {i : Nat} {outcome : NotifyOutcome}
    (hd : s.subscriptions.lookup sid = some d) (hm : d.pendingMessages[i]? = some msg)
    (hturn : InTurn d (about sid s.log) msg) : FailsInTurn s (.response sid i outcome) := by
  intro _ d' msg' hd' hm'
  obtain rfl := Option.some.inj (hd.symm.trans hd')
  obtain rfl := Option.some.inj (hm.symm.trans hm')
  exact hturn

/-- The response to a message in flight. -/
theorem Tracked.inOrder_response (h : Tracked ctx sid d log) {i : Nat} {outcome : NotifyOutcome}
    {after : List Effect} (hm : d.pendingMessages[i]? = some msg)
    (hf : OtherFailure outcome → FollowedUp msg log after) :
    InOrder urls (log ++ []) (.response msg outcome) after := by
  rw [List.append_nil]
  exact ⟨(h.pending msg (List.mem_of_getElem? hm)).sent, hf⟩

/-- A response that is no failure. -/
theorem Tracked.settled_response (h : Tracked ctx sid d log) {i : Nat} {outcome : NotifyOutcome}
    (hm : d.pendingMessages[i]? = some msg) (hno : ¬ OtherFailure outcome) :
    Settled ctx sid d.callbacks.toList (log ++ [.response msg outcome]) := by
  refine h.settled.append (fun req ans us hmem => by cases List.mem_singleton.1 hmem) ?_
  exact each_singleton.2 (h.inOrder_response hm fun hf => absurd hf hno)

/-- A failure with another URL left: the event is sent to it. -/
theorem Tracked.retry (h : Tracked ctx sid d log) {i : Nat} {outcome : NotifyOutcome}
    {next : Cursor Uri} (hm : d.pendingMessages[i]? = some msg) (hfail : OtherFailure outcome)
    (hnext : d.callbacks.next? = some next) (hturn : InTurn d log msg) :
    Tracked ctx sid (notifySubscriber msg.propertySet { d.without i with callbacks := next }).1
      (log ++ .response msg outcome ::
        (notifySubscriber msg.propertySet { d.without i with callbacks := next }).2) := by
  have hway := h.pending msg (List.mem_of_getElem? hm)
  have hsends := hturn.sends (by simp [hnext])
  have hlist := Cursor.toList_next hnext
  have hpos : next.pos = msg.position + 1 := by rw [Cursor.pos_next hnext, hturn.cursor]
  obtain ⟨hdelete, -⟩ | ⟨-, he⟩ :=
    notifySubscriber_cases msg.propertySet { d.without i with callbacks := next }
  · have hno : d.canDelete = true := hdelete
    rw [hsends] at hno
    cases hno
  · rw [he]
    have hne : ∀ m ∈ d.pendingMessages.eraseIdx i, m.propertySet.id ≠ msg.propertySet.id :=
      fun m hmem => h.ne_of_mem_eraseIdx hm hmem
    refine h.send hlist rfl (List.eraseIdx_sublist _ i) hne (fun id hid => ?_) ?_
      (hway.next hfail rfl hpos)
    · exact List.mem_singleton.1 hid
    · refine h.settled.append (fun req ans us hmem => by simp at hmem) (each_cons.2 ⟨?_, ?_⟩)
      · refine h.inOrder_response hm fun _ => .inr ⟨_, [], rfl, rfl, ?_⟩
        show ¬ SentAt log msg.propertySet.id next.pos
        rw [hpos]
        exact hway.not_sent_next
      · refine each_singleton.2 ?_
        show d.callbacks.toList[next.pos]? = some next.cur
        rw [← hlist]
        exact next.getElem?_pos

/-- A failure at the last URL: `notify-failed` is emitted. -/
theorem Tracked.settled_notifyFailed (h : Tracked ctx sid d log) {i : Nat} {outcome : NotifyOutcome}
    (hm : d.pendingMessages[i]? = some msg) (hfail : OtherFailure outcome)
    (hnext : d.callbacks.next? = none) (hturn : InTurn d log msg) (callbacks : List Uri)
    (error : NotifyError) : Settled ctx sid d.callbacks.toList
      (log ++ [.response msg outcome, .notifyFailed msg callbacks error]) := by
  have hway := h.pending msg (List.mem_of_getElem? hm)
  have hlast := Cursor.pos_of_next_none hnext
  refine h.settled.append (fun req ans us hmem => by simp at hmem) (each_cons.2 ⟨?_, ?_⟩)
  · exact h.inOrder_response hm fun _ => .inl ⟨callbacks, error, [], rfl⟩
  · refine each_singleton.2 fun k hk => ?_
    refine hway.failed_everywhere hfail hturn.started ?_
    rw [hturn.cursor]
    omega

theorem tracks_invariant (ctx : Context) (sid : Str) :
    LifeInvariant ctx sid FailsInTurn (Tracks ctx sid) where
  init := fun e he => by cases he
  create := fun {req ans callbacks log} src _ hg h => by
    refine ⟨⟨fun {req' ans' us} hm hg' => ?_, failsOver_of_answers fun e he => ?_⟩,
      List.nodup_nil, fun m hm => by cases hm⟩
    · rcases List.mem_append.1 hm with hm | hm
      · obtain ⟨req₀, ans₀, he, hr⟩ := h _ hm
        cases he
        exact absurd hg' (not_grants hr)
      · cases List.mem_singleton.1 hm
        exact hg'.urls_eq hg
    · rcases List.mem_append.1 he with he | he
      · obtain ⟨req₀, ans₀, rfl, -⟩ := h e he
        exact ⟨req₀, ans₀, rfl⟩
      · exact ⟨req, ans, List.mem_singleton.1 he⟩
  event := fun {d log propertySet} hfresh h => Tracked.event h hfresh
  response := fun {s i msg outcome d} ho hd hm h => by
    have h : Tracked ctx sid d (about sid s.log) := h
    obtain ⟨hc, he⟩ | ⟨hno, he⟩ | ⟨hno, he⟩ | ⟨hfail, next, hnext, he⟩ |
      ⟨hfail, hnext, error, he⟩ := notifyGotResponse_cases i msg outcome d
    · rw [he]
      refine h.keep rfl (List.Sublist.refl _) rfl (h.settled_response hm fun hf => ?_)
      rw [hc] at hf
      exact hf
    · rw [he]
      exact h.keep (Cursor.toList_first _) (List.eraseIdx_sublist _ i) rfl
        (h.settled_response hm hno)
    · rw [he]
      exact ⟨_, h.settled_response hm hno⟩
    · rw [he]
      exact h.retry hm hfail hnext (ho hfail d msg hd hm)
    · rw [he]
      exact h.keep (Cursor.toList_first _) (List.eraseIdx_sublist _ i) rfl
        (h.settled_notifyFailed hm hfail hnext (ho hfail d msg hd hm) _ error)
  renew := fun {req d log} src ha _ h =>
    h.keep rfl (List.Sublist.refl _) rfl (h.settled.answer ha.sid _)
  unsubscribe := fun {s req query d} _ ha _ _ h => by
    have h : Tracked ctx sid d (about sid s.log) := h
    split
    · exact ⟨_, h.settled.answer ha.sid _⟩
    · exact h.keep rfl (List.Sublist.refl _) rfl (h.settled.answer ha.sid _)
  reject := fun {req ans life log} hr _ _ h => by
    cases life with
    | unborn =>
      intro e he
      rcases List.mem_append.1 he with he | he
      · exact h e he
      · exact ⟨req, ans, List.mem_singleton.1 he, hr⟩
    | alive d => exact Tracked.keep h rfl (List.Sublist.refl _) rfl (h.settled.answer hr ans)
    | dead =>
      obtain ⟨urls, hs⟩ := h
      exact ⟨urls, hs.answer hr ans⟩
  remove := fun {d log} h => ⟨_, Tracked.settled h⟩

/-- **Fail-over keeps its promise where every failure is handled in its turn**: for a subscription
created with the callback URLs `urls`. -/
theorem fails_over_in_turn {es : List Event} {s : ServiceState}
    (h : Run (step ctx) FailsInTurn .init es s) {req : SubscriptionRequest} {ans : Answer}
    (hg : Grants ctx sid req ans urls) (hm : Effect.answer req ans ∈ s.log) :
    FailsOver urls (about sid s.log) := by
  have htracks := lives_run (tracks_invariant ctx sid) h
  have habout : Effect.answer req ans ∈ about sid s.log := by
    refine List.mem_filter.2 ⟨hm, decide_eq_true ?_⟩
    rw [Effect.sid?, hg.unnamed, Option.none_or, hg.answer]
    rfl
  cases hlife : s.life ctx sid with
  | unborn =>
    rw [hlife] at htracks
    obtain ⟨req', ans', he, hr⟩ := htracks _ habout
    cases he
    exact absurd hg (not_grants hr)
  | alive d =>
    rw [hlife] at htracks
    have hs := Tracked.settled htracks
    rw [hs.granted habout hg]
    exact hs.failsOver
  | dead =>
    rw [hlife] at htracks
    obtain ⟨urls', hs⟩ := htracks
    rw [hs.granted habout hg]
    exact hs.failsOver

def sampleUrls : List Uri := ["http://10.0.0.2/a".toList, "http://10.0.0.3/b".toList]

theorem grants_sample : Grants sampleContext sampleSid sampleSubscribe
    (sampleContext.subscriptionAnswer sampleSid) sampleUrls :=
  ⟨rfl, rfl, rfl, _, rfl, by decide⟩

/-- The initial event fails at both URLs. -/
theorem fails_over_sample : ∃ s, Run (step sampleContext) FailsInTurn .init
    [.request sampleSubscribe sampleQuery, .response sampleSid 0 (.done none 500 "Error"),
      .response sampleSid 0 (.done none 500 "Error")] s ∧
    FailsOver sampleUrls (about sampleSid s.log) := by
  have hrun : Run (step sampleContext) FailsInTurn .init
      [.request sampleSubscribe sampleQuery, .response sampleSid 0 (.done none 500 "Error"),
        .response sampleSid 0 (.done none 500 "Error")] _ :=
    .cons trivial rfl (.cons (failsInTurn_response rfl rfl (by decide)) rfl
      (.single (failsInTurn_response rfl rfl (by decide)) rfl))
  exact ⟨_, hrun, fails_over_in_turn hrun grants_sample (by decide)⟩

/-- With two events in flight, `notify-failed` is emitted for the second one although it was sent to
the first URL only: the failure of the initial event moved the cursor to the last URL. -/
theorem two_events_in_flight : ¬ ∀ (ctx : Context) (sid : Str) (es : List Event) (s : ServiceState)
    (req : SubscriptionRequest) (ans : Answer) (urls : List Uri),
    Run (step ctx) AnyStep .init es s → Grants ctx sid req ans urls →
      Effect.answer req ans ∈ s.log → FailsOver urls (about sid s.log) := by
  intro h
  have heval : ([Event.request sampleSubscribe sampleQuery, .notifyValue "Status".toList "1".toList,
      .response sampleSid 1 (.done none 500 "Error"),
      .response sampleSid 1 (.done none 500 "Error")].foldlM (step sampleContext) .init).map
        (fun s => decide (Effect.answer sampleSubscribe
            (sampleContext.subscriptionAnswer sampleSid) ∈ s.log ∧
          ¬ FailsOver sampleUrls (about sampleSid s.log))) = some true := by decide
  obtain ⟨s, hrun, hs⟩ := Run.exists_of_foldlM heval
  obtain ⟨hm, hno⟩ := of_decide_eq_true hs
  exact hno (h sampleContext sampleSid _ s _ _ _ hrun grants_sample hm)

end GUPnP.Service
