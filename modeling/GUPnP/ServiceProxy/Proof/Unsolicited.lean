import GUPnP.ServiceProxy.Proof.Reset
import GUPnP.ServiceProxy.Proof.Scan

/-!
# No unsolicited subscription

`NoUnsolicited`: every SUBSCRIBE was sent while the proxy was subscribed. The code breaks it in two
ways. The dispatch loop re-subscribes after a missed event without asking whether the subscription
is still wanted, and notifications queued before `unsubscribe` reset the counter look missed
afterwards. And an error of the session leaves the SID and the timer of a subscription that is no
longer wanted, whose renewal is then sent. `WantedOk` excludes the two; `no_unsolicited_subscribe`
proves the property of every run whose steps all satisfy it.
-/

set_option autoImplicit false

namespace GUPnP.ServiceProxy

variable {info : Info} {cb : Proxy → XmlDoc → List Bool}

def NoUnsolicited (s : Proxy) : Prop := ∀ w msg, Effect.subscribe w msg ∈ s.log → w = true

/-- The calls of the notify callbacks for the document may leave the proxy unsubscribed. -/
def MayEndUnsubscribed (cb : Proxy → XmlDoc → List Bool) (doc : XmlDoc) : Prop :=
  ∃ s, (cb s doc).getLast? = some false

/-- The condition on a step, in the state before it: an error of the session is received only while
no SID is held; and the notifications dispatched while the proxy is not subscribed, from the start
or because callbacks left it unsubscribed, show no missed event. -/
def WantedOk (s : Proxy) : Event → Prop
  | .response _ (.error _) _ => s.sid = none
  | .idle cb =>
    (s.subscribed = false → InStep s.seq s.pendingNotifies) ∧
      ∀ a m b, s.pendingNotifies = a ++ m :: b → MayEndUnsubscribed cb m.doc → InStep 0 b
  | _ => True

/-! ## The invariant -/

structure Wanted (s : Proxy) : Prop where
  sid : s.sid ≠ none → s.subscribed = true
  timer : s.subscriptionTimeoutSrc ≠ none → s.sid ≠ none
  log : NoUnsolicited s

theorem noUnsolicited_append {s : Proxy} {l : List Effect} (h : NoUnsolicited s)
    (hl : ∀ w msg, Effect.subscribe w msg ∈ l → w = true) :
    ∀ w msg, Effect.subscribe w msg ∈ s.log ++ l → w = true := by
  intro w msg hm
  rcases List.mem_append.1 hm with hm | hm
  · exact h w msg hm
  · exact hl w msg hm

theorem Wanted.record {s : Proxy} (h : Wanted s) {e : Effect}
    (he : ∀ w msg, e ≠ .subscribe w msg) : Wanted (s.record e) := by
  refine ⟨h.sid, h.timer, noUnsolicited_append h.log fun w msg hm => ?_⟩
  exact absurd (List.mem_singleton.1 hm).symm (he w msg)

theorem Wanted.sid_none {s : Proxy} (h : Wanted s) (hs : s.subscribed = false) : s.sid = none := by
  apply Classical.byContradiction
  intro hc
  rw [h.sid hc] at hs
  cases hs

theorem Wanted.timer_none {s : Proxy} (h : Wanted s) (hs : s.sid = none) :
    s.subscriptionTimeoutSrc = none := by
  apply Classical.byContradiction
  intro hc
  exact h.timer hc hs

theorem wanted_init : Wanted Proxy.init :=
  ⟨fun h => absurd rfl h, fun h => absurd rfl h, fun _ _ h => by cases h⟩

theorem wanted_unsubscribe {s : Proxy} (h : NoUnsolicited s) : Wanted (unsubscribe info s) := by
  refine ⟨fun hs => absurd (unsubscribe_sid info s) hs, fun ht => absurd rfl ht, ?_⟩
  unfold NoUnsolicited
  rw [unsubscribe_log]
  refine noUnsolicited_append h fun w msg hm => ?_
  split at hm
  · obtain ⟨_, -, he⟩ := List.mem_map.1 hm
    cases he
  · cases hm

/-- `subscribe` keeps the invariant where the subscription is wanted. -/
theorem wanted_subscribe (info : Info) {s : Proxy} (hsid : s.sid = none) (hsub : s.subscribed = true)
    (h : NoUnsolicited s) : Wanted (subscribe info s) := by
  refine ⟨fun hs => absurd hsid (by simpa using hs), fun ht => absurd (subscribe_timer info s) ht, ?_⟩
  unfold NoUnsolicited
  cases hu : info.subscriptionUrl with
  | none =>
    rw [subscribe_none info s hu]
    simp only [record_log, List.append_assoc]
    refine noUnsolicited_append h fun w msg hm => ?_
    simp at hm
  | some url =>
    rw [subscribe_some info s hu]
    simp only [send_log]
    refine noUnsolicited_append h fun w msg hm => ?_
    simp only [List.mem_singleton, Effect.subscribe.injEq] at hm
    rw [hm.1]
    exact hsub

theorem wanted_setSubscribed {s : Proxy} (h : Wanted s) (b : Bool) :
    Wanted (setSubscribed info b s) := by
  obtain ⟨-, he⟩ | ⟨-, hs, he⟩ | ⟨-, -, he⟩ := setSubscribed_cases info b s
  · rwa [he]
  · rw [he]
    refine Wanted.record ?_ (by simp)
    exact wanted_subscribe info (s := { s with subscribed := true }) (h.sid_none hs) rfl h.log
  · rw [he]
    refine Wanted.record ?_ (by simp)
    exact wanted_unsubscribe (s := { s with subscribed := false }) h.log

theorem wanted_hdrErr {s : Proxy} (hsid : s.sid = none) (ht : s.subscriptionTimeoutSrc = none)
    (h : NoUnsolicited s) (e : LostError) : Wanted (hdrErr e s) := by
  refine ⟨fun hs => absurd hsid hs, fun hc => absurd ht hc, ?_⟩
  unfold NoUnsolicited
  simp only [hdrErr, record_log, List.append_assoc]
  refine noUnsolicited_append h fun w msg hm => ?_
  simp at hm

theorem wanted_response {s : Proxy} (h : Wanted s) {i : Nat} {resp : Response}
    {rand : Int → Int → Int} (ho : WantedOk s (.response i resp rand)) :
    Wanted (subscribeGotResponse rand resp s) := by
  cases resp with
  | cancelled => exact h
  | error message => exact wanted_hdrErr ho (h.timer_none ho) h.log _
  | http status reason sid timeout =>
    obtain ⟨hs, he⟩ | ⟨hs, g, -, -, he⟩ | ⟨hs, -, e, he⟩ :=
      http_cases rand status reason sid timeout s
    · rw [he]
      exact ⟨h.sid, fun hc => absurd rfl hc, h.log⟩
    · rw [he]
      exact ⟨fun _ => hs, fun _ => by simp, h.log⟩
    · rw [he]
      exact wanted_hdrErr (s := { s with subscriptionTimeoutSrc := none, sid := none }) rfl rfl
        h.log e

/-! ## Without a subscription URL -/

/-- A proxy whose service has no usable subscription URL never has a SUBSCRIBE in flight. -/
def NothingSent (info : Info) (s : Proxy) : Prop :=
  info.subscriptionUrl = none → s.inFlight = [] ∧ s.sid = none

theorem nothingSent_subscribe {s : Proxy} (h : NothingSent info s) :
    NothingSent info (subscribe info s) := by
  intro hu
  obtain ⟨hf, hs⟩ := h hu
  rw [subscribe_inFlight, subscribe_sid, hu, hf]
  exact ⟨rfl, hs⟩

theorem nothingSent_unsubscribe {s : Proxy} (h : NothingSent info s) :
    NothingSent info (unsubscribe info s) := by
  intro hu
  rw [unsubscribe_inFlight]
  exact ⟨(h hu).1, unsubscribe_sid info s⟩

theorem nothingSent_setSubscribed {s : Proxy} (h : NothingSent info s) (b : Bool) :
    NothingSent info (setSubscribed info b s) := by
  obtain ⟨-, he⟩ | ⟨-, -, he⟩ | ⟨-, -, he⟩ := setSubscribed_cases info b s
  · rwa [he]
  · rw [he]
    exact nothingSent_subscribe (s := { s with subscribed := true }) h
  · rw [he]
    exact nothingSent_unsubscribe (s := { s with subscribed := false }) h

theorem nothingSent_emitStep (n : EmitNotifyData) {s : Proxy} (h : NothingSent info s) :
    NothingSent info (emitStep info cb n s) :=
  emitStep_inv info cb (NothingSent info) (fun _ b h => nothingSent_setSubscribed h b) h h

theorem nothingSent_emitNotifications {s : Proxy} (h : NothingSent info s) :
    NothingSent info (emitNotifications info cb s) := by
  by_cases hd : s.sid = none ∧ s.subscribed = true
  · rwa [emitNotifications_delayed hd]
  · rw [emitNotifications_eq hd]
    obtain ⟨hr, hI⟩ | ⟨hr, n, rest, -, -, hI⟩ := emitLoop_inv info cb (fun _ => NothingSent info)
      (fun _ _ _ h => h) (fun n _ s h _ => nothingSent_emitStep n h) s.pendingNotifies s h
    · rw [hr]; exact hI
    · rw [hr]
      exact nothingSent_subscribe (nothingSent_unsubscribe
        (s := { (emitLoop info cb s.pendingNotifies s).1 with pendingNotifies := [] }) hI)

theorem nothingSent_step {s t : Proxy} {e : Event} (h : NothingSent info s)
    (he : step info s e = some t) : NothingSent info t := by
  cases e with
  | setSubscribed b =>
    obtain rfl := Option.some.inj he
    exact nothingSent_setSubscribed h b
  | notify req =>
    rcases notify_step he with ⟨-, rfl⟩ | ⟨-, rfl⟩
    · exact h
    · obtain ⟨n, -, -, -, hq⟩ | ⟨status, hq⟩ := serverHandler_cases req s <;> rw [hq] <;> exact h
  | idle cb =>
    obtain ⟨-, rfl⟩ := idle_step he
    exact nothingSent_emitNotifications h
  | expire =>
    obtain ⟨-, rfl⟩ := expire_step he
    obtain ⟨_, _, -, hu, hx⟩ | ⟨-, hx⟩ := subscriptionExpire_cases info s <;> rw [hx]
    · intro hu'
      rw [hu] at hu'
      cases hu'
    · exact h
  | response i resp rand =>
    obtain ⟨msg, hm, rfl⟩ := response_step he
    intro hu
    rw [(h hu).1] at hm
    cases hm

/-! ## The dispatch loop -/

theorem setSubscribed_subscribed {url : Str} (hu : info.subscriptionUrl = some url) (b : Bool)
    (s : Proxy) : (setSubscribed info b s).subscribed = b := by
  obtain ⟨h, he⟩ | ⟨rfl, -, he⟩ | ⟨rfl, -, he⟩ := setSubscribed_cases info b s
  · rw [he, h]
  · rw [he, record_subscribed, subscribe_subscribed, hu]
    rfl
  · rw [he, record_subscribed, unsubscribe_subscribed]

theorem foldl_setSubscribed_last {url : Str} (hu : info.subscriptionUrl = some url)
    {calls : List Bool} {s : Proxy} (hsub : s.subscribed = true)
    (h : (calls.foldl (fun s b => setSubscribed info b s) s).subscribed = false) :
    calls.getLast? = some false := by
  rcases List.eq_nil_or_concat' calls with rfl | ⟨calls, b, rfl⟩
  · rw [List.foldl_nil, hsub] at h
    cases h
  · rw [List.foldl_append, List.foldl_cons, List.foldl_nil, setSubscribed_subscribed hu] at h
    rw [List.getLast?_concat, h]

theorem emitNotificationsForDoc_last {url : Str} (hu : info.subscriptionUrl = some url)
    {n : EmitNotifyData} {s : Proxy} (hsub : s.subscribed = true)
    (h : (emitNotificationsForDoc info cb n s).subscribed = false) :
    MayEndUnsubscribed cb n.doc :=
  ⟨s, foldl_setSubscribed_last hu (s := s.record (.dispatch n)) hsub h⟩

/-- The loop's invariant: while the proxy is not subscribed, no event is missed. -/
structure LoopWanted (info : Info) (cb : Proxy → XmlDoc → List Bool) (rest : List EmitNotifyData)
    (s : Proxy) : Prop where
  wanted : Wanted s
  sent : NothingSent info s
  inStep : s.subscribed = false → InStep s.seq rest
  quiet : ∀ a m b, rest = a ++ m :: b → MayEndUnsubscribed cb m.doc → InStep 0 b

theorem loopWanted_step {n : EmitNotifyData} {rest : List EmitNotifyData} {s : Proxy}
    (h : LoopWanted info cb (n :: rest) s) : LoopWanted info cb rest (emitStep info cb n s) := by
  have hquiet : ∀ a m b, rest = a ++ m :: b → MayEndUnsubscribed cb m.doc → InStep 0 b :=
    fun a m b hab => h.quiet (n :: a) m b (by rw [hab]; rfl)
  have hcount : Wanted { s with seq := nextSeq s.seq } := ⟨h.wanted.sid, h.wanted.timer, h.wanted.log⟩
  have hw : Wanted (emitStep info cb n s) :=
    emitStep_inv info cb Wanted (fun s b h => wanted_setSubscribed h b) hcount
      (hcount.record (by simp))
  refine ⟨hw, nothingSent_emitStep n h.sent, fun hs => ?_, hquiet⟩
  by_cases hsid : s.sid = some n.sid
  · rw [emitStep_own hsid] at hs ⊢
    have hne : s.sid ≠ none := by rw [hsid]; simp
    have hsub := h.wanted.sid hne
    obtain ⟨url, hu⟩ : ∃ url, info.subscriptionUrl = some url := by
      cases hu : info.subscriptionUrl with
      | none => exact absurd (h.sent hu).2 hne
      | some url => exact ⟨url, rfl⟩
    -- The last call was an unsubscription, after which the counter is 0.
    have hend : MayEndUnsubscribed cb n.doc :=
      emitNotificationsForDoc_last hu (s := { s with seq := nextSeq s.seq }) hsub hs
    have ht : Tied ({ s with seq := nextSeq s.seq }.record (.dispatch n)) :=
      ⟨fun hc => absurd hc hne, fun hc => by simp [hsub] at hc⟩
    have ht' := emitNotificationsForDoc_inv info cb Tied
      (fun s b h => tied_setSubscribed h b) (n := n) (s := { s with seq := nextSeq s.seq }) ht
    rw [(ht'.reset hs).2.1]
    exact h.quiet [] n rest rfl hend
  · rw [emitStep_other hsid] at hs ⊢
    exact (h.inStep hs).2

theorem wanted_emitNotifications {s : Proxy} (h : Wanted s) (hs : NothingSent info s)
    (ho : WantedOk s (.idle cb)) : Wanted (emitNotifications info cb s) := by
  by_cases hd : s.sid = none ∧ s.subscribed = true
  · rwa [emitNotifications_delayed hd]
  · rw [emitNotifications_eq hd]
    obtain ⟨hr, hI⟩ | ⟨hr, n, rest, -, hgap, hI⟩ := emitLoop_inv info cb (LoopWanted info cb)
      (fun n rest s h => ⟨h.wanted.record (by simp), h.sent, h.inStep, h.quiet⟩)
      (fun n rest s h _ => loopWanted_step h) s.pendingNotifies s ⟨h, hs, ho.1, ho.2⟩
    · rw [hr]
      exact ⟨hI.wanted.sid, hI.wanted.timer, hI.wanted.log⟩
    · rw [hr]
      have hsub : (emitLoop info cb s.pendingNotifies s).1.subscribed = true := by
        cases hc : (emitLoop info cb s.pendingNotifies s).1.subscribed with
        | true => rfl
        | false => exact absurd (UInt32.not_lt.2 (hI.inStep hc).1) (not_not_intro hgap)
      have hu : Wanted (unsubscribe info
          { (emitLoop info cb s.pendingNotifies s).1 with pendingNotifies := [] }) :=
        wanted_unsubscribe hI.wanted.log
      have hw := wanted_subscribe info (unsubscribe_sid info _)
        (by rw [unsubscribe_subscribed]; exact hsub) hu.log
      exact ⟨hw.sid, hw.timer, hw.log⟩

/-! ## Runs -/

theorem wanted_step {s t : Proxy} {e : Event} (h : Wanted s) (hs : NothingSent info s)
    (ho : WantedOk s e) (he : step info s e = some t) : Wanted t := by
  cases e with
  | setSubscribed b =>
    obtain rfl := Option.some.inj he
    exact wanted_setSubscribed h b
  | notify req =>
    rcases notify_step he with ⟨-, rfl⟩ | ⟨-, rfl⟩
    · exact h
    · obtain ⟨n, -, -, -, hq⟩ | ⟨status, hq⟩ := serverHandler_cases req s <;> rw [hq]
      · refine Wanted.record ?_ (by simp)
        exact ⟨h.sid, h.timer, h.log⟩
      · exact h.record (by simp)
  | idle cb =>
    obtain ⟨-, rfl⟩ := idle_step he
    exact wanted_emitNotifications h hs ho
  | expire =>
    obtain ⟨hfire, rfl⟩ := expire_step he
    obtain ⟨_, _, -, -, hx⟩ | ⟨-, hx⟩ := subscriptionExpire_cases info s <;> rw [hx]
    · refine ⟨h.sid, fun ht => absurd rfl ht, noUnsolicited_append h.log fun w msg hm => ?_⟩
      simp only [List.mem_singleton, Effect.subscribe.injEq] at hm
      rw [hm.1]
      exact h.sid (h.timer hfire)
    · exact ⟨h.sid, fun ht => absurd rfl ht, h.log⟩
  | response i resp rand =>
    obtain ⟨msg, -, rfl⟩ := response_step he
    have hr : Wanted (s.receive i msg resp) := by
      refine Wanted.record ?_ (by simp)
      exact ⟨h.sid, h.timer, h.log⟩
    have ho' : WantedOk (s.receive i msg resp) (.response i resp rand) := by
      cases resp <;> exact ho
    exact wanted_response hr ho'

/-- **No unsolicited subscription**, in every run whose steps all satisfy `WantedOk`. -/
theorem no_unsolicited_subscribe {es : List Event} {s : Proxy}
    (h : Run (step info) WantedOk Proxy.init es s) : NoUnsolicited s := by
  have hI := h.inv (fun s => Wanted s ∧ NothingSent info s)
    (fun _ _ _ hI ho he => ⟨wanted_step hI.1 hI.2 ho he, nothingSent_step hI.2 he⟩)
    ⟨wanted_init, fun _ => ⟨rfl, rfl⟩⟩
  exact hI.1.log

/-- A missed event makes a proxy that is subscribed subscribe again. -/
theorem no_unsolicited_sample : ∃ t, Run (step sampleInfo) WantedOk .init
    [.setSubscribed true, .response 0 (grant sampleSid) leastJitter,
      .notify (sampleNotify sampleSid 1), .idle passive] t ∧
    (subscribesSent t.log).length = 2 ∧ NoUnsolicited t := by
  have hidle : ∀ s, s.subscribed = true → WantedOk s (.idle passive) := by
    intro s hs
    refine ⟨fun h => ?_, fun a m b _ hm => ?_⟩
    · rw [hs] at h
      cases h
    · obtain ⟨_, hlast⟩ := hm
      cases hlast
  have h : Run (step sampleInfo) WantedOk .init
      [.setSubscribed true, .response 0 (grant sampleSid) leastJitter,
        .notify (sampleNotify sampleSid 1), .idle passive] _ :=
    .cons trivial rfl (.cons trivial rfl (.cons trivial rfl (.cons (hidle _ rfl) rfl .nil)))
  exact ⟨_, h, by decide, no_unsolicited_subscribe h⟩

/-- A notification dispatched after the user unsubscribed makes the proxy subscribe again. -/
theorem resubscribed_after_unsubscribe : ∃ t, Run (step sampleInfo) AnyStep .init
    [.setSubscribed true, .response 0 (grant sampleSid) leastJitter,
      .notify (sampleNotify sampleSid 0), .idle passive, .notify (sampleNotify sampleSid 1),
      .setSubscribed false, .idle passive] t ∧ ¬ NoUnsolicited t := by
  have heval : ([.setSubscribed true, .response 0 (grant sampleSid) leastJitter,
      .notify (sampleNotify sampleSid 0), .idle passive, .notify (sampleNotify sampleSid 1),
      .setSubscribed false, .idle passive].foldlM (step sampleInfo) .init).map
        (fun t => t.log.getLast?) =
      some (some (.subscribe false (sampleInfo.subscribeMsg "http://10.0.0.2/event".toList))) := by
    decide
  obtain ⟨t, hrun, ht⟩ := Run.exists_of_foldlM heval
  refine ⟨t, hrun, fun h => ?_⟩
  have hw := h _ _ (List.mem_of_getLast? ht)
  cases hw

end GUPnP.ServiceProxy
