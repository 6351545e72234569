import GUPnP.ServiceProxy.Proof.Delivery

/-!
# The SUBSCRIBE response and the first events

A service may send its first events before the response to the SUBSCRIBE is processed.
`emitNotifications` delays emission while the proxy waits for its SID, but `serverHandler` drops what
arrives then, although it answers 200. `FirstEvents` is a run that starts with one SUBSCRIBE in
flight and in which the response is processed after the events `early` and before the events `late`.
`first_events_order_independent_iff`: every notification answered with 200 is dispatched exactly
once, with the outcome of the runs in which the response comes first, if and only if no notification
is among the early events and none stands at or behind a missed event.
-/

set_option autoImplicit false

namespace GUPnP.ServiceProxy

variable {info : Info} {sid : Str} {resp : Response} {rand : Int → Int → Int}

/-- The notifications answered with 200. -/
def acknowledged (log : List Effect) : List EmitNotifyData :=
  log.filterMap fun
    | .answer req status => if status = .ok then accepted req else none
    | _ => none

/-- A subscribed proxy with one initial SUBSCRIBE in flight. -/
structure InProgress (info : Info) (s : Proxy) : Prop where
  subscribed : s.subscribed = true
  noSid : s.sid = none
  listening : s.listening = true
  inFlight : ∃ url, info.subscriptionUrl = some url ∧ s.inFlight = [info.subscribeMsg url]

/-- `resp` grants `sid`. -/
def Grants (resp : Response) (sid : Str) : Prop :=
  ∃ status reason timeout, resp = .http status reason (some sid) timeout ∧
    isSuccessful status = true

/-- A run in which the SUBSCRIBE in flight is answered between `early` and `late`, and which leaves
nothing pending. -/
structure FirstEvents (info : Info) (sid : Str) (resp : Response) (rand : Int → Int → Int)
    (s : Proxy) (early late : List Event) (t : Proxy) : Prop where
  events : ∀ e ∈ early ++ late, ForSid sid e
  run : Run (step info) AnyStep s (early ++ .response 0 resp rand :: late) t
  settled : t.pendingNotifies = []

/-- Every notification answered with 200 since `s` was dispatched, once and in order, after those
that were pending in `s`. -/
def AcknowledgedDispatched (sid : Str) (s t : Proxy) : Prop :=
  ∃ new, acknowledged t.log = acknowledged s.log ++ new ∧
    dispatched t.log = dispatched s.log ++ own sid s.pendingNotifies ++ new

/-- The run to `t` dispatches every notification it answers with 200, and has the outcome of every
run with the same notifications in which the response is processed first. -/
structure OrderIndependent (info : Info) (sid : Str) (resp : Response) (rand : Int → Int → Int)
    (s : Proxy) (early late : List Event) (t : Proxy) : Prop where
  dispatched : AcknowledgedDispatched sid s t
  outcome : ∀ late' t', FirstEvents info sid resp rand s [] late' t' →
    received late' = received (early ++ late) → outcome t = outcome t'

/-- No notification with the SID stands at or behind a missed event. -/
def NothingMissed (sid : Str) (c : UInt32) (q : List EmitNotifyData) : Prop :=
  own sid (deliverable c q) = own sid q

/-! ## Acknowledgements -/

theorem acknowledged_append (l l' : List Effect) :
    acknowledged (l ++ l') = acknowledged l ++ acknowledged l' := List.filterMap_append

theorem acknowledged_scanLog (sid : Str) (c : UInt32) (q : List EmitNotifyData) :
    acknowledged (scanLog sid c q) = [] := by
  refine List.filterMap_eq_nil_iff.2 fun e he => ?_
  obtain ⟨n, c, rfl⟩ | ⟨n, rfl⟩ := mem_scanLog he <;> rfl

/-- A property set is acknowledged, whether it is queued or dropped. -/
theorem acknowledged_serverHandler (req : NotifyRequest) (s : Proxy) :
    acknowledged (serverHandler req s).log = acknowledged s.log ++ (accepted req).toList := by
  cases ha : accepted req with
  | none =>
    obtain ⟨status, he⟩ := serverHandler_ignore ha s
    rw [he, record_log, acknowledged_append]
    simp [acknowledged, ha]
  | some n =>
    have hlog : (serverHandler req s).log = s.log ++ [.answer req .ok] := by
      by_cases hs : s.sid = none
      · rw [serverHandler_drop ha hs, record_log]
      · rw [serverHandler_queue ha hs, record_log]
    rw [hlog, acknowledged_append]
    simp [acknowledged, ha]

/-- The proxy is subscribed and its handler is registered. -/
structure Listens (s : Proxy) : Prop where
  subscribed : s.subscribed = true
  listening : s.listening = true

/-- An idle dispatch acknowledges nothing, and where there is a URL the proxy keeps listening. -/
theorem acknowledged_emitNotifications {url : Str} (hu : info.subscriptionUrl = some url)
    {s : Proxy} (h : Listens s) :
    Listens (emitNotifications info passive s) ∧
      acknowledged (emitNotifications info passive s).log = acknowledged s.log := by
  cases hsid : s.sid with
  | none =>
    rw [emitNotifications_delayed ⟨hsid, h.subscribed⟩]
    exact ⟨h, rfl⟩
  | some sid =>
    rw [emitNotifications_eq (by rw [hsid]; simp), (emitLoop_passive info _ hsid).1]
    have hack : acknowledged (s.log ++ scanLog sid s.seq s.pendingNotifies) = acknowledged s.log := by
      rw [acknowledged_append, acknowledged_scanLog, List.append_nil]
    split
    · rw [subscribe_some info _ hu]
      refine ⟨⟨?_, rfl⟩, ?_⟩
      · simp [h.subscribed]
      · simp only [send_log, unsubscribe_log, acknowledged_append, hack, hu, hsid]
        simp [acknowledged]
    · exact ⟨⟨h.subscribed, h.listening⟩, hack⟩

theorem acknowledged_step {url : Str} (hu : info.subscriptionUrl = some url) {s t : Proxy}
    {e : Event} (h : Listens s) (ho : ForSid sid e) (he : step info s e = some t) :
    Listens t ∧ acknowledged t.log = acknowledged s.log ++ received [e] := by
  cases e with
  | notify req =>
    obtain ⟨hl, -⟩ | ⟨-, rfl⟩ := notify_step he
    · rw [h.listening] at hl
      cases hl
    · refine ⟨⟨?_, (serverHandler_listening req s).trans h.listening⟩, ?_⟩
      · rw [serverHandler_subscribed, h.subscribed]
      · rw [acknowledged_serverHandler, received_notify]
  | idle cb =>
    obtain rfl : cb = passive := ho
    obtain ⟨-, rfl⟩ := idle_step he
    obtain ⟨hl, hack⟩ := acknowledged_emitNotifications hu h
    exact ⟨hl, by simpa [received] using hack⟩
  | setSubscribed b => exact ho.elim
  | expire => exact ho.elim
  | response i resp rand => exact ho.elim

theorem acknowledged_run {url : Str} (hu : info.subscriptionUrl = some url) {s t : Proxy}
    {es : List Event} (h : Listens s) (hr : Run (step info) (fun _ e => ForSid sid e) s es t) :
    Listens t ∧ acknowledged t.log = acknowledged s.log ++ received es := by
  refine hr.history (fun es t => Listens t ∧ acknowledged t.log = acknowledged s.log ++ received es)
    ?_ ⟨h, by simp [received]⟩
  intro es t e u hI ho he
  obtain ⟨hl, hack⟩ := acknowledged_step hu hI.1 ho he
  refine ⟨hl, ?_⟩
  rw [hack, hI.2, received_append, List.append_assoc]

/-! ## Before the response -/

/-- While the response is outstanding only the log changes, and only by answers. -/
structure Waiting (s t : Proxy) : Prop where
  state : ∃ log, t = { s with log := log }
  outcome : outcome t = outcome s

theorem waiting_step {s t u : Proxy} {e : Event} (h0 : InProgress info s) (h : Waiting s t)
    (ho : ForSid sid e) (he : step info t e = some u) : Waiting s u := by
  obtain ⟨⟨log, rfl⟩, hout⟩ := h
  cases e with
  | notify req =>
    rcases notify_step he with ⟨-, rfl⟩ | ⟨-, rfl⟩
    · exact ⟨⟨log, rfl⟩, hout⟩
    · -- There is no SID, so the request is answered and nothing else.
      obtain ⟨n, -, -, hsid, -⟩ | ⟨status, hq⟩ := serverHandler_cases req { s with log := log }
      · exact absurd h0.noSid hsid
      · rw [hq]
        refine ⟨⟨_, rfl⟩, ?_⟩
        simpa [ServiceProxy.outcome, dispatched, subscribesSent] using hout
  | idle cb =>
    obtain ⟨-, rfl⟩ := idle_step he
    rw [emitNotifications_delayed (s := { s with log := log }) ⟨h0.noSid, h0.subscribed⟩]
    exact ⟨⟨log, rfl⟩, hout⟩
  | setSubscribed b => exact ho.elim
  | expire => exact ho.elim
  | response i resp rand => exact ho.elim

theorem waiting_run {s t : Proxy} {es : List Event} (h0 : InProgress info s)
    (h : Run (step info) (fun _ e => ForSid sid e) s es t) : Waiting s t :=
  h.inv (Waiting s) (fun _ _ _ hI ho he => waiting_step h0 hI ho he) ⟨⟨s.log, rfl⟩, rfl⟩

/-! ## The response -/

/-- A response that grants `sid` starts the subscription with the counter and the pending
notifications as they are. -/
theorem response_grants {s t : Proxy} (hsub : s.subscribed = true) (hg : Grants resp sid) {i : Nat}
    (he : step info s (.response i resp rand) = some t) :
    t.sid = some sid ∧ (Listens s → Listens t) ∧ t.pendingNotifies = s.pendingNotifies ∧
      outcome t = outcome s ∧ acknowledged t.log = acknowledged s.log := by
  obtain ⟨msg, -, rfl⟩ := response_step he
  obtain ⟨status, reason, timeout, rfl, hok⟩ := hg
  obtain ⟨hs, -⟩ | ⟨-, g, -, hg, hx⟩ | ⟨-, hno, -⟩ := http_cases rand status reason (some sid) timeout
    (s.receive i msg (.http status reason (some sid) timeout))
  · rw [receive_subscribed, hsub] at hs
    cases hs
  · obtain rfl := Option.some.inj hg
    rw [hx]
    refine ⟨rfl, fun h => ⟨h.subscribed, h.listening⟩, rfl, ?_, ?_⟩
    · simp [outcome, dispatched, subscribesSent]
    · simp [acknowledged]
  · exact absurd ⟨hok, by simp⟩ hno

/-! ## Runs -/

theorem received_of_ForSid {es : List Event} (h : ∀ e ∈ es, ForSid sid e) :
    own sid (received es) = received es := by
  refine own_eq_self fun n hn => ?_
  obtain ⟨req, hreq, ha⟩ := mem_received hn
  exact h _ hreq n ha

/-- What a run amounts to: the notifications after the response are processed from the state the
run started in, those before it leave no trace but their answers. -/
theorem firstEvents_progress {s t : Proxy} {early late : List Event} (h0 : InProgress info s)
    (hg : Grants resp sid) (h : FirstEvents info sid resp rand s early late t) :
    ∃ u, outcome u = outcome s ∧
      Progress info sid u (s.pendingNotifies ++ received late) t ∧
      acknowledged t.log = acknowledged s.log ++ (received early ++ received late) := by
  obtain ⟨url, hu, -⟩ := h0.inFlight
  obtain ⟨v, hearly, hrest⟩ := h.run.split
  obtain ⟨u, -, he, hlate⟩ := hrest.cons_inv
  have hearly := hearly.mono_mem fun e he => h.events e (List.mem_append_left _ he)
  have hlate := hlate.mono_mem fun e he => h.events e (List.mem_append_right _ he)
  have hwait := waiting_run h0 hearly
  obtain ⟨hlv, hackv⟩ := acknowledged_run hu ⟨h0.subscribed, h0.listening⟩ hearly
  obtain ⟨hsid, hlis, hp, hout, hack⟩ := response_grants hlv.subscribed hg he
  obtain ⟨-, hackt⟩ := acknowledged_run hu (hlis hlv) hlate
  have hpend : u.pendingNotifies = s.pendingNotifies := by
    obtain ⟨log, rfl⟩ := hwait.state
    exact hp
  refine ⟨u, hout.trans hwait.outcome, ?_, ?_⟩
  · rw [← hpend]
    exact progress_run hsid (hlis hlv).listening hlate
  · rw [hackt, hack, hackv, List.append_assoc]

theorem deliverable_sublist (c : UInt32) (q : List EmitNotifyData) :
    (deliverable c q).Sublist q := by
  induction q generalizing c with
  | nil => exact List.Sublist.refl _
  | cons n q ih =>
    rw [deliverable]
    split
    · exact List.nil_sublist _
    · exact (ih (nextSeq c)).cons_cons n

/-- What a run dispatches is what it acknowledges exactly when nothing arrived early and nothing was
missed. -/
theorem acknowledgedDispatched_iff {s t : Proxy} {early late : List Event}
    (h0 : InProgress info s) (hg : Grants resp sid)
    (h : FirstEvents info sid resp rand s early late t) :
    AcknowledgedDispatched sid s t ↔
      received early = [] ∧ NothingMissed sid s.seq (s.pendingNotifies ++ received late) := by
  obtain ⟨u, hu, hP, hack⟩ := firstEvents_progress h0 hg h
  have hd := hP.dispatched_eq h.settled
  simp only [outcome, Prod.mk.injEq] at hu
  rw [hu.1, hu.2.1] at hd
  have hown : own sid (s.pendingNotifies ++ received late) =
      own sid s.pendingNotifies ++ received late := by
    rw [own_append, received_of_ForSid fun e he => h.events e (List.mem_append_right _ he)]
  constructor
  · rintro ⟨new, hnew, hdisp⟩
    rw [hack] at hnew
    obtain rfl := List.append_cancel_left hnew
    rw [hd, List.append_assoc] at hdisp
    have heq := List.append_cancel_left hdisp
    -- The early notifications would have to be among those dispatched.
    have hle : (own sid (deliverable s.seq (s.pendingNotifies ++ received late))).length ≤
        (own sid (s.pendingNotifies ++ received late)).length :=
      ((deliverable_sublist _ _).filter _).length_le
    rw [heq, hown] at hle
    simp only [List.length_append] at hle
    have hearly : received early = [] := List.length_eq_zero_iff.1 (by omega)
    refine ⟨hearly, ?_⟩
    rw [NothingMissed, heq, hown, hearly, List.nil_append]
  · rintro ⟨hearly, hmiss⟩
    refine ⟨received late, ?_, ?_⟩
    · rw [hack, hearly, List.nil_append]
    · rw [hd, hmiss, hown, List.append_assoc]

/-- **Order independence** of the response and the first events. -/
theorem first_events_order_independent_iff {s t : Proxy} {early late : List Event}
    (h0 : InProgress info s) (hg : Grants resp sid)
    (h : FirstEvents info sid resp rand s early late t) :
    OrderIndependent info sid resp rand s early late t ↔
      received early = [] ∧ NothingMissed sid s.seq (s.pendingNotifies ++ received late) := by
  constructor
  · intro hO
    exact (acknowledgedDispatched_iff h0 hg h).1 hO.dispatched
  · intro hc
    refine ⟨(acknowledgedDispatched_iff h0 hg h).2 hc, fun late' t' h' hsame => ?_⟩
    obtain ⟨u, hu, hP, -⟩ := firstEvents_progress h0 hg h
    obtain ⟨u', hu', hP', -⟩ := firstEvents_progress h0 hg h'
    rw [hsame, received_append, hc.1, List.nil_append] at hP'
    exact hP.outcome_eq hP' (hu.trans hu'.symm) h.settled h'.settled

/-- The first event arrives before the response: it is acknowledged and lost. -/
theorem first_event_lost : ∃ t, InProgress sampleInfo sampleInProgress ∧
    FirstEvents sampleInfo sampleSid (grant sampleSid) leastJitter sampleInProgress
      [.notify (sampleNotify sampleSid 0)] [] t ∧
    ¬ OrderIndependent sampleInfo sampleSid (grant sampleSid) leastJitter sampleInProgress
      [.notify (sampleNotify sampleSid 0)] [] t := by
  have heval : (List.foldlM (step sampleInfo) sampleInProgress
      [.notify (sampleNotify sampleSid 0), .response 0 (grant sampleSid) leastJitter]).map
        (fun t => (t.pendingNotifies, (acknowledged t.log).length, dispatched t.log)) =
      some ([], 1, []) := by
    decide
  obtain ⟨t, hrun, ht⟩ := Run.exists_of_foldlM heval
  simp only [Prod.mk.injEq] at ht
  obtain ⟨hp, hack, hdisp⟩ := ht
  refine ⟨t, ⟨rfl, rfl, rfl, _, rfl, rfl⟩, ⟨?_, hrun, hp⟩, fun h => ?_⟩
  · intro e he
    obtain rfl := List.mem_singleton.1 he
    exact forSid_notify rfl
  · obtain ⟨new, ha, hd⟩ := h.dispatched
    obtain rfl : new = [] := by
      simp only [hdisp] at hd
      exact (List.append_eq_nil_iff.1 hd.symm).2
    rw [List.append_nil] at ha
    rw [ha] at hack
    revert hack
    decide

theorem first_event_dispatched : ∃ t, dispatched t.log ≠ [] ∧
    FirstEvents sampleInfo sampleSid (grant sampleSid) leastJitter sampleInProgress
      [] [.notify (sampleNotify sampleSid 0), .idle passive] t ∧
    OrderIndependent sampleInfo sampleSid (grant sampleSid) leastJitter sampleInProgress
      [] [.notify (sampleNotify sampleSid 0), .idle passive] t := by
  have heval : (List.foldlM (step sampleInfo) sampleInProgress
      [.response 0 (grant sampleSid) leastJitter, .notify (sampleNotify sampleSid 0),
        .idle passive]).map (fun t => (t.pendingNotifies, (dispatched t.log).length)) =
      some ([], 1) := by
    decide
  obtain ⟨t, hrun, ht⟩ := Run.exists_of_foldlM heval
  simp only [Prod.mk.injEq] at ht
  have h : FirstEvents sampleInfo sampleSid (grant sampleSid) leastJitter sampleInProgress
      [] [.notify (sampleNotify sampleSid 0), .idle passive] t := by
    refine ⟨fun e he => ?_, hrun, ht.1⟩
    simp only [List.nil_append, List.mem_cons, List.not_mem_nil, or_false] at he
    rcases he with rfl | rfl
    · exact forSid_notify rfl
    · rfl
  refine ⟨t, fun hc => by simp [hc] at ht, h, ?_⟩
  exact (first_events_order_independent_iff ⟨rfl, rfl, rfl, _, rfl, rfl⟩
    ⟨200, "OK", _, rfl, rfl⟩ h).2 ⟨rfl, by unfold NothingMissed; decide⟩

end GUPnP.ServiceProxy
