import GUPnP.Base.Run
import GUPnP.Base.WrapCounter
import GUPnP.ServiceProxy.Model

/-!
# What the handlers of a proxy do

One lemma per field and handler (the simp set), the case analysis of `setSubscribed` and of a
step (`setSubscribed_cases`, `response_cases`), and the invariant rule of the dispatch loop
(`emitLoop_inv`): an invariant of the state and the notifications still to come, kept by the loop's
body, holds where the loop stops.
-/

set_option autoImplicit false

namespace GUPnP.ServiceProxy

variable {info : Info} {cb : Proxy → XmlDoc → List Bool}

/-! ## Fields -/

section
variable (s : Proxy) (e : Effect) (msg : SubscribeMsg)

@[simp] theorem record_subscribed : (s.record e).subscribed = s.subscribed := rfl
@[simp] theorem record_sid : (s.record e).sid = s.sid := rfl
@[simp] theorem record_timer : (s.record e).subscriptionTimeoutSrc = s.subscriptionTimeoutSrc := rfl
@[simp] theorem record_seq : (s.record e).seq = s.seq := rfl
@[simp] theorem record_pending : (s.record e).pendingNotifies = s.pendingNotifies := rfl
@[simp] theorem record_idle : (s.record e).notifyIdleSrc = s.notifyIdleSrc := rfl
@[simp] theorem record_listening : (s.record e).listening = s.listening := rfl
@[simp] theorem record_inFlight : (s.record e).inFlight = s.inFlight := rfl
@[simp] theorem record_log : (s.record e).log = s.log ++ [e] := rfl

@[simp] theorem receive_subscribed (i : Nat) (resp : Response) :
    (s.receive i msg resp).subscribed = s.subscribed := rfl
@[simp] theorem receive_sid (i : Nat) (resp : Response) : (s.receive i msg resp).sid = s.sid := rfl
@[simp] theorem receive_timer (i : Nat) (resp : Response) :
    (s.receive i msg resp).subscriptionTimeoutSrc = s.subscriptionTimeoutSrc := rfl
@[simp] theorem receive_seq (i : Nat) (resp : Response) : (s.receive i msg resp).seq = s.seq := rfl
@[simp] theorem receive_log (i : Nat) (resp : Response) :
    (s.receive i msg resp).log = s.log ++ [.response msg resp] := rfl

@[simp] theorem send_subscribed : (s.send msg).subscribed = s.subscribed := rfl
@[simp] theorem send_sid : (s.send msg).sid = s.sid := rfl
@[simp] theorem send_timer : (s.send msg).subscriptionTimeoutSrc = s.subscriptionTimeoutSrc := rfl
@[simp] theorem send_seq : (s.send msg).seq = s.seq := rfl
@[simp] theorem send_pending : (s.send msg).pendingNotifies = s.pendingNotifies := rfl
@[simp] theorem send_listening : (s.send msg).listening = s.listening := rfl
@[simp] theorem send_inFlight : (s.send msg).inFlight = s.inFlight ++ [msg] := rfl
@[simp] theorem send_log : (s.send msg).log = s.log ++ [.subscribe s.subscribed msg] := rfl

end

section
variable (info) (s : Proxy)

@[simp] theorem unsubscribe_subscribed : (unsubscribe info s).subscribed = s.subscribed := by
  unfold unsubscribe
  cases s.sid with
  | none => rfl
  | some sid => simp only; split <;> rfl

@[simp] theorem unsubscribe_sid : (unsubscribe info s).sid = none := by
  unfold unsubscribe
  cases s.sid with
  | none => simp
  | some sid => rfl

@[simp] theorem unsubscribe_timer : (unsubscribe info s).subscriptionTimeoutSrc = none := rfl

theorem unsubscribe_seq : (unsubscribe info s).seq = if s.sid = none then s.seq else 0 := by
  unfold unsubscribe
  cases h : s.sid <;> rfl

@[simp] theorem unsubscribe_pending :
    (unsubscribe info s).pendingNotifies = s.pendingNotifies := by
  unfold unsubscribe
  cases s.sid with
  | none => rfl
  | some sid => simp only; split <;> rfl

@[simp] theorem unsubscribe_inFlight : (unsubscribe info s).inFlight = s.inFlight := by
  unfold unsubscribe
  cases s.sid with
  | none => rfl
  | some sid => simp only; split <;> rfl

/-- `unsubscribe` names the SID it gives up in an UNSUBSCRIBE. -/
theorem unsubscribe_log : (unsubscribe info s).log =
    s.log ++ (if info.subscriptionUrl.isSome then s.sid.toList.map .unsubscribe else []) := by
  unfold unsubscribe
  cases s.sid with
  | none => simp
  | some sid => simp only; split <;> simp

theorem subscribe_some {url : Str} (h : info.subscriptionUrl = some url) :
    subscribe info s =
      { s with subscriptionTimeoutSrc := none, listening := true }.send
        (info.subscribeMsg url) := by
  unfold subscribe; rw [h]

theorem subscribe_none (h : info.subscriptionUrl = none) :
    subscribe info s =
      ({ s with subscriptionTimeoutSrc := none, subscribed := false }.record
        (.notifySubscribed false)).record
          (.subscriptionLost ⟨.serverInvalidUrl, "No valid subscription URL defined"⟩) := by
  unfold subscribe; rw [h]

@[simp] theorem subscribe_sid : (subscribe info s).sid = s.sid := by
  unfold subscribe; cases info.subscriptionUrl <;> rfl

@[simp] theorem subscribe_timer : (subscribe info s).subscriptionTimeoutSrc = none := by
  unfold subscribe; cases info.subscriptionUrl <;> rfl

@[simp] theorem subscribe_seq : (subscribe info s).seq = s.seq := by
  unfold subscribe; cases info.subscriptionUrl <;> rfl

@[simp] theorem subscribe_pending : (subscribe info s).pendingNotifies = s.pendingNotifies := by
  unfold subscribe; cases info.subscriptionUrl <;> rfl

theorem subscribe_subscribed :
    (subscribe info s).subscribed = (info.subscriptionUrl.isSome && s.subscribed) := by
  unfold subscribe; cases info.subscriptionUrl <;> rfl

theorem subscribe_inFlight :
    (subscribe info s).inFlight = s.inFlight ++ info.subscriptionUrl.toList.map info.subscribeMsg := by
  unfold subscribe; cases info.subscriptionUrl <;> simp

end

/-! ## `setSubscribed` -/

/-- The three things `setSubscribed` does: nothing, `subscribe`, or `unsubscribe`. -/
theorem setSubscribed_cases (info : Info) (b : Bool) (s : Proxy) :
    (s.subscribed = b ∧ setSubscribed info b s = s) ∨
    (b = true ∧ s.subscribed = false ∧
      setSubscribed info b s = (subscribe info { s with subscribed := true }).record
        (.notifySubscribed (subscribe info { s with subscribed := true }).subscribed)) ∨
    (b = false ∧ s.subscribed = true ∧
      setSubscribed info b s = (unsubscribe info { s with subscribed := false }).record
        (.notifySubscribed false)) := by
  by_cases h : s.subscribed = b
  · exact .inl ⟨h, if_pos h⟩
  · cases b with
    | true => exact .inr (.inl ⟨rfl, by simpa using h, if_neg h⟩)
    | false =>
      refine .inr (.inr ⟨rfl, by simpa using h, ?_⟩)
      simp [setSubscribed, h]

/-- The calls of the notify callbacks for one document. -/
theorem emitNotificationsForDoc_inv (info : Info) (cb : Proxy → XmlDoc → List Bool) (P : Proxy → Prop)
    (hset : ∀ s b, P s → P (setSubscribed info b s)) {n : EmitNotifyData} {s : Proxy}
    (h : P (s.record (.dispatch n))) : P (emitNotificationsForDoc info cb n s) := by
  unfold emitNotificationsForDoc
  generalize cb s n.doc = calls
  generalize s.record (.dispatch n) = s at h
  induction calls generalizing s with
  | nil => exact h
  | cons b calls ih => exact ih _ (hset s b h)

/-! ## Responses -/

/-- What a response of the service does: nothing but clearing the timer when the subscription is not
wanted any more, storing the granted SID, or losing the subscription. -/
theorem http_cases (rand : Int → Int → Int) (status : Nat) (reason : String)
    (sid timeout : Option Str) (s : Proxy) :
    (s.subscribed = false ∧ subscribeGotResponse rand (.http status reason sid timeout) s =
      { s with subscriptionTimeoutSrc := none }) ∨
    (s.subscribed = true ∧ ∃ g, isSuccessful status = true ∧ sid = some g ∧
      subscribeGotResponse rand (.http status reason sid timeout) s =
        { s with sid := some g, subscriptionTimeoutSrc := timeout.bind (renewalDelay rand) }) ∨
    (s.subscribed = true ∧ ¬ (isSuccessful status = true ∧ sid ≠ none) ∧ ∃ e,
      subscribeGotResponse rand (.http status reason sid timeout) s =
        hdrErr e { s with subscriptionTimeoutSrc := none, sid := none }) := by
  cases hsub : s.subscribed with
  | false => exact .inl ⟨rfl, by simp [subscribeGotResponse, hsub]⟩
  | true =>
    refine .inr ?_
    by_cases hok : isSuccessful status = true
    · cases sid with
      | none => exact .inr ⟨rfl, by simp, _, by simp [subscribeGotResponse, hsub, hok]; rfl⟩
      | some g =>
        refine .inl ⟨rfl, g, hok, rfl, ?_⟩
        cases timeout <;> simp [subscribeGotResponse, hsub, hok]
    · exact .inr ⟨rfl, fun h => hok h.1, _, by simp [subscribeGotResponse, hsub, hok]; rfl⟩

/-! ## The renewal timer and requests -/

/-- The renewal is sent unless there is no SID or no URL; the timer is gone in either case. -/
theorem subscriptionExpire_cases (info : Info) (s : Proxy) :
    (∃ sid url, s.sid = some sid ∧ info.subscriptionUrl = some url ∧
      subscriptionExpire info s =
        { s with subscriptionTimeoutSrc := none }.send (info.renewalMsg url sid)) ∨
    ((s.sid = none ∨ info.subscriptionUrl = none) ∧
      subscriptionExpire info s = { s with subscriptionTimeoutSrc := none }) := by
  unfold subscriptionExpire
  cases hs : s.sid with
  | none => exact .inr ⟨.inl rfl, by simp⟩
  | some sid =>
    cases hu : info.subscriptionUrl with
    | none => exact .inr ⟨.inr rfl, by simp⟩
    | some url => exact .inl ⟨sid, url, rfl, rfl, by simp⟩

/-- A request is queued, or answered without any other effect. -/
theorem serverHandler_cases (req : NotifyRequest) (s : Proxy) :
    (∃ n, checkNotify req = .ok n ∧ n.doc.root = some "propertyset".toList ∧ s.sid ≠ none ∧
      serverHandler req s =
        { s with pendingNotifies := s.pendingNotifies ++ [n], notifyIdleSrc := true }.record
          (.answer req .ok)) ∨
    (∃ status, serverHandler req s = s.record (.answer req status)) := by
  unfold serverHandler
  split
  · exact .inr ⟨_, rfl⟩
  · rename_i n hn
    split
    · exact .inr ⟨_, rfl⟩
    · rename_i h
      rw [not_or, not_not] at h
      exact .inl ⟨n, hn, h.1, h.2, rfl⟩

/-! ## Steps -/

theorem notify_step {s t : Proxy} {req : NotifyRequest}
    (h : step info s (.notify req) = some t) :
    (s.listening = false ∧ t = s) ∨ (s.listening = true ∧ t = serverHandler req s) := by
  obtain rfl := Option.some.inj h
  cases hl : s.listening with
  | true => exact .inr ⟨rfl, rfl⟩
  | false => exact .inl ⟨rfl, rfl⟩

theorem idle_step {s t : Proxy} (h : step info s (.idle cb) = some t) :
    s.notifyIdleSrc = true ∧ t = emitNotifications info cb s := by
  simp only [step, Option.ite_none_right_eq_some, Option.some.injEq] at h
  exact ⟨h.1, h.2.symm⟩

theorem expire_step {s t : Proxy} (h : step info s .expire = some t) :
    s.subscriptionTimeoutSrc ≠ none ∧ t = subscriptionExpire info s := by
  simp only [step, Option.ite_none_right_eq_some, Option.some.injEq] at h
  exact ⟨Option.isSome_iff_ne_none.1 h.1, h.2.symm⟩

theorem response_step {s t : Proxy} {i : Nat} {resp : Response} {rand : Int → Int → Int}
    (h : step info s (.response i resp rand) = some t) :
    ∃ msg, s.inFlight[i]? = some msg ∧
      t = subscribeGotResponse rand resp (s.receive i msg resp) := by
  obtain ⟨msg, hm, rfl⟩ := Option.map_eq_some_iff.1 h
  exact ⟨msg, hm, rfl⟩

/-! ## The dispatch loop -/

/-- Notify callbacks that make no calls. -/
def passive : Proxy → XmlDoc → List Bool := fun _ _ => []

theorem emitLoop_cons (info : Info) (cb : Proxy → XmlDoc → List Bool) (n : EmitNotifyData)
    (q : List EmitNotifyData) (s : Proxy) :
    emitLoop info cb (n :: q) s =
      if n.seq > s.seq then (s.record (.compare n s.seq), true)
      else emitLoop info cb q (emitStep info cb n (s.record (.compare n s.seq))) := rfl

section
variable {n : EmitNotifyData} {s : Proxy}

theorem emitStep_own (h : s.sid = some n.sid) :
    emitStep info cb n s = emitNotificationsForDoc info cb n { s with seq := nextSeq s.seq } :=
  if_pos h

theorem emitStep_other (h : s.sid ≠ some n.sid) :
    emitStep info cb n s = { s with seq := nextSeq s.seq } := if_neg h

/-- The loop's body counts, dispatches if the notification is for the proxy, and calls the notify
callbacks. -/
theorem emitStep_inv (info : Info) (cb : Proxy → XmlDoc → List Bool) (P : Proxy → Prop)
    (hset : ∀ s b, P s → P (setSubscribed info b s)) (hcount : P { s with seq := nextSeq s.seq })
    (hdispatch : P ({ s with seq := nextSeq s.seq }.record (.dispatch n))) :
    P (emitStep info cb n s) := by
  by_cases hsid : s.sid = some n.sid
  · rw [emitStep_own hsid]
    exact emitNotificationsForDoc_inv info cb P hset hdispatch
  · rw [emitStep_other hsid]
    exact hcount

end

/-- **The invariant rule of the dispatch loop.** `I rest s` is kept by recording a comparison and by
the loop's body; it then holds where the loop stops, at the end of the queue or at a missed
event. -/
theorem emitLoop_inv (info : Info) (cb : Proxy → XmlDoc → List Bool)
    (I : List EmitNotifyData → Proxy → Prop)
    (hcmp : ∀ n rest s, I (n :: rest) s → I (n :: rest) (s.record (.compare n s.seq)))
    (hstep : ∀ n rest s, I (n :: rest) s → n.seq ≤ s.seq → I rest (emitStep info cb n s)) :
    ∀ (q : List EmitNotifyData) (s : Proxy), I q s →
      ((emitLoop info cb q s).2 = false ∧ I [] (emitLoop info cb q s).1) ∨
      ((emitLoop info cb q s).2 = true ∧ ∃ n rest, (n :: rest) <:+ q ∧
        (emitLoop info cb q s).1.seq < n.seq ∧ I (n :: rest) (emitLoop info cb q s).1)
  | [], _, h => .inl ⟨rfl, h⟩
  | n :: q, s, h => by
    have hr := hcmp n q s h
    rw [emitLoop_cons]
    split
    · rename_i hgap
      exact .inr ⟨rfl, n, q, List.suffix_rfl, hgap, hr⟩
    · rename_i hle
      have hI := hstep n q _ hr (UInt32.not_lt.1 hle)
      obtain h | ⟨h, m, rest, hsuf, hgap, hI⟩ := emitLoop_inv info cb I hcmp hstep q _ hI
      · exact .inl h
      · exact .inr ⟨h, m, rest, hsuf.trans (List.suffix_cons n q), hgap, hI⟩

/-- What `emitNotifications` does when emission is not delayed, by the result of the loop. -/
theorem emitNotifications_eq {s : Proxy} (h : ¬ (s.sid = none ∧ s.subscribed = true)) :
    emitNotifications info cb s =
      if (emitLoop info cb s.pendingNotifies s).2 then
        { subscribe info (unsubscribe info
            { (emitLoop info cb s.pendingNotifies s).1 with pendingNotifies := [] }) with
          notifyIdleSrc := false }
      else
        { (emitLoop info cb s.pendingNotifies s).1 with
          pendingNotifies := [], notifyIdleSrc := false } := by
  unfold emitNotifications
  rw [if_neg h]
  simp only
  split <;> rfl

theorem emitNotifications_delayed {s : Proxy} (h : s.sid = none ∧ s.subscribed = true) :
    emitNotifications info cb s = s := if_pos h

theorem emitNotifications_pending {s : Proxy} (h : s.sid ≠ none) :
    (emitNotifications info cb s).pendingNotifies = [] := by
  rw [emitNotifications_eq fun hd => h hd.1]
  split
  · simp
  · rfl

/-! ## A concrete service

The device of the concrete runs. -/

def sampleInfo : Info where
  subscriptionUrl := some "http://10.0.0.2/event".toList
  deliveryUrl := "<http://10.0.0.1/proxy>".toList
  subscriptionTimeout := 0

/-- The response that grants `sid` for half an hour. -/
def grant (sid : Str) : Response := .http 200 "OK" (some sid) (some "Second-1800".toList)

/-- The timer's jitter at its least. -/
def leastJitter : Int → Int → Int := fun low _ => low

def sampleSid : Str := "uuid:1".toList

/-- The NOTIFY number `seq` for the SID `sid`. -/
def sampleNotify (sid : Str) (seq : Nat) : NotifyRequest :=
  .propertySet sid (CString.printD seq) [("Status".toList, "1".toList)]

/-- A proxy right after `gupnp_service_proxy_set_subscribed (proxy, TRUE)`. -/
def sampleInProgress : Proxy := setSubscribed sampleInfo true .init

/-- The subscription of the sample runs, before its first event. -/
def sampleFresh : Proxy :=
  subscribeGotResponse leastJitter (grant sampleSid)
    (sampleInProgress.receive 0 (sampleInfo.subscribeMsg "http://10.0.0.2/event".toList)
      (grant sampleSid))

/-! ## The event counter -/

theorem nextSeq_toNat (c : UInt32) : (nextSeq c).toNat = wrapSucc 0xffffffff c.toNat := by
  unfold nextSeq wrapSucc
  by_cases h : c < 0xffffffff
  · have hn : c.toNat < 0xffffffff := UInt32.lt_iff_toNat_lt.1 h
    rw [if_pos h, if_pos hn, UInt32.toNat_add]
    simp only [UInt32.toNat_one]
    omega
  · have hn : ¬ c.toNat < 0xffffffff := fun hn => h (UInt32.lt_iff_toNat_lt.2 hn)
    rw [if_neg h, if_neg hn]
    rfl

theorem iterate_nextSeq_toNat (c : UInt32) (k : Nat) :
    (nextSeq^[k] c).toNat = (wrapSucc 0xffffffff)^[k] c.toNat := by
  induction k with
  | zero => rfl
  | succ k ih => rw [Function.iterate_succ_apply', Function.iterate_succ_apply', nextSeq_toNat, ih]

end GUPnP.ServiceProxy
