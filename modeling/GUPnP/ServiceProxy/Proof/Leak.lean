import GUPnP.ServiceProxy.Proof.Unsolicited

/-!
# No leaked subscription

`NoLeak`: once no SUBSCRIBE is in flight, every SID a service granted is the proxy's SID or was
named in an UNSUBSCRIBE. Every handler but `subscribeGotResponse` keeps track of the SID (`Kept`:
it stays, or goes with an UNSUBSCRIBE). A response is processed without asking which request it
answers: when the subscription is no longer wanted the granted SID is dropped, and when another
SUBSCRIBE was answered before, its SID is overwritten. `LeakOk` excludes the two;
`no_leaked_subscription` proves the property of every run of successful responses whose steps all
satisfy it.
-/

set_option autoImplicit false

namespace GUPnP.ServiceProxy

variable {info : Info} {cb : Proxy → XmlDoc → List Bool}

/-- The SIDs granted by successful responses. -/
def granted (log : List Effect) : List Str :=
  log.filterMap fun
    | .response _ (.http status _ sid _) => if isSuccessful status then sid else none
    | _ => none

def NoLeak (s : Proxy) : Prop :=
  s.inFlight = [] → ∀ g ∈ granted s.log, s.sid = some g ∨ Effect.unsubscribe g ∈ s.log

/-- The events of runs in which every SUBSCRIBE succeeds. -/
def Granting : Event → Prop
  | .response _ resp _ => ∃ status reason g timeout,
      resp = .http status reason (some g) timeout ∧ isSuccessful status = true
  | _ => True

/-- The condition on a step, in the state before it: a response that grants a SID is processed while
the subscription is wanted, or the SID was given up already; and it replaces no other SID, or one
that was given up already. -/
def LeakOk (s : Proxy) : Event → Prop
  | .response _ (.http _ _ (some g) _) _ =>
    (s.subscribed = false → Effect.unsubscribe g ∈ s.log) ∧
      (s.subscribed = true → ∀ old, s.sid = some old → old = g ∨ Effect.unsubscribe old ∈ s.log)
  | _ => True

theorem granted_append (l l' : List Effect) : granted (l ++ l') = granted l ++ granted l' :=
  List.filterMap_append

/-! ## What the handlers keep -/

/-- From `s` to `t` nothing was granted, and the SID stays or goes with an UNSUBSCRIBE. -/
structure Kept (s t : Proxy) : Prop where
  granted : granted t.log = granted s.log
  named : ∀ g, Effect.unsubscribe g ∈ s.log → Effect.unsubscribe g ∈ t.log
  sid : ∀ g, s.sid = some g → t.sid = some g ∨ Effect.unsubscribe g ∈ t.log

theorem Kept.refl (s : Proxy) : Kept s s := ⟨rfl, fun _ h => h, fun _ h => .inl h⟩

theorem Kept.trans {s t u : Proxy} (h : Kept s t) (h' : Kept t u) : Kept s u := by
  refine ⟨h'.granted.trans h.granted, fun g hg => h'.named g (h.named g hg), fun g hg => ?_⟩
  rcases h.sid g hg with ht | ht
  · exact h'.sid g ht
  · exact .inr (h'.named g ht)

/-- A handler that keeps the SID and logs nothing about responses. -/
theorem kept_of_log {s t : Proxy} (l : List Effect) (hl : t.log = s.log ++ l)
    (hg : ServiceProxy.granted l = []) (hsid : t.sid = s.sid) : Kept s t := by
  refine ⟨by rw [hl, granted_append, hg, List.append_nil], fun g h => ?_, fun g h => .inl ?_⟩
  · rw [hl]; exact List.mem_append_left _ h
  · rw [hsid]; exact h

theorem Kept.of_eq {s t : Proxy} (hl : t.log = s.log) (hsid : t.sid = s.sid) : Kept s t :=
  kept_of_log [] (by rw [hl, List.append_nil]) rfl hsid

theorem kept_record (s : Proxy) {e : Effect} (he : granted [e] = []) : Kept s (s.record e) :=
  kept_of_log [e] rfl he rfl

theorem kept_subscribe (info : Info) (s : Proxy) : Kept s (subscribe info s) := by
  cases hu : info.subscriptionUrl with
  | none =>
    rw [subscribe_none info s hu]
    exact kept_of_log _ (List.append_assoc _ _ _) rfl rfl
  | some url =>
    rw [subscribe_some info s hu]
    exact kept_of_log [.subscribe s.subscribed (info.subscribeMsg url)] rfl rfl rfl

theorem kept_unsubscribe {s : Proxy} (h : NothingSent info s) : Kept s (unsubscribe info s) := by
  refine ⟨?_, fun g hg => ?_, fun g hg => .inr ?_⟩
  · rw [unsubscribe_log, granted_append]
    cases s.sid <;> split <;> simp [ServiceProxy.granted]
  · rw [unsubscribe_log]; exact List.mem_append_left _ hg
  · rw [unsubscribe_log, hg]
    cases hu : info.subscriptionUrl with
    | none => rw [(h hu).2] at hg; cases hg
    | some url => simp

theorem kept_setSubscribed {s : Proxy} (h : NothingSent info s) (b : Bool) :
    Kept s (setSubscribed info b s) := by
  obtain ⟨-, he⟩ | ⟨-, -, he⟩ | ⟨-, -, he⟩ := setSubscribed_cases info b s
  · rw [he]; exact .refl s
  · rw [he]
    have h1 : Kept s { s with subscribed := true } := .of_eq rfl rfl
    exact (h1.trans (kept_subscribe info _)).trans (kept_record _ rfl)
  · rw [he]
    have h1 : Kept s { s with subscribed := false } := .of_eq rfl rfl
    exact (h1.trans (kept_unsubscribe (s := { s with subscribed := false }) h)).trans
      (kept_record _ rfl)

theorem kept_emitStep {n : EmitNotifyData} {s : Proxy} (h : NothingSent info s) :
    Kept s (emitStep info cb n s) ∧ NothingSent info (emitStep info cb n s) := by
  refine emitStep_inv info cb (fun t => Kept s t ∧ NothingSent info t) ?_ ?_ ?_
  · intro t b ht
    exact ⟨ht.1.trans (kept_setSubscribed ht.2 b), nothingSent_setSubscribed ht.2 b⟩
  · exact ⟨.of_eq rfl rfl, h⟩
  · exact ⟨kept_of_log [.dispatch n] rfl rfl rfl, h⟩

theorem kept_emitNotifications {s : Proxy} (h : NothingSent info s) :
    Kept s (emitNotifications info cb s) := by
  by_cases hd : s.sid = none ∧ s.subscribed = true
  · rw [emitNotifications_delayed hd]; exact .refl s
  · rw [emitNotifications_eq hd]
    obtain ⟨hr, hI⟩ | ⟨hr, n, rest, -, -, hI⟩ := emitLoop_inv info cb
      (fun _ t => Kept s t ∧ NothingSent info t)
      (fun n _ t ht => ⟨ht.1.trans (kept_record t rfl), ht.2⟩)
      (fun n _ t ht _ => ⟨ht.1.trans (kept_emitStep ht.2).1, (kept_emitStep ht.2).2⟩)
      s.pendingNotifies s ⟨.refl s, h⟩
    · rw [hr]; exact ⟨hI.1.granted, hI.1.named, hI.1.sid⟩
    · rw [hr]
      have h1 : Kept s { (emitLoop info cb s.pendingNotifies s).1 with pendingNotifies := [] } :=
        ⟨hI.1.granted, hI.1.named, hI.1.sid⟩
      have h2 := (h1.trans (kept_unsubscribe hI.2)).trans (kept_subscribe info _)
      exact ⟨h2.granted, h2.named, h2.sid⟩

/-! ## The invariant -/

/-- Every granted SID is the current one or was named in an UNSUBSCRIBE. -/
def Accounted (s : Proxy) : Prop :=
  ∀ g ∈ granted s.log, s.sid = some g ∨ Effect.unsubscribe g ∈ s.log

theorem Accounted.kept {s t : Proxy} (h : Accounted s) (hk : Kept s t) : Accounted t := by
  intro g hg
  rw [hk.granted] at hg
  rcases h g hg with hs | hs
  · exact hk.sid g hs
  · exact .inr (hk.named g hs)

/-- A response that grants `g`, processed in a state that `LeakOk` allows. -/
theorem accounted_response {s : Proxy} (h : Accounted s) {i : Nat} {msg : SubscribeMsg}
    {status : Nat} {reason : String} {g : Str} {timeout : Option Str} {rand : Int → Int → Int}
    (hok : isSuccessful status = true)
    (ho : LeakOk s (.response i (.http status reason (some g) timeout) rand)) :
    Accounted (subscribeGotResponse rand (.http status reason (some g) timeout)
      (s.receive i msg (.http status reason (some g) timeout))) := by
  have hg : granted (s.log ++ [.response msg (.http status reason (some g) timeout)]) =
      granted s.log ++ [g] := by
    rw [granted_append]; simp [granted, hok]
  have hlog : ∀ {x}, Effect.unsubscribe x ∈ s.log →
      Effect.unsubscribe x ∈ s.log ++ [.response msg (.http status reason (some g) timeout)] :=
    fun hx => List.mem_append_left _ hx
  obtain ⟨hs, he⟩ | ⟨hs, g', -, hg', he⟩ | ⟨-, hno, -⟩ := http_cases rand status reason (some g)
    timeout (s.receive i msg (.http status reason (some g) timeout))
  · rw [he]
    intro x hx
    simp only [receive_log, hg, List.mem_append, List.mem_singleton] at hx
    rcases hx with hx | rfl
    · exact (h x hx).imp id hlog
    · exact .inr (hlog (ho.1 hs))
  · obtain rfl := Option.some.inj hg'
    rw [he]
    intro x hx
    simp only [receive_log, hg, List.mem_append, List.mem_singleton] at hx
    rcases hx with hx | rfl
    · rcases h x hx with hx | hx
      · rcases ho.2 hs x hx with rfl | hu
        · exact .inl rfl
        · exact .inr (hlog hu)
      · exact .inr (hlog hx)
    · exact .inl rfl
  · exact absurd ⟨hok, by simp⟩ hno

theorem accounted_step {s t : Proxy} {e : Event} (h : Accounted s) (hs : NothingSent info s)
    (hg : Granting e) (ho : LeakOk s e) (he : step info s e = some t) : Accounted t := by
  cases e with
  | setSubscribed b =>
    obtain rfl := Option.some.inj he
    exact h.kept (kept_setSubscribed hs b)
  | notify req =>
    rcases notify_step he with ⟨-, rfl⟩ | ⟨-, rfl⟩
    · exact h
    · obtain ⟨n, -, -, -, hq⟩ | ⟨status, hq⟩ := serverHandler_cases req s <;> rw [hq]
      · exact h.kept (kept_of_log [.answer req .ok] rfl rfl rfl)
      · exact h.kept (kept_record s rfl)
  | idle cb =>
    obtain ⟨-, rfl⟩ := idle_step he
    exact h.kept (kept_emitNotifications hs)
  | expire =>
    obtain ⟨-, rfl⟩ := expire_step he
    obtain ⟨sid, url, -, -, hx⟩ | ⟨-, hx⟩ := subscriptionExpire_cases info s <;> rw [hx]
    · exact h.kept (kept_of_log [.subscribe s.subscribed (info.renewalMsg url sid)] rfl rfl rfl)
    · exact h
  | response i resp rand =>
    obtain ⟨msg, -, rfl⟩ := response_step he
    obtain ⟨status, reason, g, timeout, rfl, hok⟩ := hg
    exact accounted_response h hok ho

/-! ## Runs -/

/-- **No leaked subscription**, in every run of successful responses whose steps all satisfy
`LeakOk`. -/
theorem no_leaked_subscription {es : List Event} {s : Proxy}
    (h : Run (step info) (fun s e => Granting e ∧ LeakOk s e) Proxy.init es s) : NoLeak s := by
  have hI := h.inv (fun s => Accounted s ∧ NothingSent info s)
    (fun _ _ _ hI ho he => ⟨accounted_step hI.1 hI.2 ho.1 ho.2 he, nothingSent_step hI.2 he⟩)
    ⟨fun _ hg => absurd hg List.not_mem_nil, fun _ => ⟨rfl, rfl⟩⟩
  exact fun _ => hI.1

theorem no_leaked_sample : ∃ t, Run (step sampleInfo) (fun s e => Granting e ∧ LeakOk s e) .init
    [.setSubscribed true, .response 0 (grant sampleSid) leastJitter,
      .notify (sampleNotify sampleSid 1), .idle passive,
      .response 0 (grant "uuid:2".toList) leastJitter] t ∧
    granted t.log = [sampleSid, "uuid:2".toList] ∧ NoLeak t := by
  have hok : ∀ s g, s.subscribed = true → s.sid = none →
      LeakOk s (.response 0 (grant g) leastJitter) := by
    intro s g hs hn
    refine ⟨fun h => ?_, fun _ old ho => ?_⟩
    · rw [hs] at h
      cases h
    · rw [hn] at ho
      cases ho
  have h : Run (step sampleInfo) (fun s e => Granting e ∧ LeakOk s e) .init
      [.setSubscribed true, .response 0 (grant sampleSid) leastJitter,
        .notify (sampleNotify sampleSid 1), .idle passive,
        .response 0 (grant "uuid:2".toList) leastJitter] _ :=
    .cons ⟨trivial, trivial⟩ rfl (.cons ⟨⟨200, "OK", _, _, rfl, rfl⟩, hok _ _ rfl rfl⟩ rfl
      (.cons ⟨trivial, trivial⟩ rfl (.cons ⟨trivial, trivial⟩ rfl
        (.cons ⟨⟨200, "OK", _, _, rfl, rfl⟩, hok _ _ rfl rfl⟩ rfl .nil))))
  exact ⟨_, h, by decide, no_leaked_subscription h⟩

/-- The response arrives after the user unsubscribed: the granted SID is dropped. -/
theorem unwanted_grant_leaks : ∃ t, Run (step sampleInfo) (fun _ e => Granting e) .init
    [.setSubscribed true, .setSubscribed false, .response 0 (grant sampleSid) leastJitter] t ∧
    ¬ NoLeak t := by
  have h : Run (step sampleInfo) (fun _ e => Granting e) .init
      [.setSubscribed true, .setSubscribed false, .response 0 (grant sampleSid) leastJitter] _ :=
    .cons trivial rfl (.cons trivial rfl (.cons ⟨200, "OK", _, _, rfl, rfl⟩ rfl .nil))
  refine ⟨_, h, fun hno => ?_⟩
  revert hno
  unfold NoLeak
  decide

end GUPnP.ServiceProxy
