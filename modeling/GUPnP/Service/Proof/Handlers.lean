import GUPnP.Service.Model

/-!
# What the handlers of a service do

What `notifySubscriber` and `notifyGotResponse` do to one subscription (`notifySubscriber_cases`,
`notifyGotResponse_cases`), and the invariant `WellFormed` of the service: every subscription is
filed under its SID, which was generated before, and no property set was created with an identity
that is still to come.
-/

set_option autoImplicit false

namespace GUPnP.Service

variable {ctx : Context}

/-! ## One subscription -/

theorem notifySubscriber_cases (propertySet : PropertySet) (d : SubscriptionData) :
    (d.canDelete = true ∧ notifySubscriber propertySet d = (d, [])) ∨
    (d.canDelete = false ∧ notifySubscriber propertySet d =
      ({ d with seq := nextSeq d.seq,
                pendingMessages := d.message propertySet :: d.pendingMessages },
        [.notify (d.message propertySet)])) := by
  unfold notifySubscriber
  cases d.canDelete with
  | true => exact .inl ⟨rfl, rfl⟩
  | false => exact .inr ⟨rfl, rfl⟩

/-- The outcome is a failure other than 412. -/
def OtherFailure : NotifyOutcome → Prop
  | .cancelled => False
  | .done _ status _ => isSuccessful status = false ∧ status ≠ 412

instance : DecidablePred OtherFailure
  | .cancelled => inferInstanceAs (Decidable False)
  | .done _ status _ => inferInstanceAs (Decidable (isSuccessful status = false ∧ status ≠ 412))

/-- The subscription without its `i`-th pending message. -/
def SubscriptionData.without (d : SubscriptionData) (i : Nat) : SubscriptionData :=
  { d with pendingMessages := d.pendingMessages.eraseIdx i }

/-- What a response does: nothing when it is cancelled; with success the cursor goes back to the first
URL; with 412 the subscription is removed; after another failure the property set is sent to the
next URL, or `notify-failed` is emitted and the cursor goes back. -/
theorem notifyGotResponse_cases (i : Nat) (msg : NotifySubscriberData) (outcome : NotifyOutcome)
    (d : SubscriptionData) :
    (outcome = .cancelled ∧ notifyGotResponse i msg outcome d = (some d, [])) ∨
    (¬ OtherFailure outcome ∧ notifyGotResponse i msg outcome d =
      (some { d.without i with initialStateSent := true, callbacks := d.callbacks.first }, [])) ∨
    (¬ OtherFailure outcome ∧ notifyGotResponse i msg outcome d = (none, [])) ∨
    (OtherFailure outcome ∧ ∃ next, d.callbacks.next? = some next ∧
      notifyGotResponse i msg outcome d =
        (some (notifySubscriber msg.propertySet { d.without i with callbacks := next }).1,
          (notifySubscriber msg.propertySet { d.without i with callbacks := next }).2)) ∨
    (OtherFailure outcome ∧ d.callbacks.next? = none ∧ ∃ error,
      notifyGotResponse i msg outcome d =
        (some { d.without i with callbacks := d.callbacks.first },
          [.notifyFailed msg (d.callbacks.cur :: d.callbacks.after) error])) := by
  cases outcome with
  | cancelled => exact .inl ⟨rfl, rfl⟩
  | done error status reason =>
    right
    cases hok : isSuccessful status with
    | true =>
      left
      refine ⟨fun h => ?_, ?_⟩
      · rw [OtherFailure, hok] at h
        cases h.1
      · simp [notifyGotResponse, hok, SubscriptionData.without]
    | false =>
      right
      by_cases h412 : status = 412
      · left
        refine ⟨fun h => h.2 h412, ?_⟩
        simp only [notifyGotResponse, hok, Bool.false_eq_true, ↓reduceIte]
        rw [if_pos h412]
      · right
        have hfail : OtherFailure (.done error status reason) := ⟨hok, h412⟩
        cases hnext : d.callbacks.next? with
        | some next =>
          left
          refine ⟨hfail, next, rfl, ?_⟩
          simp [notifyGotResponse, hok, h412, hnext, SubscriptionData.without]
        | none =>
          right
          refine ⟨hfail, rfl, notifyError error reason, ?_⟩
          simp [notifyGotResponse, hok, h412, hnext, SubscriptionData.without]

/-! ## The subscription an effect is about -/

/-- An answer is about the subscription its request names, or else about the one it names. -/
def Effect.sid? : Effect → Option Str
  | .notify msg => some msg.sid
  | .response msg _ => some msg.sid
  | .notifyFailed msg _ _ => some msg.sid
  | .answer req ans => req.sid.or ans.sid

/-- What was done about one subscription. -/
def about (sid : Str) (log : List Effect) : List Effect := log.filter fun e => e.sid? = some sid

theorem about_append (sid : Str) (l l' : List Effect) :
    about sid (l ++ l') = about sid l ++ about sid l' := List.filter_append l l'

theorem about_eq_self {sid : Str} {l : List Effect} (h : ∀ e ∈ l, e.sid? = some sid) :
    about sid l = l := by
  refine List.filter_eq_self.2 fun e he => ?_
  simpa using h e he

theorem about_eq_nil {sid : Str} {l : List Effect} (h : ∀ e ∈ l, e.sid? ≠ some sid) :
    about sid l = [] := by
  refine List.filter_eq_nil_iff.2 fun e he => ?_
  simpa using h e he

/-! ## What was sent -/

/-- The NOTIFY messages that were sent, in order. -/
def notifies (log : List Effect) : List NotifySubscriberData :=
  log.filterMap fun
    | .notify msg => some msg
    | _ => none

/-- The identities of the property sets they sent. -/
def eventIds (log : List Effect) : List Nat := (notifies log).map fun msg => msg.propertySet.id

theorem notifies_append (l l' : List Effect) : notifies (l ++ l') = notifies l ++ notifies l' :=
  List.filterMap_append

theorem eventIds_append (l l' : List Effect) : eventIds (l ++ l') = eventIds l ++ eventIds l' := by
  rw [eventIds, notifies_append, List.map_append]
  rfl

theorem mem_notifies {log : List Effect} {msg : NotifySubscriberData} :
    msg ∈ notifies log ↔ Effect.notify msg ∈ log := by
  constructor
  · intro h
    obtain ⟨e, he, hm⟩ := List.mem_filterMap.1 h
    cases e with
    | notify msg' =>
      obtain rfl := Option.some.inj hm
      exact he
    | response msg' outcome => cases hm
    | notifyFailed msg' callbacks error => cases hm
    | answer req ans => cases hm
  · exact fun h => List.mem_filterMap.2 ⟨_, h, rfl⟩

/-! ## Well-formed services -/

/-- The SID was generated. -/
def Issued (ctx : Context) (s : ServiceState) (sid : Str) : Prop :=
  ∃ k, k < s.nextUuid ∧ sid = generateSid ctx k

/-- The subscription `d` may be filed under `sid`, where property sets have identities below
`nextBytes`. -/
structure EntryOk (sid : Str) (nextBytes : Nat) (d : SubscriptionData) : Prop where
  filed : d.sid = sid
  pendingSid : ∀ msg ∈ d.pendingMessages, msg.sid = sid
  pendingBytes : ∀ msg ∈ d.pendingMessages, msg.propertySet.id < nextBytes

structure WellFormed (ctx : Context) (s : ServiceState) : Prop where
  entry : ∀ {sid d}, s.subscriptions.lookup sid = some d → EntryOk sid s.nextBytes d
  issued : ∀ {sid d}, s.subscriptions.lookup sid = some d → Issued ctx s sid
  log : ∀ {msg}, Effect.notify msg ∈ s.log → msg.propertySet.id < s.nextBytes

theorem EntryOk.mono {sid : Str} {n n' : Nat} {d : SubscriptionData} (h : EntryOk sid n d)
    (hn : n ≤ n') : EntryOk sid n' d :=
  ⟨h.filed, h.pendingSid, fun msg hm => Nat.lt_of_lt_of_le (h.pendingBytes msg hm) hn⟩

theorem EntryOk.new (callbacks : Cursor Uri) (sid : Str) (src n : Nat) :
    EntryOk sid n (.new callbacks sid src) :=
  ⟨rfl, fun _ h => absurd h List.not_mem_nil, fun _ h => absurd h List.not_mem_nil⟩

/-- The fields the invariant reads may be kept while others change. -/
theorem EntryOk.of_eq {sid : Str} {n : Nat} {d d' : SubscriptionData} (h : EntryOk sid n d)
    (hsid : d'.sid = d.sid) (hp : d'.pendingMessages ⊆ d.pendingMessages) : EntryOk sid n d' :=
  ⟨hsid.trans h.filed, fun msg hm => h.pendingSid msg (hp hm),
    fun msg hm => h.pendingBytes msg (hp hm)⟩

theorem EntryOk.notify {sid : Str} {n : Nat} {d : SubscriptionData} {propertySet : PropertySet}
    (h : EntryOk sid n d) (hid : propertySet.id < n) :
    EntryOk sid n (notifySubscriber propertySet d).1 := by
  obtain ⟨-, he⟩ | ⟨-, he⟩ := notifySubscriber_cases propertySet d <;> rw [he]
  · exact h
  · refine ⟨h.filed, fun msg hm => ?_, fun msg hm => ?_⟩
    · rcases List.mem_cons.1 hm with rfl | hm
      · exact h.filed
      · exact h.pendingSid msg hm
    · rcases List.mem_cons.1 hm with rfl | hm
      · exact hid
      · exact h.pendingBytes msg hm

/-- The effects of `notifySubscriber`: at most one NOTIFY of the property set to the subscription. -/
theorem mem_notifySubscriber {propertySet : PropertySet} {d : SubscriptionData} {e : Effect}
    (h : e ∈ (notifySubscriber propertySet d).2) : e = .notify (d.message propertySet) := by
  obtain ⟨-, he⟩ | ⟨-, he⟩ := notifySubscriber_cases propertySet d
  · rw [he] at h
    cases h
  · rw [he] at h
    exact List.mem_singleton.1 h

theorem eraseIdx_subset {α : Type} (l : List α) (i : Nat) : l.eraseIdx i ⊆ l :=
  (List.eraseIdx_sublist l i).subset

theorem EntryOk.response {sid : Str} {n i : Nat} {d d' : SubscriptionData}
    {msg : NotifySubscriberData} {outcome : NotifyOutcome} (h : EntryOk sid n d)
    (hm : d.pendingMessages[i]? = some msg)
    (hd : (notifyGotResponse i msg outcome d).1 = some d') : EntryOk sid n d' := by
  have hmem := List.mem_of_getElem? hm
  have hsub := eraseIdx_subset d.pendingMessages i
  obtain ⟨-, he⟩ | ⟨-, he⟩ | ⟨-, he⟩ | ⟨-, next, -, he⟩ | ⟨-, -, error, he⟩ :=
    notifyGotResponse_cases i msg outcome d
  · rw [he] at hd
    rwa [← Option.some.inj hd]
  · rw [he] at hd
    rw [← Option.some.inj hd]
    exact h.of_eq rfl hsub
  · rw [he] at hd
    cases hd
  · rw [he] at hd
    rw [← Option.some.inj hd]
    exact EntryOk.notify (d := { d.without i with callbacks := next }) (h.of_eq rfl hsub)
      (h.pendingBytes msg hmem)
  · rw [he] at hd
    rw [← Option.some.inj hd]
    exact h.of_eq rfl hsub

/-- The effects of a response are about the subscription, and send no other property set. -/
theorem mem_notifyGotResponse {sid : Str} {n i : Nat} {d : SubscriptionData}
    {msg : NotifySubscriberData} {outcome : NotifyOutcome} {e : Effect} (h : EntryOk sid n d)
    (hm : d.pendingMessages[i]? = some msg) (he : e ∈ (notifyGotResponse i msg outcome d).2) :
    e.sid? = some sid ∧ ∀ m, e = .notify m → m.propertySet.id < n := by
  have hmem := List.mem_of_getElem? hm
  obtain ⟨-, hx⟩ | ⟨-, hx⟩ | ⟨-, hx⟩ | ⟨-, next, -, hx⟩ | ⟨-, -, error, hx⟩ :=
    notifyGotResponse_cases i msg outcome d
  · rw [hx] at he
    cases he
  · rw [hx] at he
    cases he
  · rw [hx] at he
    cases he
  · rw [hx] at he
    obtain rfl := mem_notifySubscriber he
    refine ⟨congrArg some h.filed, fun m hm => ?_⟩
    rw [← Effect.notify.inj hm]
    exact h.pendingBytes msg hmem
  · rw [hx] at he
    obtain rfl := List.mem_singleton.1 he
    refine ⟨congrArg some (h.pendingSid msg hmem), fun m hm => ?_⟩
    cases hm

/-! ## A concrete service -/

def sampleContext : Context where
  validateHostHeader _ := true
  rewriteUriToUri uri := some uri
  canReach _ := true
  serverId := "Linux/6.0 UPnP/1.0 GUPnP/1.6".toList
  uuid k := "11f6d8ce-9ec2-4a0e-".toList ++ Nat.toDigits 10 k
  uuid_injective k k' h := by
    have hdigits := congrArg CString.numeral (List.append_cancel_left h)
    rw [CString.numeral_toDigits, CString.numeral_toDigits] at hdigits
    exact congrArg Prod.snd hdigits

/-- The SID of its first subscription. -/
def sampleSid : Str := generateSid sampleContext 0

/-- A SUBSCRIBE with two callback URLs. -/
def sampleSubscribe : SubscriptionRequest where
  method := Gena.methodSubscribe
  host := some "10.0.0.1:49152".toList
  callback := some "<http://10.0.0.2/a><http://10.0.0.3/b>".toList
  nt := some Gena.ntEvent
  sid := none

/-- A renewal or an UNSUBSCRIBE for the first subscription. -/
def sampleRequest (method : Str) : SubscriptionRequest :=
  ⟨method, some "10.0.0.1:49152".toList, none, none, some sampleSid⟩

/-- A service without evented variables. -/
def sampleQuery : ServiceState → Str → Option Str := fun _ _ => none

end GUPnP.Service
