import GUPnP.Base.Trace
import GUPnP.Service.Proof.LifeRuns

/-!
# What follows an accepted UNSUBSCRIBE

`UnsubscribeFinal ctx sid log`: in what was done about a subscription, no event that is raised after
an accepted UNSUBSCRIBE is sent, and once the initial event has completed every renewal and every
UNSUBSCRIBE is refused. Before the initial event was delivered, `unsubscribe` only marks the
subscription, and no response acts on the mark (`marked_is_served`); where the mark is never needed
the subscription is removed at once and the property holds (`unsubscribe_final_at_once`).
-/

set_option autoImplicit false

namespace GUPnP.Service

/-! ## Finality -/

/-- The effect accepts an UNSUBSCRIBE for the subscription. -/
def Unsubscribes (sid : Str) : Effect → Prop
  | .answer req ans =>
    req.method = Gena.methodUnsubscribe ∧ req.sid = some sid ∧ ans.status = .ok
  | _ => False

/-- The effect ends the delivery of the event: it was delivered, the subscriber does not know the
subscription, or it failed at the last URL. -/
def Completes (id : Nat) : Effect → Prop
  | .response msg (.done _ status _) =>
    msg.propertySet.id = id ∧ (isSuccessful status = true ∨ status = 412)
  | .notifyFailed msg _ _ => msg.propertySet.id = id
  | _ => False

/-- The delivery of the initial event has ended. -/
def InitialCompleted (log : List Effect) : Prop :=
  ∃ id ∈ (eventIds log).head?, ∃ e ∈ log, Completes id e

/-- A renewal or an UNSUBSCRIBE for the subscription is answered 412. -/
def Refuses (ctx : Context) (sid : Str) : Effect → Prop
  | .answer req ans => Addressed ctx sid req → ans.status = noPrevious
  | _ => True

/-- What an accepted UNSUBSCRIBE promises, after what was done before it. -/
structure Final (ctx : Context) (sid : Str) (before after : List Effect) : Prop where
  silent : ∀ msg ∈ notifies after, msg.propertySet.id ∈ eventIds before
  refuses : Each (fun between e _ => InitialCompleted (before ++ between) → Refuses ctx sid e) after

def UnsubscribeFinal (ctx : Context) (sid : Str) (log : List Effect) : Prop :=
  Each (fun before e after => Unsubscribes sid e → Final ctx sid (before ++ [e]) after) log

instance (sid : Str) : DecidablePred (Unsubscribes sid)
  | .answer req ans => inferInstanceAs (Decidable (_ ∧ req.sid = some sid ∧ ans.status = .ok))
  | .notify _ => inferInstanceAs (Decidable False)
  | .response _ _ => inferInstanceAs (Decidable False)
  | .notifyFailed _ _ _ => inferInstanceAs (Decidable False)

instance (id : Nat) : DecidablePred (Completes id)
  | .response msg (.done _ status _) =>
    inferInstanceAs (Decidable (msg.propertySet.id = id ∧ (isSuccessful status = true ∨ status = 412)))
  | .notifyFailed msg _ _ => inferInstanceAs (Decidable (msg.propertySet.id = id))
  | .response _ .cancelled => inferInstanceAs (Decidable False)
  | .notify _ => inferInstanceAs (Decidable False)
  | .answer _ _ => inferInstanceAs (Decidable False)

instance (log : List Effect) : Decidable (InitialCompleted log) :=
  inferInstanceAs (Decidable (∃ id ∈ (eventIds log).head?, ∃ e ∈ log, Completes id e))

instance (ctx : Context) (sid : Str) (req : SubscriptionRequest) : Decidable (Addressed ctx sid req) :=
  decidable_of_iff (ctx.validateHostHeader req.host = true ∧
      (req.method = Gena.methodSubscribe ∨ req.method = Gena.methodUnsubscribe) ∧
      req.callback = none ∧ req.nt = none ∧ req.sid = some sid)
    ⟨fun h => ⟨h.1, h.2.1, h.2.2.1, h.2.2.2.1, h.2.2.2.2⟩,
      fun h => ⟨h.host, h.method, h.callback, h.nt, h.sid⟩⟩

instance (ctx : Context) (sid : Str) : DecidablePred (Refuses ctx sid)
  | .answer req ans =>
    inferInstanceAs (Decidable (Addressed ctx sid req → ans.status = noPrevious))
  | .notify _ => inferInstanceAs (Decidable True)
  | .response _ _ => inferInstanceAs (Decidable True)
  | .notifyFailed _ _ _ => inferInstanceAs (Decidable True)

instance (ctx : Context) (sid : Str) (before after : List Effect) :
    Decidable (Final ctx sid before after) :=
  decidable_of_iff ((∀ msg ∈ notifies after, msg.propertySet.id ∈ eventIds before) ∧
      Each (fun between e _ => InitialCompleted (before ++ between) → Refuses ctx sid e) after)
    ⟨fun h => ⟨h.1, h.2⟩, fun h => ⟨h.silent, h.refuses⟩⟩

instance (ctx : Context) (sid : Str) (log : List Effect) :
    Decidable (UnsubscribeFinal ctx sid log) := inferInstanceAs (Decidable (Each _ log))

variable {ctx : Context} {sid : Str} {log tail : List Effect}

/-- Nothing is promised before an UNSUBSCRIBE is accepted. -/
theorem unsubscribeFinal_of_none (h : ∀ e ∈ log, ¬ Unsubscribes sid e) :
    UnsubscribeFinal ctx sid log := by
  intro before e after he hu
  exact absurd hu (h e (by simp [he]))

/-- An effect that sends nothing and refuses keeps the promise. -/
theorem Final.snoc {before after : List Effect} {e : Effect} (h : Final ctx sid before after)
    (hn : notifies [e] = []) (hr : Refuses ctx sid e) : Final ctx sid before (after ++ [e]) := by
  refine ⟨fun msg hm => h.silent msg ?_, h.refuses.append (fun _ _ _ hp => hp) ?_⟩
  · rwa [notifies_append, hn, List.append_nil] at hm
  · exact each_singleton.2 fun _ => hr

theorem UnsubscribeFinal.snoc (h : UnsubscribeFinal ctx sid log) {e : Effect}
    (hn : notifies [e] = []) (hr : Refuses ctx sid e) : UnsubscribeFinal ctx sid (log ++ [e]) := by
  refine Each.append h (fun before e' after hp hu => (hp hu).snoc hn hr) (each_singleton.2 fun _ => ?_)
  exact ⟨nofun, each_nil⟩

/-- The first UNSUBSCRIBE that is accepted. -/
theorem unsubscribeFinal_first (h : ∀ e ∈ log, ¬ Unsubscribes sid e) (e : Effect) :
    UnsubscribeFinal ctx sid (log ++ [e]) := by
  refine each_append.2 ⟨fun before e' after he hu => ?_, each_singleton.2 fun _ => ?_⟩
  · exact absurd hu (h e' (by simp [he]))
  · exact ⟨nofun, each_nil⟩

/-! ## Removal at once -/

/-- An UNSUBSCRIBE the step accepts is for a subscription whose initial event was delivered. -/
def RemovesAtOnce (ctx : Context) (s : ServiceState) : Event → Prop
  | .request req _ => req.method = Gena.methodUnsubscribe → ∀ sid d, Addressed ctx sid req →
      s.subscriptions.lookup sid = some d → d.initialStateSent = true
  | _ => True

/-- The invariant: an accepted UNSUBSCRIBE is final, and the subscription is gone after it. -/
structure Ended (ctx : Context) (sid : Str) (life : Life) (log : List Effect) : Prop where
  final : UnsubscribeFinal ctx sid log
  gone : (∃ e ∈ log, Unsubscribes sid e) → life = .dead

theorem Ended.none {life : Life} (h : Ended ctx sid life log) (hl : life ≠ .dead) :
    ∀ e ∈ log, ¬ Unsubscribes sid e :=
  fun e he hu => hl (h.gone ⟨e, he, hu⟩)

/-- What is done before an UNSUBSCRIBE is accepted. -/
theorem Ended.append {life life' : Life} (h : Ended ctx sid life log) (hl : life ≠ .dead)
    (ht : ∀ e ∈ tail, ¬ Unsubscribes sid e) : Ended ctx sid life' (log ++ tail) := by
  have hnone : ∀ e ∈ log ++ tail, ¬ Unsubscribes sid e := fun e he =>
    (List.mem_append.1 he).elim (h.none hl e) (ht e)
  exact ⟨unsubscribeFinal_of_none hnone, fun ⟨e, he, hu⟩ => absurd hu (hnone e he)⟩

theorem not_unsubscribes {req : SubscriptionRequest} {ans : Answer}
    (h : req.method = Gena.methodUnsubscribe → ans.status ≠ .ok) :
    ¬ Unsubscribes sid (.answer req ans) :=
  fun hu => h hu.1 hu.2.2

/-- A SUBSCRIBE is no UNSUBSCRIBE. -/
theorem subscribe_ne_unsubscribe : Gena.methodSubscribe ≠ Gena.methodUnsubscribe := by decide

/-- A response answers no request. -/
theorem not_unsubscribes_response {i : Nat} {msg : NotifySubscriberData} {outcome : NotifyOutcome}
    {d : SubscriptionData} {e : Effect}
    (he : e ∈ .response msg outcome :: (notifyGotResponse i msg outcome d).2) :
    ¬ Unsubscribes sid e := by
  rcases List.mem_cons.1 he with rfl | he
  · exact id
  · obtain ⟨-, hx⟩ | ⟨-, hx⟩ | ⟨-, hx⟩ | ⟨-, next, -, hx⟩ | ⟨-, -, error, hx⟩ :=
      notifyGotResponse_cases i msg outcome d
    · rw [hx] at he
      cases he
    · rw [hx] at he
      cases he
    · rw [hx] at he
      cases he
    · rw [hx] at he
      rw [mem_notifySubscriber he]
      exact id
    · rw [hx] at he
      rw [List.mem_singleton.1 he]
      exact id

theorem ended_invariant (ctx : Context) (sid : Str) :
    LifeInvariant ctx sid (RemovesAtOnce ctx) (Ended ctx sid) where
  init := ⟨each_nil, fun ⟨e, he, _⟩ => by cases he⟩
  create := fun {req ans callbacks log} src _ hg h => by
    refine h.append nofun fun e he => ?_
    rw [List.mem_singleton.1 he]
    exact not_unsubscribes fun hm => absurd (hg.method.symm.trans hm) subscribe_ne_unsubscribe
  event := fun {d log propertySet} _ h => by
    refine h.append nofun fun e he => ?_
    rw [mem_notifySubscriber he]
    exact id
  response := fun {s i msg outcome d} _ _ _ h => h.append nofun fun e he =>
    not_unsubscribes_response he
  renew := fun {req d log} src _ hm h => by
    refine h.append nofun fun e he => ?_
    rw [List.mem_singleton.1 he]
    exact not_unsubscribes fun hm' => absurd (hm.symm.trans hm') subscribe_ne_unsubscribe
  unsubscribe := fun {s req query d} ho ha hm hd h => by
    rw [if_pos (ho hm sid d ha hd)]
    exact ⟨unsubscribeFinal_first (h.none nofun) _, fun _ => rfl⟩
  reject := fun {req ans life log} _ hs hunknown h => by
    refine ⟨h.final.snoc rfl fun ha => (hunknown ha).2, fun ⟨e, he, hu⟩ => ?_⟩
    rcases List.mem_append.1 he with he | he
    · exact h.gone ⟨e, he, hu⟩
    · rw [List.mem_singleton.1 he] at hu
      exact absurd hu (not_unsubscribes fun _ => hs)
  remove := fun {d log} h => ⟨h.final, fun _ => rfl⟩

/-- **An UNSUBSCRIBE that removes the subscription at once is final.** -/
theorem unsubscribe_final_at_once {es : List Event} {s : ServiceState}
    (h : Run (step ctx) (RemovesAtOnce ctx) .init es s) (sid : Str) :
    UnsubscribeFinal ctx sid (about sid s.log) :=
  (lives_run (ended_invariant ctx sid) h).final

/-- An UNSUBSCRIBE after the initial event was delivered, another event, and a renewal. -/
theorem unsubscribe_final_sample : ∃ s, Run (step sampleContext) (RemovesAtOnce sampleContext) .init
    [.request sampleSubscribe sampleQuery, .response sampleSid 0 (.done none 200 "OK"),
      .request (sampleRequest Gena.methodUnsubscribe) sampleQuery,
      .notifyValue "Status".toList "1".toList,
      .request (sampleRequest Gena.methodSubscribe) sampleQuery] s ∧
    (∃ e ∈ about sampleSid s.log, Unsubscribes sampleSid e) ∧
    UnsubscribeFinal sampleContext sampleSid (about sampleSid s.log) := by
  have hrun : Run (step sampleContext) (RemovesAtOnce sampleContext) .init
      [.request sampleSubscribe sampleQuery, .response sampleSid 0 (.done none 200 "OK"),
        .request (sampleRequest Gena.methodUnsubscribe) sampleQuery,
        .notifyValue "Status".toList "1".toList,
        .request (sampleRequest Gena.methodSubscribe) sampleQuery] _ :=
    .cons (fun h => absurd h (by decide)) rfl (.cons trivial rfl
      (.cons (fun _ sid d ha hd => by
        obtain rfl : sampleSid = sid := Option.some.inj ha.sid
        cases hd
        rfl) rfl
        (.cons trivial rfl (.single (fun h => absurd h (by decide)) rfl))))
  exact ⟨_, hrun, by decide, unsubscribe_final_at_once hrun sampleSid⟩

/-- A subscription that is only marked is served on: the UNSUBSCRIBE comes before the initial event
was delivered, an event raised later is sent, and after the initial event was delivered a renewal is
granted. -/
theorem marked_is_served : ¬ ∀ (ctx : Context) (es : List Event) (s : ServiceState) (sid : Str),
    Run (step ctx) AnyStep .init es s → UnsubscribeFinal ctx sid (about sid s.log) := by
  intro h
  have heval : ([Event.request sampleSubscribe sampleQuery,
      .request (sampleRequest Gena.methodUnsubscribe) sampleQuery,
      .notifyValue "Status".toList "1".toList,
      .response sampleSid 1 (.done none 200 "OK"),
      .request (sampleRequest Gena.methodSubscribe) sampleQuery].foldlM (step sampleContext)
        .init).map (fun s => decide (UnsubscribeFinal sampleContext sampleSid
          (about sampleSid s.log))) = some false := by decide
  obtain ⟨s, hrun, hs⟩ := Run.exists_of_foldlM heval
  exact of_decide_eq_false hs (h sampleContext _ s sampleSid hrun)

end GUPnP.Service
