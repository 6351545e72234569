import GUPnP.Service.Proof.LifeRuns
import Mathlib.Data.List.Dedup
import Mathlib.Logic.Function.Iterate

/-!
# The numbers of the NOTIFY messages

`attempts_counted`: in every run the `k`-th NOTIFY of a subscription carries the `k`-th value of its
counter, whether it sends an event for the first time or again to the next callback URL. The numbers
are therefore those of the events (`Numbered`) where no event is sent again
(`numbered_without_retries`); a retry takes the number of the next event (`retry_takes_number`).
-/

set_option autoImplicit false

namespace GUPnP.Service

/-! ## Attempts and events -/

/-- The events that were sent, in the order of their first attempts. -/
def events (log : List Effect) : List Nat := (eventIds log).reverse.dedup.reverse

/-- Every attempt to deliver the `i`-th event carries the `i`-th value of a counter that starts at 0
and goes on with `nextSeq`. -/
def Numbered (log : List Effect) : Prop :=
  ∀ msg ∈ notifies log,
    msg.seq = CString.printD (nextSeq^[(events log).idxOf msg.propertySet.id] 0)

instance (log : List Effect) : Decidable (Numbered log) :=
  inferInstanceAs (Decidable (∀ msg ∈ notifies log, _))

theorem events_of_nodup {log : List Effect} (h : (eventIds log).Nodup) :
    events log = eventIds log := by
  rw [events, (List.nodup_reverse.2 h).dedup, List.reverse_reverse]

/-- Where no event was sent twice, the number of an event is that of its attempt. -/
theorem numbered_of_nodup {log : List Effect} (hn : (eventIds log).Nodup)
    (hs : ∀ k msg, (notifies log)[k]? = some msg → msg.seq = CString.printD (nextSeq^[k] 0)) :
    Numbered log := by
  intro msg hm
  obtain ⟨k, hk, rfl⟩ := List.mem_iff_getElem.1 hm
  have hidx : (events log).idxOf (notifies log)[k].propertySet.id = k := by
    have hk' : k < (eventIds log).length := by
      rw [eventIds, List.length_map]
      exact hk
    have hid : (eventIds log)[k] = (notifies log)[k].propertySet.id := List.getElem_map _
    rw [events_of_nodup hn, ← hid, hn.idxOf_getElem k hk']
  rw [hidx]
  exact hs k _ (List.getElem?_eq_getElem hk)

/-! ## The counter -/

/-- The counter of a subscription counts its NOTIFY messages, which carry its values. -/
structure Counted (life : Life) (log : List Effect) : Prop where
  unborn : life = .unborn → notifies log = []
  counter : ∀ d, life = .alive d → d.seq = nextSeq^[(notifies log).length] 0
  sent : ∀ k msg, (notifies log)[k]? = some msg → msg.seq = CString.printD (nextSeq^[k] 0)

variable {ctx : Context} {sid : Str} {life life' : Life} {log log' : List Effect}

/-- A change that sends nothing. -/
theorem Counted.keep (h : Counted life log) (hn : notifies log' = [])
    (hu : life' = .unborn → life = .unborn)
    (hd : ∀ d', life' = .alive d' → ∃ d, life = .alive d ∧ d'.seq = d.seq) :
    Counted life' (log ++ log') := by
  have heq : notifies (log ++ log') = notifies log := by rw [notifies_append, hn, List.append_nil]
  refine ⟨fun hl => ?_, fun d' hl => ?_, fun k msg hk => ?_⟩
  · rw [heq]
    exact h.unborn (hu hl)
  · obtain ⟨d, hd, hseq⟩ := hd d' hl
    rw [heq, hseq]
    exact h.counter d hd
  · rw [heq] at hk
    exact h.sent k msg hk

theorem Counted.notify {d : SubscriptionData} (h : Counted (.alive d) log)
    (propertySet : PropertySet) : Counted (.alive (notifySubscriber propertySet d).1)
      (log ++ (notifySubscriber propertySet d).2) := by
  obtain ⟨-, he⟩ | ⟨-, he⟩ := notifySubscriber_cases propertySet d
  · rw [he]
    simpa using h
  · rw [he]
    have hcounter := h.counter d rfl
    have heq : notifies (log ++ [Effect.notify (d.message propertySet)]) =
        notifies log ++ [d.message propertySet] := notifies_append _ _
    refine ⟨nofun, fun d' hd' => ?_, fun k msg hk => ?_⟩
    · cases hd'
      rw [heq, List.length_append, List.length_singleton, Function.iterate_succ_apply', ← hcounter]
    · rw [heq, List.getElem?_append] at hk
      split at hk
      · exact h.sent k msg hk
      · rename_i hlt
        have hlast := (List.getElem?_eq_some_iff.1 hk).1
        rw [List.length_singleton] at hlast
        obtain rfl : k = (notifies log).length := by omega
        rw [Nat.sub_self] at hk
        obtain rfl := Option.some.inj hk
        rw [← hcounter]
        rfl

/-- The number of a subscription is kept by what does not send. -/
theorem Counted.same {d d' : SubscriptionData} (h : Counted (.alive d) log)
    (hn : notifies log' = []) (hd : d'.seq = d.seq) : Counted (.alive d') (log ++ log') := by
  refine h.keep hn nofun fun d'' hl => ⟨d, rfl, ?_⟩
  cases hl
  exact hd

theorem counted_invariant (ctx : Context) (sid : Str) :
    LifeInvariant ctx sid AnyStep Counted where
  init := ⟨fun _ => rfl, nofun, nofun⟩
  create := fun {req ans callbacks log} src _ _ h => by
    have hnil := h.unborn rfl
    have heq : notifies (log ++ [Effect.answer req ans]) = [] := by rw [notifies_append, hnil]; rfl
    refine ⟨nofun, fun d hd => ?_, fun k msg hk => ?_⟩
    · cases hd
      rw [heq]
      rfl
    · rw [heq] at hk
      cases hk
  event := fun {d log propertySet} _ h => h.notify propertySet
  response := fun {s i msg outcome d} _ hd hm h => by
    obtain ⟨-, he⟩ | ⟨-, he⟩ | ⟨-, he⟩ | ⟨-, next, -, he⟩ | ⟨-, -, error, he⟩ :=
      notifyGotResponse_cases i msg outcome d
    · rw [he]
      exact h.same rfl rfl
    · rw [he]
      exact h.same rfl rfl
    · rw [he]
      exact h.keep rfl nofun nofun
    · rw [he, List.append_cons]
      have hs : Counted (.alive { d.without i with callbacks := next })
          (about sid s.log ++ [.response msg outcome]) := h.same rfl rfl
      exact hs.notify msg.propertySet
    · rw [he]
      exact h.same rfl rfl
  renew := fun {req d log} src _ _ h => h.same rfl rfl
  unsubscribe := fun {s req query d} _ _ _ _ h => by
    split
    · exact h.keep rfl nofun nofun
    · exact h.same rfl rfl
  reject := fun {req ans life log} _ _ _ h => h.keep rfl id fun d hd => ⟨d, hd, rfl⟩
  remove := fun {d log} h => by
    rw [← List.append_nil log]
    exact h.keep rfl nofun nofun

/-- **Every attempt is counted**: the `k`-th NOTIFY of a subscription carries the `k`-th value of the
counter. -/
theorem attempts_counted {es : List Event} {s : ServiceState}
    (h : Run (step ctx) AnyStep .init es s) (sid : Str) {k : Nat} {msg : NotifySubscriberData}
    (hk : (notifies (about sid s.log))[k]? = some msg) :
    msg.seq = CString.printD (nextSeq^[k] 0) :=
  (lives_run (counted_invariant ctx sid) h).sent k msg hk

/-! ## Retries -/

/-- The step sends an event again: an attempt failed, the list of callbacks goes on, and the
subscription is not waiting for its deletion. -/
def Retries (s : ServiceState) : Event → Prop
  | .response sid _ outcome => OtherFailure outcome ∧ ∃ d, s.subscriptions.lookup sid = some d ∧
      d.callbacks.next? ≠ none ∧ d.canDelete = false
  | _ => False

theorem nodup_notify {d : SubscriptionData} {propertySet : PropertySet}
    (hfresh : propertySet.id ∉ eventIds log) (h : (eventIds log).Nodup) :
    (eventIds (log ++ (notifySubscriber propertySet d).2)).Nodup := by
  obtain ⟨-, he⟩ | ⟨-, he⟩ := notifySubscriber_cases propertySet d
  · rw [he, List.append_nil]
    exact h
  · rw [he, eventIds_append]
    refine List.nodup_append.2 ⟨h, List.nodup_singleton _, fun a ha b hb hab => ?_⟩
    have hid : b = propertySet.id := List.mem_singleton.1 hb
    rw [hab, hid] at ha
    exact hfresh ha

/-- What is not a NOTIFY leaves the events sent as they are. -/
theorem eventIds_append_eq (hn : eventIds log' = []) : eventIds (log ++ log') = eventIds log := by
  rw [eventIds_append, hn, List.append_nil]

/-- Without retries every event is sent once. -/
theorem sent_once_invariant (ctx : Context) (sid : Str) :
    LifeInvariant ctx sid (fun s e => ¬ Retries s e) fun _ log => (eventIds log).Nodup where
  init := List.nodup_nil
  create := fun {req ans callbacks log} src _ _ h => by rwa [eventIds_append_eq rfl]
  event := fun {d log propertySet} hfresh h => nodup_notify hfresh h
  response := fun {s i msg outcome d} ho hd _ h => by
    obtain ⟨-, he⟩ | ⟨-, he⟩ | ⟨-, he⟩ | ⟨hfail, next, hnext, he⟩ | ⟨-, -, error, he⟩ :=
      notifyGotResponse_cases i msg outcome d
    · rwa [he, eventIds_append_eq rfl]
    · rwa [he, eventIds_append_eq rfl]
    · rwa [he, eventIds_append_eq rfl]
    · -- The next URL is taken only where nothing is sent any more.
      have hdelete : d.canDelete = true := by
        by_contra hc
        exact ho ⟨hfail, d, hd, by simp [hnext], by simpa using hc⟩
      obtain ⟨-, hsend⟩ | ⟨hsend, -⟩ :=
        notifySubscriber_cases msg.propertySet { d.without i with callbacks := next }
      · rwa [he, hsend, eventIds_append_eq rfl]
      · have hkeep : d.canDelete = false := hsend
        rw [hdelete] at hkeep
        cases hkeep
    · rwa [he, eventIds_append_eq rfl]
  renew := fun {req d log} src _ _ h => by rwa [eventIds_append_eq rfl]
  unsubscribe := fun {s req query d} _ _ _ _ h => by rwa [eventIds_append_eq rfl]
  reject := fun {req ans life log} _ _ _ h => by rwa [eventIds_append_eq rfl]
  remove := fun h => h

/-- **Without retries the numbers are those of the events**: all attempts of an event carry the same
number, consecutive events carry consecutive numbers, and the initial event carries 0. -/
theorem numbered_without_retries {es : List Event} {s : ServiceState}
    (h : Run (step ctx) (fun s e => ¬ Retries s e) .init es s) (sid : Str) :
    Numbered (about sid s.log) := by
  refine numbered_of_nodup (lives_run (sent_once_invariant ctx sid) h) fun k msg hk => ?_
  exact attempts_counted h.any sid hk

theorem numbered_sample : ∃ s, Run (step sampleContext) (fun s e => ¬ Retries s e) .init
    [.request sampleSubscribe sampleQuery, .notifyValue "Status".toList "1".toList,
      .response sampleSid 1 (.done none 200 "OK")] s ∧
    (notifies (about sampleSid s.log)).map NotifySubscriberData.seq = ["0".toList, "1".toList] ∧
    Numbered (about sampleSid s.log) := by
  have hrun : Run (step sampleContext) (fun s e => ¬ Retries s e) .init
      [.request sampleSubscribe sampleQuery, .notifyValue "Status".toList "1".toList,
        .response sampleSid 1 (.done none 200 "OK")] _ :=
    .cons (fun h => h) rfl (.cons (fun h => h) rfl
      (.single (fun h => absurd h.1.1 (by decide)) rfl))
  exact ⟨_, hrun, rfl, numbered_without_retries hrun sampleSid⟩

/-- A retry takes the number of the next event: the initial event fails at the first URL and is sent
to the second one with the number 1. -/
theorem retry_takes_number : ¬ ∀ (ctx : Context) (es : List Event) (s : ServiceState) (sid : Str),
    Run (step ctx) AnyStep .init es s → Numbered (about sid s.log) := by
  intro h
  have heval : ([Event.request sampleSubscribe sampleQuery,
      .response sampleSid 0 (.done none 500 "Error")].foldlM (step sampleContext) .init).map
        (fun s => decide (Numbered (about sampleSid s.log))) = some false := by decide
  obtain ⟨s, hrun, hs⟩ := Run.exists_of_foldlM heval
  exact of_decide_eq_false hs (h sampleContext _ s sampleSid hrun)

end GUPnP.Service
