import GUPnP.Service.Proof.Frame
import GUPnP.Service.Proof.Sent
import Mathlib.Data.Set.Defs

/-!
# Updates under freeze and thaw

`updates_in_order`: whatever else happens to the service, the event messages that the updates
(`isUpdate`) create for a subscription, followed by the queue, hold the notified pairs in the order
they were notified. Nothing is sent while notifications are frozen, thawing empties the queue, and
all subscriptions that are served throughout get the same property sets.

One step either flushes the queue, and then every served subscription is sent the same property set,
or leaves what it notifies in the queue (`step_updates`).
-/

set_option autoImplicit false

namespace GUPnP.Service

/-- The pairs of variable and value an event notifies. -/
def notifiedBy : Event → List NotifyData
  | .notifyValue name value => [⟨name, value⟩]
  | _ => []

/-- The subscription exists and is not marked for deletion. -/
def Served (sid : Str) (s : ServiceState) : Prop :=
  ∃ d, s.subscriptions.lookup sid = some d ∧ d.toDelete = false

instance (sid : Str) (s : ServiceState) : Decidable (Served sid s) :=
  match h : s.subscriptions.lookup sid with
  | none => isFalse fun ⟨_, hd, _⟩ => by rw [h] at hd; cases hd
  | some d => decidable_of_iff (d.toDelete = false)
      ⟨fun hd => ⟨d, h, hd⟩, fun ⟨_, hd', hd⟩ => by rw [h] at hd'; cases hd'; exact hd⟩

variable {ctx : Context} {sid : Str} {s t : ServiceState} {e : Event} {S : Set Str}

/-! ## One step -/

theorem sent_flush (h : WellFormed ctx s) {d : SubscriptionData}
    (hd : s.subscriptions.lookup sid = some d) (hdel : d.toDelete = false) :
    sentBetween sid s (flushNotifications s) = [d.message s.queued] := by
  have hlog := about_flush h sid
  rw [hd] at hlog
  have hcan : d.canDelete = false := by simp [SubscriptionData.canDelete, hdel]
  obtain ⟨htrue, -⟩ | ⟨-, he⟩ := notifySubscriber_cases s.queued d
  · rw [hcan] at htrue
    cases htrue
  · rw [sentBetween_eq hlog]
    simp [he, notifies]

/-- Each of the subscriptions is sent the same property sets; these and the queue after hold the queue
before and the pairs notified. -/
def Delivers (S : Set Str) (sent : Str → List NotifySubscriberData) (before after : List NotifyData)
    (pairs : List NotifyData) : Prop :=
  ∃ sets : List PropertySet,
    (∀ sid ∈ S, (sent sid).map NotifySubscriberData.propertySet = sets) ∧
    sets.flatMap PropertySet.properties ++ after = before ++ pairs

variable {sent sent' : Str → List NotifySubscriberData} {q q' q'' pairs pairs' : List NotifyData}

theorem delivers_nothing (h : ∀ sid ∈ S, sent sid = []) (hq : q' = q ++ pairs) :
    Delivers S sent q q' pairs :=
  ⟨[], fun sid hs => by rw [h sid hs, List.map_nil], hq⟩

theorem Delivers.trans (h : Delivers S sent q q' pairs) (h' : Delivers S sent' q' q'' pairs') :
    Delivers S (fun sid => sent sid ++ sent' sid) q q'' (pairs ++ pairs') := by
  obtain ⟨sets, hs, hq⟩ := h
  obtain ⟨sets', hs', hq'⟩ := h'
  refine ⟨sets ++ sets', fun sid hm => ?_, ?_⟩
  · rw [List.map_append, hs sid hm, hs' sid hm]
  · rw [List.flatMap_append, List.append_assoc, hq', ← List.append_assoc, hq, List.append_assoc]

/-- A flush delivers the queue. -/
theorem delivers_flush (h : WellFormed ctx s) (hS : ∀ sid ∈ S, Served sid s) :
    Delivers S (fun sid => sentBetween sid s (flushNotifications s)) s.notifyQueue [] [] := by
  refine ⟨[s.queued], fun sid hm => ?_, ?_⟩
  · obtain ⟨d, hd, hdel⟩ := hS sid hm
    exact congrArg (List.map NotifySubscriberData.propertySet) (sent_flush h hd hdel)
  · simp [ServiceState.queued]

theorem step_updates (h : WellFormed ctx s) (hS : ∀ sid ∈ S, Served sid s)
    (he : step ctx s e = some t) :
    Delivers S (fun sid => if isUpdate e then sentBetween sid s t else []) s.notifyQueue
      t.notifyQueue (notifiedBy e) := by
  cases hu : isUpdate e with
  | false =>
    have hpairs : notifiedBy e = [] := by
      cases e with
      | notifyValue name value => cases hu
      | _ => rfl
    refine delivers_nothing (fun _ _ => rfl) ?_
    rw [step_queue he hu, hpairs, List.append_nil]
  | true =>
    simp only [if_true]
    cases e with
    | notifyValue name value =>
      obtain rfl := Option.some.inj he
      -- The queue with the new pair.
      have hw : WellFormed ctx { s with notifyQueue := s.notifyQueue ++ [⟨name, value⟩] } :=
        ⟨h.entry, h.issued, h.log⟩
      obtain ⟨sets, hsets, hq⟩ := delivers_flush hw hS
      unfold notifyValue
      simp only
      split
      · exact delivers_nothing (fun sid _ => sentBetween_of_eq rfl) rfl
      · exact ⟨sets, hsets, hq.trans (List.append_nil _)⟩
    | freezeNotify =>
      obtain rfl := Option.some.inj he
      exact delivers_nothing (fun sid _ => sentBetween_of_eq rfl) (List.append_nil _).symm
    | thawNotify =>
      obtain rfl := Option.some.inj he
      have hw : WellFormed ctx { s with notifyFrozen := false } := ⟨h.entry, h.issued, h.log⟩
      have hflush := delivers_flush hw hS
      unfold thawNotify
      simp only
      split
      · exact delivers_nothing (fun sid _ => sentBetween_of_eq rfl) (List.append_nil _).symm
      · exact hflush
    | _ => cases hu

/-! ## Frozen and thawed -/

/-- An update that ends frozen sends nothing. -/
theorem frozen_sends_nothing (hu : isUpdate e = true) (he : step ctx s e = some t)
    (hf : t.notifyFrozen = true) (sid : Str) : sentBetween sid s t = [] := by
  cases e with
  | notifyValue name value =>
    obtain rfl := Option.some.inj he
    unfold notifyValue at hf ⊢
    simp only at hf ⊢
    split
    · exact sentBetween_of_eq rfl
    · rename_i hthawed
      rw [if_neg hthawed] at hf
      exact absurd hf hthawed
  | freezeNotify =>
    obtain rfl := Option.some.inj he
    exact sentBetween_of_eq rfl
  | thawNotify =>
    obtain rfl := Option.some.inj he
    unfold thawNotify at hf
    simp only at hf
    split at hf <;> cases hf
  | _ => cases hu

theorem thawed_queue (he : step ctx s .thawNotify = some t) : t.notifyQueue = [] := by
  obtain rfl := Option.some.inj he
  simp only [thawNotify]
  split
  · rename_i hempty
    simpa using hempty
  · rfl

/-! ## Runs -/

theorem run_updates (h : WellFormed ctx s) {es : List Event}
    (hrun : Run (step ctx) (fun s _ => ∀ sid ∈ S, Served sid s) s es t) :
    Delivers S (fun sid => sentIn ctx sid isUpdate s es) s.notifyQueue t.notifyQueue
      (es.flatMap notifiedBy) := by
  induction es generalizing s with
  | nil =>
    obtain rfl := hrun.nil_eq
    exact delivers_nothing (fun _ _ => rfl) (List.append_nil _).symm
  | cons e es ih =>
    obtain ⟨v, hS, he, hrun⟩ := hrun.cons_inv
    have hstep := step_updates h hS he
    have hrest := ih (step_lives h he []).1 hrun
    simpa only [sentIn, he, List.flatMap_cons] using hstep.trans hrest

/-- **No update is lost, duplicated or reordered.** In every run from a reachable state, for all
subscriptions that are served throughout: the property sets of the event messages created for them
are the same, and followed by the queue they hold what was queued and what was notified, in order. An
update that ends frozen creates no message, and a thaw leaves the queue empty. Where all events are
updates, these messages are all that was sent. -/
theorem updates_in_order {es₀ es : List Event} (h₀ : Run (step ctx) AnyStep .init es₀ s)
    (h : Run (step ctx) (fun s _ => ∀ sid ∈ S, Served sid s) s es t) :
    (∃ sets : List PropertySet,
      (∀ sid ∈ S,
        (sentIn ctx sid isUpdate s es).map NotifySubscriberData.propertySet = sets) ∧
      sets.flatMap PropertySet.properties ++ t.notifyQueue =
        s.notifyQueue ++ es.flatMap notifiedBy) ∧
    (∀ es₁ e es₂ v w, es = es₁ ++ e :: es₂ → Run (step ctx) AnyStep s es₁ v →
      step ctx v e = some w →
      (isUpdate e = true → w.notifyFrozen = true → ∀ sid, sentBetween sid v w = []) ∧
      (e = .thawNotify → w.notifyQueue = [])) ∧
    ((∀ e ∈ es, isUpdate e = true) → ∀ sid, notifies (about sid t.log) =
      notifies (about sid s.log) ++ sentIn ctx sid isUpdate s es) := by
  have hw := wellFormed_run h₀
  refine ⟨run_updates hw h, fun es₁ e es₂ v w _ _ he => ⟨fun hu hf sid => ?_, ?_⟩, fun hp sid => ?_⟩
  · exact frozen_sends_nothing hu he hf sid
  · rintro rfl
    exact thawed_queue he
  · exact notifies_sentIn hw h hp sid

/-- Updates around a freeze. -/
def sampleUpdates : List Event :=
  [.notifyValue "A".toList "1".toList, .freezeNotify, .notifyValue "B".toList "2".toList,
    .notifyValue "A".toList "3".toList, .thawNotify]

theorem updates_in_order_sample : ∃ s t,
    Run (step sampleContext) (fun s _ => ∀ sid ∈ ({sampleSid} : Set Str), Served sid s) s
      sampleUpdates t ∧
    ∃ sets : List PropertySet,
      (sentIn sampleContext sampleSid isUpdate s sampleUpdates).map
        NotifySubscriberData.propertySet = sets ∧
      sets.flatMap PropertySet.properties =
        [⟨"A".toList, "1".toList⟩, ⟨"B".toList, "2".toList⟩, ⟨"A".toList, "3".toList⟩] := by
  have hstart : Run (step sampleContext) AnyStep .init [.request sampleSubscribe sampleQuery]
      (subscriptionServerHandler sampleContext sampleQuery sampleSubscribe .init) :=
    .single trivial rfl
  have heval : (sampleUpdates.foldlM (fun s e => if Served sampleSid s then step sampleContext s e
      else none) (subscriptionServerHandler sampleContext sampleQuery sampleSubscribe .init)).map
        ServiceState.notifyQueue = some [] := by decide
  obtain ⟨t, hrun, ht⟩ := Run.exists_of_foldlM_ok heval
  have hall : Run (step sampleContext) (fun s _ => ∀ sid ∈ ({sampleSid} : Set Str), Served sid s)
      (subscriptionServerHandler sampleContext sampleQuery sampleSubscribe .init) sampleUpdates t :=
    hrun.mono fun s e hs sid hm => (show sid = sampleSid from hm) ▸ hs
  obtain ⟨sets, hsets, hq⟩ := (updates_in_order hstart hall).1
  rw [ht, List.append_nil] at hq
  exact ⟨_, t, hall, sets, hsets sampleSid rfl, hq⟩

end GUPnP.Service
