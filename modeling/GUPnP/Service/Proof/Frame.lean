import GUPnP.Service.Proof.LifeRuns

/-!
# What the handlers leave alone

`Frame s t`: from `s` to `t` the evented variables, the queue, whether the introspection is
outstanding and the counter of SIDs are the same. A request either creates a subscription and sends
it the initial state, or changes nothing of these and leaves one answer in the log (`handler_cases`).
Of the other events, the completed introspection adds to the variables, and only the operations on
notifications change the queue (`step_frame`, `step_queue`).
-/

set_option autoImplicit false

namespace GUPnP.Service

structure Frame (s t : ServiceState) : Prop where
  stateVariables : t.stateVariables = s.stateVariables
  notifyQueue : t.notifyQueue = s.notifyQueue
  introspecting : t.introspecting = s.introspecting
  nextUuid : t.nextUuid = s.nextUuid

variable {ctx : Context} {s t u : ServiceState}

theorem Frame.refl (s : ServiceState) : Frame s s := ⟨rfl, rfl, rfl, rfl⟩

theorem Frame.trans (h : Frame s t) (h' : Frame t u) : Frame s u where
  stateVariables := h'.stateVariables.trans h.stateVariables
  notifyQueue := h'.notifyQueue.trans h.notifyQueue
  introspecting := h'.introspecting.trans h.introspecting
  nextUuid := h'.nextUuid.trans h.nextUuid

theorem frame_remove (sid₀ : Str) (s : ServiceState) : Frame s (removeSubscription sid₀ s) := by
  unfold removeSubscription
  split
  · exact .refl s
  · exact ⟨rfl, rfl, rfl, rfl⟩

theorem frame_update (sid₀ : Str) (f : SubscriptionData → SubscriptionData × List Effect)
    (s : ServiceState) : Frame s (s.update sid₀ f) := by
  unfold ServiceState.update
  split
  · exact .refl s
  · exact ⟨rfl, rfl, rfl, rfl⟩

theorem frame_sendInitialState (query : ServiceState → Str → Option Str) (sid₀ : Str)
    (s : ServiceState) : Frame s (sendInitialState query sid₀ s) := by
  rw [sendInitialState_eq]
  exact (show Frame s { s with nextBytes := s.nextBytes + 1 } from
    ⟨rfl, rfl, rfl, rfl⟩).trans (frame_update _ _ _)

theorem frame_introspectedStep (query : ServiceState → Str → Option Str) (s : ServiceState)
    (sid₀ : Str) : Frame s (introspectedStep query s sid₀) := by
  have hsend := frame_sendInitialState query sid₀ s
  obtain heq | ⟨d, -, -, heq⟩ := introspectedStep_cases query sid₀ s
  · rw [heq]
    exact hsend
  · rw [heq]
    exact hsend.trans (frame_remove _ _)

theorem frame_introspectedLoop (query : ServiceState → Str → Option Str) (keys : List Str)
    (s : ServiceState) : Frame s (keys.foldl (introspectedStep query) s) := by
  induction keys generalizing s with
  | nil => exact .refl s
  | cons key keys ih => exact (frame_introspectedStep query s key).trans (ih _)

/-! ## Requests -/

/-- The service right after it answered the SUBSCRIBE that created a subscription, when it emits
`query-variable` for the initial state. -/
def ServiceState.answered (ctx : Context) (req : SubscriptionRequest) (callbacks : Cursor Uri)
    (s : ServiceState) : ServiceState :=
  subscriptionResponse ctx req (generateSid ctx s.nextUuid) (s.created ctx callbacks)

/-- The request did not create a subscription. -/
def OnlyAnswers (req : SubscriptionRequest) (s t : ServiceState) : Prop :=
  Frame s t ∧ ∃ ans, t.log = s.log ++ [.answer req ans]

theorem onlyAnswers_reply (req : SubscriptionRequest) (status : Status) (h : Frame s t)
    (hlog : t.log = s.log) : OnlyAnswers req s (t.reply req status) :=
  ⟨h.trans ⟨rfl, rfl, rfl, rfl⟩, _, congrArg (· ++ _) hlog⟩

theorem onlyAnswers_resubscribe (req : SubscriptionRequest) (sid₀ : Str) (s : ServiceState) :
    OnlyAnswers req s (resubscribe ctx req sid₀ s) := by
  unfold resubscribe
  split
  · exact onlyAnswers_reply req _ (.refl s) rfl
  · exact ⟨⟨rfl, rfl, rfl, rfl⟩, _, rfl⟩

theorem onlyAnswers_unsubscribe (req : SubscriptionRequest) (sid₀ : Str) (s : ServiceState) :
    OnlyAnswers req s (unsubscribe req sid₀ s) := by
  unfold unsubscribe
  split
  · exact onlyAnswers_reply req _ (.refl s) rfl
  · rename_i d hd
    refine onlyAnswers_reply req _ ?_ ?_
    · split
      · exact frame_remove sid₀ s
      · exact ⟨rfl, rfl, rfl, rfl⟩
    · split
      · exact removeSubscription_log sid₀ s
      · rfl

/-- A request creates a subscription and sends it the initial state, or it is only answered. -/
theorem handler_cases (ctx : Context) (query : ServiceState → Str → Option Str)
    (req : SubscriptionRequest) (s : ServiceState) :
    (∃ callbacks, subscriptionServerHandler ctx query req s =
      sendInitialState query (generateSid ctx s.nextUuid) (s.answered ctx req callbacks)) ∨
    OnlyAnswers req s (subscriptionServerHandler ctx query req s) := by
  have hreply := fun status => onlyAnswers_reply req status (.refl s) rfl
  obtain ⟨status, -, -, heq⟩ | ⟨callback, -, -, -, -, heq⟩ | ⟨sid₀, -, -, heq⟩ | ⟨sid₀, -, -, heq⟩ :=
    handler_dispatch ctx query req s
  · rw [heq]
    exact .inr (hreply status)
  · rw [heq]
    obtain he | ⟨callbacks, -, -, he⟩ := subscribe_cases ctx query req callback s
    · rw [he]
      exact .inr (hreply _)
    · exact .inl ⟨callbacks, he⟩
  · rw [heq]
    exact .inr (onlyAnswers_resubscribe req sid₀ s)
  · rw [heq]
    exact .inr (onlyAnswers_unsubscribe req sid₀ s)

/-! ## Steps -/

/-- The operations on the notifications. -/
def isUpdate : Event → Bool
  | .notifyValue _ _ => true
  | .freezeNotify => true
  | .thawNotify => true
  | _ => false

/-- The events that send an initial state. -/
def isInitial : Event → Bool
  | .request _ _ => true
  | .introspected _ _ => true
  | _ => false

/-- A flush changes the queue only. -/
theorem frame_flush (hv : t.stateVariables = s.stateVariables)
    (hi : t.introspecting = s.introspecting) (hu : t.nextUuid = s.nextUuid) :
    Frame { s with notifyQueue := [] } (flushNotifications t) := ⟨hv, rfl, hi, hu⟩

/-- Every other event changes the queue at most, and that only if it is an update. -/
theorem step_frame {e : Event} (he : step ctx s e = some t) (hi : isInitial e = false) :
    ∃ queue, Frame { s with notifyQueue := queue } t ∧
      (isUpdate e = false → queue = s.notifyQueue) := by
  have hself : ∀ {t}, Frame s t → ∃ queue, Frame { s with notifyQueue := queue } t ∧
      (isUpdate e = false → queue = s.notifyQueue) := fun h => ⟨s.notifyQueue, h, fun _ => rfl⟩
  cases e with
  | request req query => cases hi
  | notifyValue name value =>
    obtain rfl := Option.some.inj he
    unfold notifyValue
    simp only
    split
    · exact ⟨_, ⟨rfl, rfl, rfl, rfl⟩, nofun⟩
    · exact ⟨_, frame_flush rfl rfl rfl, nofun⟩
  | freezeNotify =>
    obtain rfl := Option.some.inj he
    exact hself ⟨rfl, rfl, rfl, rfl⟩
  | thawNotify =>
    obtain rfl := Option.some.inj he
    unfold thawNotify
    simp only
    split
    · exact hself ⟨rfl, rfl, rfl, rfl⟩
    · exact ⟨_, frame_flush rfl rfl rfl, nofun⟩
  | introspected result query => cases hi
  | response sid i outcome =>
    obtain ⟨d, msg, -, -, ⟨d', -, rfl⟩ | ⟨-, rfl⟩⟩ := receiveOutcome_cases he
    · exact hself ⟨rfl, rfl, rfl, rfl⟩
    · have hrecord : Frame s (s.record (.response msg outcome ::
          (notifyGotResponse i msg outcome d).2)) := ⟨rfl, rfl, rfl, rfl⟩
      exact hself (hrecord.trans (frame_remove sid _))
  | timeout src =>
    simp only [step, Option.ite_none_right_eq_some, Option.some.injEq] at he
    have hsources : Frame s { s with sources := s.sources.filter fun x => x.id ≠ src.id } :=
      ⟨rfl, rfl, rfl, rfl⟩
    exact hself (he.2 ▸ hsources.trans (frame_remove src.sid _))
  | unavailable =>
    obtain rfl := Option.some.inj he
    exact hself ⟨rfl, rfl, rfl, rfl⟩
  | dispose =>
    obtain rfl := Option.some.inj he
    exact hself ⟨rfl, rfl, rfl, rfl⟩
  | tick =>
    simp only [step, Option.ite_none_right_eq_some, Option.some.injEq] at he
    exact hself (he.2 ▸ ⟨rfl, rfl, rfl, rfl⟩)

/-- What is no update leaves the queue alone. -/
theorem step_queue {e : Event} (he : step ctx s e = some t) (hu : isUpdate e = false) :
    t.notifyQueue = s.notifyQueue := by
  cases e with
  | request req query =>
    simp only [step, Option.ite_none_right_eq_some, Option.some.injEq] at he
    rw [← he.2]
    obtain ⟨callbacks, h⟩ | h := handler_cases ctx query req s
    · rw [h]
      exact (frame_sendInitialState _ _ _).notifyQueue
    · exact h.1.notifyQueue
  | introspected result query =>
    simp only [step, Option.ite_none_right_eq_some, Option.some.injEq] at he
    rw [← he.2]
    refine (frame_introspectedLoop query _ _).notifyQueue.trans ?_
    cases result <;> rfl
  | notifyValue name value => cases hu
  | freezeNotify => cases hu
  | thawNotify => cases hu
  | _ =>
    obtain ⟨queue, h, hq⟩ := step_frame he rfl
    exact h.notifyQueue.trans (hq rfl)

end GUPnP.Service
