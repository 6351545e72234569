import GUPnP.Service.Proof.LifeRequests

/-!
# Runs of a service and the lives of its subscriptions

`step_lives`: every step of the service is a run of the life of each subscription. A property of the
life of one subscription that each of its events keeps (`LifeInvariant`) therefore holds of every
subscription after every run of the service (`lives_run`).
-/

set_option autoImplicit false

namespace GUPnP.Service

variable {ctx : Context} {sid : Str} {s t u : ServiceState} {ok : History → LifeEvent → Prop}

/-! ## Steps -/

/-- A change of fields the life of a subscription does not depend on. -/
theorem lives_same (h : WellFormed ctx s) (hsub : t.subscriptions = s.subscriptions)
    (hu : t.nextUuid = s.nextUuid) (hb : t.nextBytes = s.nextBytes) (hlog : t.log = s.log) :
    WellFormed ctx t ∧ Lives ctx sid ok s t := by
  refine ⟨h.next (Nat.le_of_eq hb.symm) (Nat.le_of_eq hu.symm) (fun sid d hd => .inl ?_)
    (fun msg hm => .inl ?_), .of_eq (history_eq ?_ (issued_iff hu) ?_)⟩
  · rwa [← hsub]
  · rwa [← hlog]
  · rw [hsub]
  · rw [hlog]

/-- The same, before the queue of notifications may be flushed. -/
theorem lives_ite_flush {c : Prop} [Decidable c] (h : WellFormed ctx s)
    (hsub : u.subscriptions = s.subscriptions) (hu : u.nextUuid = s.nextUuid)
    (hb : u.nextBytes = s.nextBytes) (hlog : u.log = s.log)
    (hok : ∀ d h propertySet, s.subscriptions.lookup sid = some d → h.life = .alive d →
      propertySet.id ∉ eventIds h.log → ok h (.event propertySet)) :
    WellFormed ctx (if c then u else flushNotifications u) ∧
      Lives ctx sid ok s (if c then u else flushNotifications u) := by
  obtain ⟨hw, hlives⟩ : WellFormed ctx u ∧ Lives ctx sid ok s u := lives_same h hsub hu hb hlog
  split
  · exact ⟨hw, hlives⟩
  · rw [← hsub] at hok
    exact ⟨wellFormed_flush hw, hlives.trans (lives_flush hw hok)⟩

theorem lives_removeAll (h : WellFormed ctx s) (hok : ∀ h, ok h .remove) :
    WellFormed ctx (removeAll s) ∧ Lives ctx sid ok s (removeAll s) := by
  have hnone : ∀ sid, (removeAll s).subscriptions.lookup sid = none := AList.lookup_empty
  refine ⟨h.next (Nat.le_refl _) (Nat.le_refl _) (fun sid d hd => ?_) (fun _ hm => .inl hm), ?_⟩
  · rw [hnone] at hd
    cases hd
  · exact lives_gone h hok (hnone sid) rfl rfl

/-- **Every step of the service is a run of the life of each subscription.** -/
theorem step_lives {e : Event} (h : WellFormed ctx s) (he : step ctx s e = some t) (sid : Str) :
    WellFormed ctx t ∧ Lives ctx sid (Caused ctx sid s e) s t := by
  have hremove : ∀ h, Caused ctx sid s e h .remove := fun _ => .remove
  cases e with
  | request req query =>
    simp only [step, Option.ite_none_right_eq_some, Option.some.injEq] at he
    rw [← he.2]
    exact lives_handler h query req
  | notifyValue name value =>
    obtain rfl := Option.some.inj he
    exact lives_ite_flush h rfl rfl rfl rfl fun d h' ps hd halive hfresh =>
      .event (.notifyValue name value) hd halive hfresh
  | freezeNotify =>
    obtain rfl := Option.some.inj he
    exact lives_same h rfl rfl rfl rfl
  | thawNotify =>
    obtain rfl := Option.some.inj he
    exact lives_ite_flush h rfl rfl rfl rfl fun d h' ps hd halive hfresh =>
      .event .thawNotify hd halive hfresh
  | introspected result query =>
    simp only [step, Option.ite_none_right_eq_some, Option.some.injEq] at he
    rw [← he.2]
    unfold gotIntrospection
    generalize hu : addStateVariables result { s with introspecting := false } = u
    have hsub : u.subscriptions = s.subscriptions := by
      rw [← hu]
      cases result <;> rfl
    have hq : WellFormed ctx u ∧ Lives ctx sid (Caused ctx sid s (.introspected result query)) s u := by
      rw [← hu]
      cases result <;> exact lives_same h rfl rfl rfl rfl
    have hloop := lives_introspected query u.subscriptions.keys (AList.keys_nodup _) hremove u hq.1
      fun d h' ps _ hd halive hfresh => by
        rw [hsub] at hd
        exact .event (.introspected result query) hd halive hfresh
    exact ⟨hloop.1, hq.2.trans hloop.2⟩
  | response sid₀ i outcome => exact ⟨wellFormed_response h he, lives_response h he⟩
  | timeout src =>
    simp only [step, Option.ite_none_right_eq_some, Option.some.injEq] at he
    rw [← he.2]
    unfold subscriptionTimeout
    have hq : WellFormed ctx { s with sources := s.sources.filter fun x => x.id ≠ src.id } ∧
        Lives ctx sid (Caused ctx sid s (.timeout src)) s
          { s with sources := s.sources.filter fun x => x.id ≠ src.id } :=
      lives_same h rfl rfl rfl rfl
    exact ⟨wellFormed_remove hq.1 _, hq.2.trans (lives_remove hq.1 hremove _)⟩
  | unavailable =>
    obtain rfl := Option.some.inj he
    exact lives_removeAll h hremove
  | dispose =>
    obtain rfl := Option.some.inj he
    have hq : WellFormed ctx { s with listening := false } ∧
        Lives ctx sid (Caused ctx sid s .dispose) s { s with listening := false } :=
      lives_same h rfl rfl rfl rfl
    have hall : WellFormed ctx (removeAll { s with listening := false }) ∧
        Lives ctx sid (Caused ctx sid s .dispose) { s with listening := false }
          (removeAll { s with listening := false }) := lives_removeAll hq.1 hremove
    exact ⟨hall.1, hq.2.trans hall.2⟩
  | tick =>
    simp only [step, Option.ite_none_right_eq_some, Option.some.injEq] at he
    rw [← he.2]
    exact lives_same h rfl rfl rfl rfl

/-! ## Runs -/

theorem wellFormed_init : WellFormed ctx .init := by
  have hnone : ∀ sid, ServiceState.init.subscriptions.lookup sid = none := AList.lookup_empty
  refine ⟨fun hd => ?_, fun hd => ?_, fun hm => ?_⟩
  · rw [hnone] at hd
    cases hd
  · rw [hnone] at hd
    cases hd
  · cases hm

theorem history_init (ctx : Context) (sid : Str) :
    ServiceState.init.history ctx sid = ⟨.unborn, []⟩ := by
  refine history_unborn (AList.lookup_empty sid) ?_
  rintro ⟨k, hk, -⟩
  exact absurd hk (Nat.not_lt_zero k)

/-- The invariant `I` of a life and its log holds before the subscription is created and is kept by
every event of the life that steps with `ok` cause. -/
structure LifeInvariant (ctx : Context) (sid : Str) (ok : ServiceState → Event → Prop)
    (I : Life → List Effect → Prop) : Prop where
  init : I .unborn []
  create : ∀ {req ans callbacks log} (src : Nat), callbacks.pos = 0 →
    Grants ctx sid req ans callbacks.toList → I .unborn log →
    I (.alive (.new callbacks sid src)) (log ++ [.answer req ans])
  event : ∀ {d log propertySet}, propertySet.id ∉ eventIds log → I (.alive d) log →
    I (.alive (notifySubscriber propertySet d).1) (log ++ (notifySubscriber propertySet d).2)
  response : ∀ {s i msg outcome d}, ok s (.response sid i outcome) →
    s.subscriptions.lookup sid = some d → d.pendingMessages[i]? = some msg →
    I (.alive d) (about sid s.log) →
    I (.ofOption (notifyGotResponse i msg outcome d).1)
      (about sid s.log ++ .response msg outcome :: (notifyGotResponse i msg outcome d).2)
  renew : ∀ {req d log} (src : Nat), Addressed ctx sid req → req.method = Gena.methodSubscribe →
    I (.alive d) log → I (.alive { d with timeoutSrc := some src })
      (log ++ [.answer req (ctx.subscriptionAnswer sid)])
  unsubscribe : ∀ {s req query d}, ok s (.request req query) → Addressed ctx sid req →
    req.method = Gena.methodUnsubscribe → s.subscriptions.lookup sid = some d →
    I (.alive d) (about sid s.log) →
    I (if d.initialStateSent then .dead else .alive { d with toDelete := true })
      (about sid s.log ++ [.answer req (.plain .ok)])
  reject : ∀ {req ans life log}, req.sid = some sid → ans.status ≠ .ok →
    (Addressed ctx sid req → (∀ d, life ≠ .alive d) ∧ ans.status = noPrevious) →
    I life log → I life (log ++ [.answer req ans])
  remove : ∀ {d log}, I (.alive d) log → I .dead log

variable {okS : ServiceState → Event → Prop} {I : Life → List Effect → Prop} {es : List Event}

/-- The invariant is kept by each event of the life. -/
theorem LifeInvariant.lifeStep (hI : LifeInvariant ctx sid okS I) {e : Event} {h h' : History}
    {l : LifeEvent} (ho : okS s e) (hc : Caused ctx sid s e h l)
    (he : lifeStep sid h l = some h') (hi : I h.life h.log) : I h'.life h'.log := by
  cases hc with
  | create callbacks src first grants =>
    obtain ⟨life, log⟩ := h
    cases life with
    | unborn =>
      obtain rfl := Option.some.inj he
      exact hI.create src first grants hi
    | alive d => cases he
    | dead => cases he
  | initial alive first fresh =>
    obtain ⟨life, log⟩ := h
    obtain rfl := alive
    obtain rfl := Option.some.inj he
    exact hI.event fresh hi
  | event raises lookup alive fresh =>
    obtain ⟨life, log⟩ := h
    obtain rfl := alive
    obtain rfl := Option.some.inj he
    exact hI.event fresh hi
  | @response i outcome =>
    rw [ServiceState.history] at he hi
    cases hlife : s.life ctx sid with
    | unborn =>
      rw [hlife] at he
      cases he
    | alive d =>
      rw [hlife] at he hi
      obtain ⟨msg, hm, rfl⟩ := Option.map_eq_some_iff.1 he
      exact hI.response ho (life_alive_iff.1 hlife) hm hi
    | dead =>
      rw [hlife] at he
      cases he
  | renew src addressed method =>
    generalize s.history ctx sid = h at he hi
    obtain ⟨life, log⟩ := h
    cases life with
    | unborn => cases he
    | alive d =>
      obtain rfl := Option.some.inj he
      exact hI.renew src addressed method hi
    | dead => cases he
  | unsubscribe addressed method =>
    rw [ServiceState.history] at he hi
    cases hlife : s.life ctx sid with
    | unborn =>
      rw [hlife] at he
      cases he
    | alive d =>
      rw [hlife] at he hi
      obtain rfl := Option.some.inj he
      exact hI.unsubscribe ho addressed method (life_alive_iff.1 hlife) hi
    | dead =>
      rw [hlife] at he
      cases he
  | reject ans names status unknown =>
    obtain rfl := Option.some.inj he
    refine hI.reject names status (fun ha => ⟨fun d hd => ?_, (unknown ha).2⟩) hi
    have hlookup := life_alive_iff.1 (show s.life ctx sid = .alive d from hd)
    rw [(unknown ha).1] at hlookup
    cases hlookup
  | remove =>
    obtain ⟨life, log⟩ := h
    cases life with
    | unborn => cases he
    | alive d =>
      obtain rfl := Option.some.inj he
      exact hI.remove hi
    | dead => cases he

theorem wellFormed_run (h : Run (step ctx) okS .init es s) : WellFormed ctx s :=
  h.inv (WellFormed ctx) (fun _ _ _ hs _ he => (step_lives hs he []).1) wellFormed_init

/-- **An invariant of a life holds after every run of the service.** -/
theorem lives_run (hI : LifeInvariant ctx sid okS I) (h : Run (step ctx) okS .init es s) :
    I (s.life ctx sid) (about sid s.log) := by
  have hinv := h.inv (fun s => WellFormed ctx s ∧ I (s.life ctx sid) (about sid s.log))
    (fun s e t hs ho he => ?_) ⟨wellFormed_init, ?_⟩
  · exact hinv.2
  · obtain ⟨hw, ls, hls⟩ := step_lives hs.1 he sid
    refine ⟨hw, hls.inv (fun h => I h.life h.log) (fun h l h' hi hc hl => ?_) hs.2⟩
    exact hI.lifeStep ho hc hl hi
  · have hinit := history_init ctx sid
    rw [ServiceState.history, History.mk.injEq] at hinit
    rw [hinit.1, hinit.2]
    exact hI.init

end GUPnP.Service
