import GUPnP.Service.Proof.LifeRuns

/-!
# The NOTIFY messages sent in a run

`sentBetween sid s t`: the NOTIFY messages of the subscription `sid` that a step from `s` to `t` sent.
`sentIn ctx sid p s es`: those sent, in a run from `s` over `es`, by the steps whose events satisfy
`p`. The log of a subscription only grows (`step_about`), so these are all its messages, in order
(`notifies_sent`, `notifies_sentIn`).
-/

set_option autoImplicit false

namespace GUPnP.Service

/-- The NOTIFY messages of a subscription in the log of `t` and not yet in that of `s`. -/
def sentBetween (sid : Str) (s t : ServiceState) : List NotifySubscriberData :=
  (notifies (about sid t.log)).drop (notifies (about sid s.log)).length

/-- The NOTIFY messages of a subscription sent by the steps whose events satisfy `p`. -/
def sentIn (ctx : Context) (sid : Str) (p : Event → Bool) :
    ServiceState → List Event → List NotifySubscriberData
  | _, [] => []
  | s, e :: es =>
    match step ctx s e with
    | none => []
    | some t => (if p e then sentBetween sid s t else []) ++ sentIn ctx sid p t es

variable {ctx : Context} {sid : Str} {p : Event → Bool} {s t u : ServiceState} {e : Event}
  {es es' : List Event} {ok : ServiceState → Event → Prop}

/-! ## The log grows -/

theorem lifeStep_log {h h' : History} {l : LifeEvent} (he : lifeStep sid h l = some h') :
    ∃ tail, h'.log = h.log ++ tail := by
  obtain ⟨life, log⟩ := h
  cases l with
  | create req ans callbacks src =>
    cases life with
    | unborn => cases he; exact ⟨_, rfl⟩
    | alive d => cases he
    | dead => cases he
  | event propertySet =>
    cases life with
    | unborn => cases he
    | alive d => cases he; exact ⟨_, rfl⟩
    | dead => cases he
  | response i outcome =>
    cases life with
    | unborn => cases he
    | alive d =>
      obtain ⟨msg, -, rfl⟩ := Option.map_eq_some_iff.1 he
      exact ⟨_, rfl⟩
    | dead => cases he
  | renew req ans src =>
    cases life with
    | unborn => cases he
    | alive d => cases he; exact ⟨_, rfl⟩
    | dead => cases he
  | unsubscribe req =>
    cases life with
    | unborn => cases he
    | alive d => cases he; exact ⟨_, rfl⟩
    | dead => cases he
  | reject req ans => cases he; exact ⟨_, rfl⟩
  | remove =>
    cases life with
    | unborn => cases he
    | alive d => cases he; exact ⟨[], (List.append_nil _).symm⟩
    | dead => cases he

/-- A step adds to what was done about a subscription. -/
theorem step_about (h : WellFormed ctx s) (he : step ctx s e = some t) (sid : Str) :
    ∃ tail, about sid t.log = about sid s.log ++ tail := by
  obtain ⟨-, ls, hls⟩ := step_lives h he sid
  refine hls.inv (fun h => ∃ tail, h.log = about sid s.log ++ tail) (fun h l h' hi _ hl => ?_)
    ⟨[], (List.append_nil _).symm⟩
  obtain ⟨tail, ht⟩ := hi
  obtain ⟨tail', ht'⟩ := lifeStep_log hl
  exact ⟨tail ++ tail', by rw [ht', ht, List.append_assoc]⟩

/-! ## What was sent -/

theorem sentBetween_eq {tail : List Effect} (h : about sid t.log = about sid s.log ++ tail) :
    sentBetween sid s t = notifies tail := by
  rw [sentBetween, h, notifies_append, List.drop_left]

theorem sentBetween_of_eq (h : about sid t.log = about sid s.log) : sentBetween sid s t = [] :=
  sentBetween_eq (h.trans (List.append_nil _).symm)

theorem notifies_sent (h : WellFormed ctx s) (he : step ctx s e = some t) (sid : Str) :
    notifies (about sid t.log) = notifies (about sid s.log) ++ sentBetween sid s t := by
  obtain ⟨tail, ht⟩ := step_about h he sid
  rw [sentBetween_eq ht, ht, notifies_append]

theorem sentIn_append (h : Run (step ctx) ok s es t) (es' : List Event) :
    sentIn ctx sid p s (es ++ es') = sentIn ctx sid p s es ++ sentIn ctx sid p t es' := by
  induction es generalizing s with
  | nil =>
    obtain rfl := h.nil_eq
    rfl
  | cons e es ih =>
    obtain ⟨v, -, he, h⟩ := h.cons_inv
    simp only [List.cons_append, sentIn, he]
    rw [ih h, List.append_assoc]

theorem sentIn_snoc (h : Run (step ctx) ok s es t) (he : step ctx t e = some u) :
    sentIn ctx sid p s (es ++ [e]) =
      sentIn ctx sid p s es ++ if p e then sentBetween sid t u else [] := by
  rw [sentIn_append h]
  simp only [sentIn, he, List.append_nil]

/-- In a run whose events all satisfy `p`, all that is sent counts. -/
theorem notifies_sentIn (hs : WellFormed ctx s) (h : Run (step ctx) ok s es t)
    (hp : ∀ e ∈ es, p e = true) (sid : Str) :
    notifies (about sid t.log) = notifies (about sid s.log) ++ sentIn ctx sid p s es := by
  induction es generalizing s with
  | nil =>
    obtain rfl := h.nil_eq
    exact (List.append_nil _).symm
  | cons e es ih =>
    obtain ⟨v, -, he, h⟩ := h.cons_inv
    rw [ih (step_lives hs he sid).1 h fun e' he' => hp e' (List.mem_cons_of_mem _ he'),
      notifies_sent hs he sid]
    simp only [sentIn, he, hp e List.mem_cons_self, if_true, List.append_assoc]

end GUPnP.Service
