import GUPnP.ServiceProxy.Proof.Handlers

/-!
# The dispatch loop over a queue

What `emitLoop` makes of a queue when the callbacks leave the subscription alone
(`emitLoop_passive`): the notifications before the first missed event (`deliverable`) advance the
counter, and those of them that carry the proxy's SID (`own`) are dispatched. Splitting a queue over
several dispatches changes nothing (`deliverable_append`).
-/

set_option autoImplicit false

namespace GUPnP.ServiceProxy

variable {info : Info}

/-- No notification of the queue shows a missed event when the counter is `c`. -/
def InStep : UInt32 → List EmitNotifyData → Prop
  | _, [] => True
  | c, n :: q => n.seq ≤ c ∧ InStep (nextSeq c) q

/-- The notifications before the first missed event. -/
def deliverable : UInt32 → List EmitNotifyData → List EmitNotifyData
  | _, [] => []
  | c, n :: q => if n.seq > c then [] else n :: deliverable (nextSeq c) q

/-- The notifications that carry the SID. -/
def own (sid : Str) (q : List EmitNotifyData) : List EmitNotifyData :=
  q.filter fun n => n.sid = sid

/-- The notifications whose documents were given to the notify callbacks. -/
def dispatched (log : List Effect) : List EmitNotifyData :=
  log.filterMap fun
    | .dispatch n => some n
    | _ => none

/-- The SUBSCRIBE requests sent. -/
def subscribesSent (log : List Effect) : List SubscribeMsg :=
  log.filterMap fun
    | .subscribe _ msg => some msg
    | _ => none

/-- The numbers compared with the event counter, each with the counter. -/
def compared (log : List Effect) : List (Nat × Nat) :=
  log.filterMap fun
    | .compare n c => some (n.seq.toNat, c.toNat)
    | _ => none

theorem dispatched_append (l l' : List Effect) :
    dispatched (l ++ l') = dispatched l ++ dispatched l' := List.filterMap_append

theorem subscribesSent_append (l l' : List Effect) :
    subscribesSent (l ++ l') = subscribesSent l ++ subscribesSent l' := List.filterMap_append

theorem compared_append (l l' : List Effect) : compared (l ++ l') = compared l ++ compared l' :=
  List.filterMap_append

theorem own_append (sid : Str) (q q' : List EmitNotifyData) :
    own sid (q ++ q') = own sid q ++ own sid q' := List.filter_append q q'

theorem own_eq_self {sid : Str} {q : List EmitNotifyData} (h : ∀ n ∈ q, n.sid = sid) :
    own sid q = q := by
  refine List.filter_eq_self.2 fun n hn => ?_
  simpa using h n hn

/-! ## Deliverable notifications -/

theorem deliverable_eq_self {c : UInt32} {q : List EmitNotifyData} (h : InStep c q) :
    deliverable c q = q := by
  induction q generalizing c with
  | nil => rfl
  | cons n q ih =>
    rw [deliverable, if_neg (UInt32.not_lt.2 h.1), ih h.2]

theorem deliverable_append_of_inStep {c : UInt32} {q : List EmitNotifyData} (h : InStep c q)
    (q' : List EmitNotifyData) :
    deliverable c (q ++ q') = q ++ deliverable (nextSeq^[q.length] c) q' := by
  induction q generalizing c with
  | nil => rfl
  | cons n q ih =>
    rw [List.cons_append, deliverable, if_neg (UInt32.not_lt.2 h.1), ih h.2]
    rfl

theorem deliverable_append_of_not_inStep {c : UInt32} {q : List EmitNotifyData}
    (h : ¬ InStep c q) (q' : List EmitNotifyData) : deliverable c (q ++ q') = deliverable c q := by
  induction q generalizing c with
  | nil => exact absurd trivial h
  | cons n q ih =>
    rw [List.cons_append, deliverable, deliverable]
    split
    · rfl
    · rename_i hle
      rw [ih fun hq => h ⟨UInt32.not_lt.1 hle, hq⟩]

theorem inStep_append {c : UInt32} {q q' : List EmitNotifyData} :
    InStep c (q ++ q') ↔ InStep c q ∧ InStep (nextSeq^[q.length] c) q' := by
  induction q generalizing c with
  | nil => simp [InStep]
  | cons n q ih => simp only [List.cons_append, InStep, ih, and_assoc, List.length_cons,
      Function.iterate_succ_apply]

theorem deliverable_subset (c : UInt32) (q : List EmitNotifyData) : deliverable c q ⊆ q := by
  induction q generalizing c with
  | nil => exact List.Subset.refl _
  | cons n q ih =>
    rw [deliverable]
    split
    · exact List.nil_subset _
    · exact List.cons_subset_cons n (ih (nextSeq c))

/-! ## The loop -/

/-- The log of one pass over the queue. -/
def scanLog (sid : Str) : UInt32 → List EmitNotifyData → List Effect
  | _, [] => []
  | c, n :: q =>
    .compare n c ::
      if n.seq > c then [] else (if n.sid = sid then [.dispatch n] else []) ++ scanLog sid (nextSeq c) q

theorem dispatched_scanLog (sid : Str) (c : UInt32) (q : List EmitNotifyData) :
    dispatched (scanLog sid c q) = own sid (deliverable c q) := by
  induction q generalizing c with
  | nil => rfl
  | cons n q ih =>
    rw [scanLog, deliverable]
    split
    · rfl
    · have hc : dispatched (.compare n c :: ((if n.sid = sid then [.dispatch n] else []) ++
          scanLog sid (nextSeq c) q)) =
          dispatched (if n.sid = sid then [.dispatch n] else []) ++
            dispatched (scanLog sid (nextSeq c) q) := dispatched_append _ _
      rw [hc, ih]
      by_cases hn : n.sid = sid <;> simp [hn, own, dispatched]

theorem mem_scanLog {sid : Str} {c : UInt32} {q : List EmitNotifyData} {e : Effect}
    (h : e ∈ scanLog sid c q) : (∃ n c, e = .compare n c) ∨ ∃ n, e = .dispatch n := by
  induction q generalizing c with
  | nil => cases h
  | cons n q ih =>
    rw [scanLog] at h
    rcases List.mem_cons.1 h with rfl | h
    · exact .inl ⟨n, c, rfl⟩
    · split at h
      · cases h
      · rcases List.mem_append.1 h with h | h
        · split at h
          · exact .inr ⟨n, List.mem_singleton.1 h⟩
          · cases h
        · exact ih h

theorem subscribesSent_scanLog (sid : Str) (c : UInt32) (q : List EmitNotifyData) :
    subscribesSent (scanLog sid c q) = [] := by
  refine List.filterMap_eq_nil_iff.2 fun e he => ?_
  obtain ⟨n, c, rfl⟩ | ⟨n, rfl⟩ := mem_scanLog he <;> rfl

/-- The loop with callbacks that make no calls: only the counter and the log change. -/
theorem emitLoop_passive (info : Info) {sid : Str} (q : List EmitNotifyData) {s : Proxy}
    (hs : s.sid = some sid) :
    (emitLoop info passive q s).1 =
        { s with seq := nextSeq^[(deliverable s.seq q).length] s.seq,
                 log := s.log ++ scanLog sid s.seq q } ∧
      ((emitLoop info passive q s).2 = false ↔ InStep s.seq q) := by
  induction q generalizing s with
  | nil => exact ⟨by simp [emitLoop, deliverable, scanLog], by simp [emitLoop, InStep]⟩
  | cons n q ih =>
    rw [emitLoop_cons, scanLog, deliverable]
    by_cases hgap : n.seq > s.seq
    · simp only [hgap, ↓reduceIte, InStep, UInt32.not_le.2 hgap, false_and, Bool.true_eq_false,
        List.length_nil, Function.iterate_zero_apply, and_true]
      rfl
    · have hstep : emitStep info passive n (s.record (.compare n s.seq)) =
          { s with seq := nextSeq s.seq, log := s.log ++ .compare n s.seq ::
            if n.sid = sid then [.dispatch n] else [] } := by
        by_cases hn : n.sid = sid
        · rw [emitStep_own (by rw [record_sid, hs, hn])]
          simp [hn, emitNotificationsForDoc, passive, Proxy.record]
        · rw [emitStep_other (by simpa [hs] using Ne.symm hn)]
          simp [hn, Proxy.record]
      obtain ⟨h1, h2⟩ := ih (s := emitStep info passive n (s.record (.compare n s.seq)))
        (by rw [hstep]; exact hs)
      simp only [hgap, ↓reduceIte]
      rw [h1, h2, hstep]
      refine ⟨?_, by simp [InStep, UInt32.not_lt.1 hgap]⟩
      simp [Function.iterate_succ_apply]

end GUPnP.ServiceProxy
