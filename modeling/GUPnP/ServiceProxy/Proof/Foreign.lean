import GUPnP.ServiceProxy.Proof.Delivery

/-!
# Notifications with foreign SIDs

The dispatch loop compares and counts a notification before it looks at its SID, and `serverHandler`
queues every well-formed SID. `foreign_interferes`: whatever is pending, some notifications with
another SID change the outcome of the idle dispatch. Without notifications of its own the proxy
counts a foreign one (`foreign_counted`); a missed one is dispatched once enough foreign ones were
counted (`foreign_fill`); and one in step is lost behind a foreign one that looks missed
(`foreign_gap`). Two queues that differ in foreign notifications have the same outcome only where
the loop takes the same course over them (`outcome_eq_iff`).
-/

set_option autoImplicit false

namespace GUPnP.ServiceProxy

variable {info : Info} {cb : Proxy → XmlDoc → List Bool}

/-- Neither inserting nor deleting notifications with another SID changes the outcome of the idle
dispatch. -/
def ForeignIrrelevant (info : Info) (cb : Proxy → XmlDoc → List Bool) (sid : Str) (s : Proxy) :
    Prop :=
  ∀ q, own sid q = own sid s.pendingNotifies →
    outcome (emitNotifications info cb { s with pendingNotifies := q }) =
      outcome (emitNotifications info cb s)

/-- A notification for another SID. -/
def foreign (sid : Str) (seq : UInt32) : EmitNotifyData :=
  ⟨sid ++ ['x'], seq, ⟨some "propertyset".toList, []⟩⟩

theorem foreign_ne (sid : Str) (seq : UInt32) : (foreign sid seq).sid ≠ sid := by
  intro h
  have hlen := congrArg List.length h
  simp [foreign] at hlen

theorem own_foreign_cons (sid : Str) (seq : UInt32) (q : List EmitNotifyData) :
    own sid (foreign sid seq :: q) = own sid q :=
  List.filter_cons_of_neg (by simpa using foreign_ne sid seq)

theorem own_own (sid : Str) (q : List EmitNotifyData) : own sid (own sid q) = own sid q := by
  simp [own]

/-! ## The documents dispatched only grow -/

/-- The documents `d` were dispatched, and possibly more after them. -/
def Dispatched (d : List EmitNotifyData) (s : Proxy) : Prop := d <+: dispatched s.log

theorem Dispatched.append {d : List EmitNotifyData} {s t : Proxy} (h : Dispatched d s)
    {l : List Effect} (hl : t.log = s.log ++ l) : Dispatched d t := by
  unfold Dispatched
  rw [hl, dispatched_append]
  exact h.trans (List.prefix_append _ _)

theorem dispatched_setSubscribed {d : List EmitNotifyData} {s : Proxy} (h : Dispatched d s)
    (b : Bool) : Dispatched d (setSubscribed info b s) := by
  obtain ⟨-, he⟩ | ⟨-, -, he⟩ | ⟨-, -, he⟩ := setSubscribed_cases info b s
  · rwa [he]
  · have hs : Dispatched d (subscribe info { s with subscribed := true }) := by
      unfold Dispatched
      rw [dispatched_subscribe]
      exact h
    rw [he]
    exact hs.append (record_log _ _)
  · have hs : Dispatched d (unsubscribe info { s with subscribed := false }) := by
      unfold Dispatched
      rw [dispatched_unsubscribe]
      exact h
    rw [he]
    exact hs.append (record_log _ _)

theorem dispatched_emitStep {d : List EmitNotifyData} {s : Proxy} (h : Dispatched d s)
    (n : EmitNotifyData) : Dispatched d (emitStep info cb n s) := by
  have hs : Dispatched d { s with seq := nextSeq s.seq } := h
  exact emitStep_inv info cb (Dispatched d) (fun s b h => dispatched_setSubscribed h b) hs
    (hs.append (record_log _ _))

theorem dispatched_emitLoop {d : List EmitNotifyData} {s : Proxy} (h : Dispatched d s)
    (q : List EmitNotifyData) : Dispatched d (emitLoop info cb q s).1 := by
  obtain ⟨-, hI⟩ | ⟨-, _, _, -, -, hI⟩ := emitLoop_inv info cb (fun _ => Dispatched d)
    (fun n _ s h => h.append (record_log _ _)) (fun n _ s h _ => dispatched_emitStep h n) q s h
  · exact hI
  · exact hI

/-- The documents dispatched by `emitNotifications` are those of its loop. -/
theorem dispatched_emitNotifications {s : Proxy} (h : s.sid ≠ none) :
    dispatched (emitNotifications info cb s).log =
      dispatched (emitLoop info cb s.pendingNotifies s).1.log := by
  rw [emitNotifications_eq fun hd => h hd.1]
  split
  · simp only [dispatched_subscribe, dispatched_unsubscribe]
  · rfl

/-! ## The loop over foreign notifications -/

variable {sid : Str} {s : Proxy}

/-- A foreign notification in step only advances the counter. -/
theorem emitLoop_foreign (hs : s.sid = some sid) {seq : UInt32} (hle : seq ≤ s.seq)
    (q : List EmitNotifyData) :
    emitLoop info cb (foreign sid seq :: q) s =
      emitLoop info cb q
        { s with seq := nextSeq s.seq, log := s.log ++ [.compare (foreign sid seq) s.seq] } := by
  have hne : ¬ some sid = some (foreign sid seq).sid := fun h =>
    foreign_ne sid seq (Option.some.inj h).symm
  rw [emitLoop_cons, if_neg (show ¬ (foreign sid seq).seq > s.seq from UInt32.not_lt.2 hle)]
  rw [emitStep_other (by rwa [record_sid, hs])]
  rfl

/-- A notification that shows a missed event ends the loop with nothing dispatched. -/
theorem emitLoop_missed {n : EmitNotifyData} (hgap : n.seq > s.seq) (q : List EmitNotifyData) :
    dispatched (emitLoop info cb (n :: q) s).1.log = dispatched s.log := by
  rw [emitLoop_cons, if_pos hgap, record_log, dispatched_append]
  simp [dispatched]

/-- A notification in step with the proxy's SID is dispatched. -/
theorem emitLoop_own (info : Info) (cb : Proxy → XmlDoc → List Bool) (hs : s.sid = some sid)
    {n : EmitNotifyData} (hn : n.sid = sid)
    (hle : n.seq ≤ s.seq) (q : List EmitNotifyData) :
    dispatched s.log ++ [n] <+: dispatched (emitLoop info cb (n :: q) s).1.log := by
  rw [emitLoop_cons, if_neg (UInt32.not_lt.2 hle)]
  refine dispatched_emitLoop ?_ q
  rw [emitStep_own (by rw [record_sid, hs, hn])]
  refine emitNotificationsForDoc_inv info cb (Dispatched _)
    (fun s b h => dispatched_setSubscribed h b) ?_
  unfold Dispatched
  simp [dispatched]

/-- Foreign notifications bring the counter up to any number ahead of it. -/
theorem emitLoop_fill (info : Info) (cb : Proxy → XmlDoc → List Bool) (k : Nat)
    (q : List EmitNotifyData) :
    ∀ s : Proxy, s.sid = some sid → ∃ t : Proxy, t.sid = some sid ∧ t.seq = nextSeq^[k] s.seq ∧
      dispatched t.log = dispatched s.log ∧
      emitLoop info cb (List.replicate k (foreign sid 0) ++ q) s = emitLoop info cb q t := by
  induction k with
  | zero => exact fun s hs => ⟨s, hs, rfl, rfl, rfl⟩
  | succ k ih =>
    intro s hs
    rw [List.replicate_succ, List.cons_append, emitLoop_foreign hs (UInt32.zero_le)]
    obtain ⟨t, ht, hseq, hd, he⟩ := ih
      { s with seq := nextSeq s.seq, log := s.log ++ [.compare (foreign sid 0) s.seq] } hs
    refine ⟨t, ht, hseq, ?_, he⟩
    rw [hd, dispatched_append]
    simp [dispatched]

/-- Foreign notifications that look missed when the counter is `c`; the number 0 takes the counter
off its greatest value. -/
def gap (sid : Str) (c : UInt32) : List EmitNotifyData :=
  if c < 0xffffffff then [foreign sid 0xffffffff] else [foreign sid 0, foreign sid 0xffffffff]

theorem own_gap (sid : Str) (c : UInt32) (q : List EmitNotifyData) :
    own sid (gap sid c ++ q) = own sid q := by
  unfold gap
  split
  · exact own_foreign_cons _ _ _
  · exact (own_foreign_cons _ _ _).trans (own_foreign_cons _ _ _)

/-- Nothing is dispatched behind a gap. -/
theorem emitLoop_gap (hs : s.sid = some sid) (q : List EmitNotifyData) :
    dispatched (emitLoop info cb (gap sid s.seq ++ q) s).1.log = dispatched s.log := by
  unfold gap
  split
  · rename_i hmax
    exact emitLoop_missed (n := foreign sid 0xffffffff) hmax q
  · rename_i hmax
    have hone : nextSeq s.seq = 1 := if_neg hmax
    have hgap : (0xffffffff : UInt32) > nextSeq s.seq := by
      rw [hone]
      decide
    rw [List.cons_append, emitLoop_foreign hs (UInt32.zero_le), List.singleton_append,
      emitLoop_missed (n := foreign sid 0xffffffff) hgap, dispatched_append]
    simp [dispatched]

theorem own_replicate_foreign (sid : Str) (k : Nat) (q : List EmitNotifyData) :
    own sid (List.replicate k (foreign sid 0) ++ q) = own sid q := by
  induction k with
  | zero => rfl
  | succ k ih => rw [List.replicate_succ, List.cons_append, own_foreign_cons, ih]

/-! ## Interference -/

/-- Where foreign notifications are irrelevant, all queues with the proxy's own notifications have
the same outcome. -/
theorem ForeignIrrelevant.eq {q q' : List EmitNotifyData} (h : ForeignIrrelevant info cb sid s)
    (hq : own sid q = own sid s.pendingNotifies) (hq' : own sid q' = own sid s.pendingNotifies) :
    outcome (emitNotifications info cb { s with pendingNotifies := q }) =
      outcome (emitNotifications info cb { s with pendingNotifies := q' }) :=
  (h q hq).trans (h q' hq').symm

/-- The same for the documents dispatched by the loop. -/
theorem ForeignIrrelevant.loop_eq {q q' : List EmitNotifyData} (hs : s.sid = some sid)
    (h : ForeignIrrelevant info cb sid s) (hq : own sid q = own sid s.pendingNotifies)
    (hq' : own sid q' = own sid s.pendingNotifies) :
    dispatched (emitLoop info cb q { s with pendingNotifies := q }).1.log =
      dispatched (emitLoop info cb q' { s with pendingNotifies := q' }).1.log := by
  have hne : s.sid ≠ none := by rw [hs]; simp
  have heq := congrArg Prod.fst (h.eq hq hq')
  simp only [outcome] at heq
  rwa [dispatched_emitNotifications (s := { s with pendingNotifies := q }) hne,
    dispatched_emitNotifications (s := { s with pendingNotifies := q' }) hne] at heq

/-- A foreign notification is counted where the proxy has none of its own. -/
theorem foreign_counted (hs : s.sid = some sid) (hown : own sid s.pendingNotifies = []) :
    ¬ ForeignIrrelevant info cb sid s := by
  intro h
  have hne : ∀ q, ¬ ({ s with pendingNotifies := q }.sid = none ∧
      { s with pendingNotifies := q }.subscribed = true) := fun q hd => by simp [hs] at hd
  have hown' : own sid [foreign sid 0] = own sid s.pendingNotifies := by
    rw [own_foreign_cons, hown]
    rfl
  have heq := h.eq (q := []) hown.symm hown'
  have hseq := congrArg (fun o => o.2.1) heq
  simp only [outcome] at hseq
  rw [emitNotifications_eq (hne _), emitNotifications_eq (hne _),
    emitLoop_foreign (s := { s with pendingNotifies := [foreign sid 0] }) hs (UInt32.zero_le)] at hseq
  have hnat := congrArg UInt32.toNat hseq
  simp only [emitLoop, Bool.false_eq_true, ↓reduceIte, nextSeq_toNat] at hnat
  exact wrapSucc_ne_self (by omega) _ hnat.symm

/-- A missed notification is dispatched behind enough foreign ones. -/
theorem foreign_fill (hs : s.sid = some sid) {n : EmitNotifyData} {rest : List EmitNotifyData}
    (hown : own sid s.pendingNotifies = n :: rest) (hgap : n.seq > s.seq) :
    ¬ ForeignIrrelevant info cb sid s := by
  intro h
  have hn : n.sid = sid := by
    have hmem : n ∈ own sid s.pendingNotifies := by rw [hown]; exact List.mem_cons_self
    simpa using (List.mem_filter.1 hmem).2
  have hq : own sid (n :: rest) = own sid s.pendingNotifies := by rw [← hown, own_own]
  have hlt : s.seq.toNat < n.seq.toNat := UInt32.lt_iff_toNat_lt.1 hgap
  have hmax : n.seq.toNat < 2 ^ 32 := n.seq.toNat_lt
  obtain ⟨t, ht, hseq, hd, he⟩ := emitLoop_fill info cb
    (n.seq.toNat - s.seq.toNat) (n :: rest)
    { s with pendingNotifies := List.replicate (n.seq.toNat - s.seq.toNat) (foreign sid 0) ++
      n :: rest } hs
  simp only at hseq hd
  have hle : n.seq ≤ t.seq := by
    rw [UInt32.le_iff_toNat_le, hseq, iterate_nextSeq_toNat, iterate_wrapSucc_of_le (by omega)]
    omega
  have hdisp := h.loop_eq hs hq ((own_replicate_foreign sid (n.seq.toNat - s.seq.toNat) _).trans hq)
  rw [he, emitLoop_missed (s := { s with pendingNotifies := n :: rest }) hgap] at hdisp
  have hpre := emitLoop_own info cb ht hn hle rest
  rw [← hdisp, hd] at hpre
  have hlen := hpre.length_le
  simp only [List.length_append, List.length_singleton] at hlen
  omega

/-- A notification in step is lost behind a foreign one that looks missed. -/
theorem foreign_gap (hs : s.sid = some sid) {n : EmitNotifyData} {rest : List EmitNotifyData}
    (hown : own sid s.pendingNotifies = n :: rest) (hle : n.seq ≤ s.seq) :
    ¬ ForeignIrrelevant info cb sid s := by
  intro h
  have hn : n.sid = sid := by
    have hmem : n ∈ own sid s.pendingNotifies := by rw [hown]; exact List.mem_cons_self
    simpa using (List.mem_filter.1 hmem).2
  have hq : own sid (n :: rest) = own sid s.pendingNotifies := by rw [← hown, own_own]
  have hdisp := h.loop_eq hs hq ((own_gap sid s.seq (n :: rest)).trans hq)
  rw [emitLoop_gap (s := { s with pendingNotifies := gap sid s.seq ++ n :: rest }) hs] at hdisp
  have hpre := emitLoop_own info cb (s := { s with pendingNotifies := n :: rest })
    hs hn hle rest
  rw [hdisp] at hpre
  have hlen := hpre.length_le
  simp only [List.length_append, List.length_singleton] at hlen
  omega

theorem foreign_relevant (info : Info) (cb : Proxy → XmlDoc → List Bool) (hs : s.sid = some sid) :
    ¬ ForeignIrrelevant info cb sid s := by
  cases hown : own sid s.pendingNotifies with
  | nil => exact foreign_counted hs hown
  | cons n rest =>
    by_cases hgap : n.seq > s.seq
    · exact foreign_fill hs hown hgap
    · exact foreign_gap hs hown (UInt32.not_lt.1 hgap)

/-! ## Two queues -/

/-- Two queues take the same course from the counter `c`: neither shows a missed event, and they are
of one length up to the period of the counter; or both show one, behind the same notifications with
the SID. -/
def SameCourse (sid : Str) (c : UInt32) (q q' : List EmitNotifyData) : Prop :=
  (InStep c q ∧ InStep c q' ∧ nextSeq^[q.length] c = nextSeq^[q'.length] c) ∨
  (¬ InStep c q ∧ ¬ InStep c q' ∧ own sid (deliverable c q) = own sid (deliverable c q'))

theorem outcome_inStep (hs : s.sid = some sid) {q : List EmitNotifyData} (hq : InStep s.seq q) :
    outcome (emitNotifications info passive { s with pendingNotifies := q }) =
      (dispatched s.log ++ own sid q, nextSeq^[q.length] s.seq, subscribesSent s.log) := by
  obtain ⟨h1, h2⟩ := emitLoop_passive info q (s := { s with pendingNotifies := q }) hs
  rw [emitNotifications_eq (by simp [hs]), h2.2 hq, h1, deliverable_eq_self hq]
  simp [outcome, dispatched_append, dispatched_scanLog, subscribesSent_append,
    subscribesSent_scanLog, deliverable_eq_self hq]

theorem outcome_missed {url : Str} (hu : info.subscriptionUrl = some url) (hs : s.sid = some sid)
    {q : List EmitNotifyData} (hq : ¬ InStep s.seq q) :
    outcome (emitNotifications info passive { s with pendingNotifies := q }) =
      (dispatched s.log ++ own sid (deliverable s.seq q), 0,
        subscribesSent s.log ++ [info.subscribeMsg url]) := by
  obtain ⟨h1, h2⟩ := emitLoop_passive info q (s := { s with pendingNotifies := q }) hs
  have hr : (emitLoop info passive q { s with pendingNotifies := q }).2 = true := by
    rw [← Bool.not_eq_false]
    exact fun hr => hq (h2.1 hr)
  rw [emitNotifications_eq (by simp [hs]), hr, h1]
  simp [outcome, dispatched_subscribe, dispatched_unsubscribe, subscribesSent_subscribe,
    subscribesSent_unsubscribe, dispatched_append, dispatched_scanLog, subscribesSent_append,
    subscribesSent_scanLog, unsubscribe_seq, hs, hu]

/-- With callbacks that leave the subscription alone, two queues with the same notifications of the
proxy have the same outcome exactly when they take the same course. -/
theorem outcome_eq_iff {url : Str} (hu : info.subscriptionUrl = some url) (hs : s.sid = some sid)
    {q q' : List EmitNotifyData} (hown : own sid q = own sid q') :
    outcome (emitNotifications info passive { s with pendingNotifies := q }) =
        outcome (emitNotifications info passive { s with pendingNotifies := q' }) ↔
      SameCourse sid s.seq q q' := by
  unfold SameCourse
  by_cases hq : InStep s.seq q
  · by_cases hq' : InStep s.seq q'
    · rw [outcome_inStep hs hq, outcome_inStep hs hq', hown]
      simp [hq, hq']
    · rw [outcome_inStep hs hq, outcome_missed hu hs hq']
      simp [hq, hq']
  · by_cases hq' : InStep s.seq q'
    · rw [outcome_missed hu hs hq, outcome_inStep hs hq']
      simp [hq, hq']
    · rw [outcome_missed hu hs hq, outcome_missed hu hs hq']
      simp [hq, hq']

/-- **Foreign SIDs interfere**: in every state with a SID and whatever is pending, some foreign
notifications change the outcome; the queues with the same outcome are those that take the same
course. -/
theorem foreign_interferes (info : Info) (cb : Proxy → XmlDoc → List Bool) {sid : Str} {s : Proxy}
    (hs : s.sid = some sid) :
    ¬ ForeignIrrelevant info cb sid s ∧
    ∀ url q, info.subscriptionUrl = some url → own sid q = own sid s.pendingNotifies →
      (outcome (emitNotifications info passive { s with pendingNotifies := q }) =
          outcome (emitNotifications info passive s) ↔
        SameCourse sid s.seq q s.pendingNotifies) :=
  ⟨foreign_relevant info cb hs, fun _ _ hu hown => outcome_eq_iff hu hs hown⟩

theorem foreign_interferes_sample : ¬ ForeignIrrelevant sampleInfo passive sampleSid sampleFresh ∧
    ¬ SameCourse sampleSid 0 [foreign sampleSid 0] [] := by
  obtain ⟨hno, hiff⟩ := foreign_interferes sampleInfo passive
    (show sampleFresh.sid = some sampleSid from rfl)
  refine ⟨hno, fun h => ?_⟩
  have heq := (hiff _ [foreign sampleSid 0] rfl (by decide)).2 h
  revert heq
  decide

/-- One notification from anybody makes the proxy drop its initial event and re-subscribe. -/
theorem foreign_notification_resubscribes : ∃ q q' : List EmitNotifyData,
    own sampleSid q = own sampleSid q' ∧
    outcome (emitNotifications sampleInfo passive { sampleFresh with pendingNotifies := q }) ≠
      outcome (emitNotifications sampleInfo passive { sampleFresh with pendingNotifies := q' }) :=
  ⟨[⟨"uuid:2".toList, 7, ⟨some "propertyset".toList, []⟩⟩,
      ⟨sampleSid, 0, ⟨some "propertyset".toList, []⟩⟩],
    [⟨sampleSid, 0, ⟨some "propertyset".toList, []⟩⟩], by decide, by decide⟩

end GUPnP.ServiceProxy
