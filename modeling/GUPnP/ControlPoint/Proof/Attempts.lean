import GUPnP.Base.Run
import GUPnP.ControlPoint.Downloads
import GUPnP.ControlPoint.Proof.Documents

/-!
# The attempts of a download

The entries of `pending_gets` are those a request of the session or a timer belongs to, and what a
resource-available event causes is the beginning of a plan (`plan`): `tries` requests with waits between
them that double. `Good` says for each request and timer what is left of the plan of its event: the
numbers `tries` and `timeout` of its entry say the same. `downloads_bounded` reads the bound off it, and
`point_run` says that the control point in the main loop is the one of `GUPnP.ControlPoint.Model`.
-/

set_option autoImplicit false

namespace GUPnP.ControlPoint.Downloads

variable {ctx : Context} {s t : LoopState} {e : LoopEvent} {es : List LoopEvent}

/-! ## The plan of an event -/

/-- A request, or a wait of some seconds. -/
inductive Planned where
  | get
  | wait (seconds : Nat)
  deriving DecidableEq, Repr

/-- This many requests, with waits between them that double. -/
def plan : Nat → Nat → List Planned
  | 0, _ => []
  | 1, _ => [.get]
  | n + 2, timeout => .get :: .wait timeout :: plan (n + 1) (timeout * 2)

def Attempt.event : Attempt → Nat
  | .get event _ _ => event
  | .retryAfter event _ _ => event

def Attempt.planned : Attempt → Planned
  | .get _ _ _ => .get
  | .retryAfter _ seconds _ => .wait seconds

/-- What this event has caused. -/
def LoopState.attempts (s : LoopState) (event : Nat) : List Attempt :=
  s.history.filter (·.event = event)

/-- A request comes after the wait before it. -/
def Waits : Attempt → Attempt → Prop
  | .retryAfter _ seconds time, .get _ _ time' => time + seconds ≤ time'
  | _, _ => True

/-- Nothing of this event is going on any more. -/
def LoopState.Over (s : LoopState) (event : Nat) : Prop :=
  (∀ get ∈ s.session, get.event ≠ event) ∧ ∀ source ∈ s.sources, source.event ≠ event

/-- The plan of every event. -/
def fullPlan : List Planned :=
  plan maxDescriptionDownloadRetries.toNat initialDescriptionRetryTimeout

example : fullPlan = [.get, .wait 5, .get, .wait 10, .get, .wait 20, .get] := by decide

theorem plan_cons {n : Nat} (hn : 0 < n) (timeout : Nat) :
    plan n timeout = .get :: (plan n timeout).tail := by
  match n, hn with
  | 1, _ => rfl
  | n + 2, _ => rfl

theorem plan_tail {n : Nat} (hn : 0 < n) (timeout : Nat) :
    (plan (n + 1) timeout).tail = .wait timeout :: plan n (timeout * 2) := by
  match n, hn with
  | n + 1, _ => rfl

/-! ## The invariant -/

/-- The entry of a running request: what is left of the plan comes after the request. -/
structure Running (attempts : List Attempt) (data : GetDescriptionUrlData) : Prop where
  phase : data.phase = .running
  tries : 0 < data.tries
  rest : attempts.map Attempt.planned ++ (plan data.tries.toNat data.timeout).tail = fullPlan

/-- The entry of a timer: the plan goes on with the next request, when the timer is due. -/
structure Waiting (attempts : List Attempt) (source : RetrySource) (data : GetDescriptionUrlData) :
    Prop where
  phase : data.phase = .waiting
  tries : 0 < data.tries
  rest : attempts.map Attempt.planned ++ plan data.tries.toNat data.timeout = fullPlan
  due : ∃ seconds time, attempts.getLast? = some (.retryAfter source.event seconds time) ∧
    source.due = time + seconds

def LoopState.ids (s : LoopState) : List Nat := s.point.pendingGets.map (·.id)

/-- The entries that a request or a timer belongs to, and the events these go back to. -/
def LoopState.owned (s : LoopState) : List Nat := s.session.map (·.data) ++ s.sources.map (·.data)

def LoopState.owners (s : LoopState) : List Nat := s.session.map (·.event) ++ s.sources.map (·.event)

structure Good (s : LoopState) : Prop where
  owned : s.ids.Perm s.owned
  nodup : s.ids.Nodup
  fresh : ∀ id ∈ s.ids, id < s.point.nextId
  owners : s.owners.Nodup
  known : ∀ event ∈ s.owners, event < s.events
  past : ∀ attempt ∈ s.history, attempt.event < s.events
  running : ∀ get ∈ s.session, ∀ data ∈ s.point.pendingGets, data.id = get.data →
    Running (s.attempts get.event) data
  waiting : ∀ source ∈ s.sources, ∀ data ∈ s.point.pendingGets, data.id = source.data →
    Waiting (s.attempts source.event) source data
  planned : ∀ event, (s.attempts event).map Attempt.planned <+: fullPlan ∧
    (s.attempts event).IsChain Waits
  origin : ∀ id ∈ s.ids, ∃ event time, .get event id time ∈ s.history
  caused : ∀ event id time, .get event id time ∈ s.history → id < s.point.nextId ∧
    (∀ get ∈ s.session, get.data = id → get.event = event) ∧
    ∀ source ∈ s.sources, source.data = id → source.event = event

theorem good_init : Good .init where
  owned := .nil
  nodup := List.nodup_nil
  fresh _ h := by cases h
  owners := List.nodup_nil
  known _ h := by cases h
  past _ h := by cases h
  running _ h := by cases h
  waiting _ h := by cases h
  planned _ := ⟨List.nil_prefix, .nil⟩
  origin _ h := by cases h
  caused _ _ _ h := by cases h

/-- A change of other fields, and of fields of the entries that the invariant does not speak of. -/
theorem Good.congr (hg : Good s) (f : GetDescriptionUrlData → GetDescriptionUrlData)
    (hf : ∀ data, (f data).id = data.id ∧ (f data).phase = data.phase ∧
      (f data).tries = data.tries ∧ (f data).timeout = data.timeout)
    (hpending : t.point.pendingGets = s.point.pendingGets.map f)
    (hnext : t.point.nextId = s.point.nextId) (hsession : t.session = s.session)
    (hsources : t.sources = s.sources) (hevents : s.events ≤ t.events)
    (hhistory : t.history = s.history) : Good t := by
  have hids : t.ids = s.ids := by
    have hid : (·.id) ∘ f = fun data : GetDescriptionUrlData => data.id := funext fun d => (hf d).1
    rw [LoopState.ids, LoopState.ids, hpending, List.map_map, hid]
  have hattempts : ∀ event, t.attempts event = s.attempts event := fun event => by
    rw [LoopState.attempts, LoopState.attempts, hhistory]
  refine ⟨?_, hids ▸ hg.nodup, ?_, ?_, ?_, ?_, ?_, ?_, fun event => ?_, ?_, ?_⟩
  · rw [hids, LoopState.owned, hsession, hsources]
    exact hg.owned
  · rw [hids, hnext]
    exact hg.fresh
  · rw [LoopState.owners, hsession, hsources]
    exact hg.owners
  · rw [LoopState.owners, hsession, hsources]
    exact fun event he => Nat.lt_of_lt_of_le (hg.known event he) hevents
  · rw [hhistory]
    exact fun attempt ha => Nat.lt_of_lt_of_le (hg.past attempt ha) hevents
  · rw [hsession, hpending]
    intro get hget _ hmem hid
    obtain ⟨data, hdata, rfl⟩ := List.mem_map.1 hmem
    obtain ⟨hfid, hphase, htries, htimeout⟩ := hf data
    have hrun := hg.running get hget data hdata (hfid.symm.trans hid)
    exact ⟨hphase.trans hrun.phase, htries ▸ hrun.tries,
      by rw [hattempts, htries, htimeout]; exact hrun.rest⟩
  · rw [hsources, hpending]
    intro source hsource _ hmem hid
    obtain ⟨data, hdata, rfl⟩ := List.mem_map.1 hmem
    obtain ⟨hfid, hphase, htries, htimeout⟩ := hf data
    have hwait := hg.waiting source hsource data hdata (hfid.symm.trans hid)
    exact ⟨hphase.trans hwait.phase, htries ▸ hwait.tries,
      by rw [hattempts, htries, htimeout]; exact hwait.rest, by rw [hattempts]; exact hwait.due⟩
  · rw [hattempts]
    exact hg.planned event
  · rw [hids, hhistory]
    exact hg.origin
  · rw [hhistory, hnext, hsession, hsources]
    exact hg.caused

/-- A change of the control point that leaves its entries. -/
theorem Good.withPoint (hg : Good s) {point : ControlPointState}
    (hpending : point.pendingGets = s.point.pendingGets) (hnext : point.nextId = s.point.nextId) :
    Good { s with point := point } :=
  hg.congr id (fun _ => ⟨rfl, rfl, rfl, rfl⟩) (by rw [List.map_id]; exact hpending) hnext rfl rfl
    (Nat.le_refl _) rfl

/-! ## An entry is freed -/

/-- The state without the entry and what belongs to it. -/
def LoopState.remove (s : LoopState) (id : Nat) : LoopState :=
  { s with
    point := ControlPoint.getDescriptionUrlDataFree id s.point
    session := s.session.filter (·.data ≠ id)
    sources := s.sources.filter (·.data ≠ id) }

theorem map_filter_ne {α : Type} (f : α → Nat) (l : List α) (id : Nat) :
    (l.filter (f · ≠ id)).map f = (l.map f).filter (· ≠ id) := by
  rw [List.filter_map]
  rfl

theorem remove_owners_sublist (s : LoopState) (id : Nat) :
    (s.remove id).owners.Sublist s.owners :=
  List.Sublist.append (List.filter_sublist.map _) (List.filter_sublist.map _)

theorem Good.remove (hg : Good s) (id : Nat) : Good (s.remove id) := by
  have hids : (s.remove id).ids = s.ids.filter (· ≠ id) := map_filter_ne _ _ _
  have howned : (s.remove id).owned = s.owned.filter (· ≠ id) := by
    rw [LoopState.owned, LoopState.owned, List.filter_append]
    exact congrArg₂ _ (map_filter_ne _ _ _) (map_filter_ne _ _ _)
  refine ⟨?_, ?_, fun i hi => ?_, hg.owners.sublist (remove_owners_sublist s id),
    fun event he => hg.known event ((remove_owners_sublist s id).subset he), hg.past,
    fun get hget data hdata => ?_, fun source hsource data hdata => ?_, hg.planned, fun i hi => ?_,
    fun event i time hmem => ?_⟩
  · rw [hids, howned]
    exact hg.owned.filter _
  · rw [hids]
    exact hg.nodup.filter _
  · rw [hids] at hi
    exact hg.fresh i (List.mem_filter.1 hi).1
  · exact hg.running get (List.mem_filter.1 hget).1 data (List.mem_filter.1 hdata).1
  · exact hg.waiting source (List.mem_filter.1 hsource).1 data (List.mem_filter.1 hdata).1
  · rw [hids] at hi
    exact hg.origin i (List.mem_filter.1 hi).1
  · obtain ⟨hlt, hget, hsource⟩ := hg.caused event i time hmem
    exact ⟨hlt, fun get h => hget get (List.mem_filter.1 h).1,
      fun source h => hsource source (List.mem_filter.1 h).1⟩

/-- The entry of a running request has no timer. -/
theorem Good.no_source (hg : Good s) {get : Get} (hget : get ∈ s.session) :
    ∀ source ∈ s.sources, source.data ≠ get.data := by
  intro source hsource he
  have hnodup := (hg.owned.nodup_iff).1 hg.nodup
  exact (List.nodup_append.1 hnodup).2.2 get.data (List.mem_map_of_mem hget) source.data
    (List.mem_map_of_mem hsource) he.symm

/-- The entry of a timer has no request. -/
theorem Good.no_get (hg : Good s) {source : RetrySource} (hsource : source ∈ s.sources) :
    ∀ get ∈ s.session, get.data ≠ source.data :=
  fun _ hget he => hg.no_source hget source hsource he.symm

theorem Good.getDescriptionUrlDataFree (hg : Good s) (id : Nat)
    (hnone : ∀ get ∈ s.session, get.data ≠ id) : Good (getDescriptionUrlDataFree id s) := by
  have hsame : s.session.filter (·.data ≠ id) = s.session :=
    List.filter_eq_self.2 fun get hget => by simpa using hnone get hget
  have hgood := hg.remove id
  rw [LoopState.remove, hsame] at hgood
  exact hgood

/-! ## A request is made -/

theorem attempts_self {attempt : Attempt} (hhistory : t.history = s.history ++ [attempt]) :
    t.attempts attempt.event = s.attempts attempt.event ++ [attempt] := by
  simp [LoopState.attempts, hhistory]

theorem attempts_ne {attempt : Attempt} (hhistory : t.history = s.history ++ [attempt])
    {event : Nat} (hne : event ≠ attempt.event) : t.attempts event = s.attempts event := by
  simp [LoopState.attempts, hhistory, Ne.symm hne]

/-- One more attempt of an event, which the plan has next. -/
theorem planned_of_append {attempt : Attempt} {rest : List Planned} (hg : Good s)
    (hhistory : t.history = s.history ++ [attempt])
    (hplan : (s.attempts attempt.event).map Attempt.planned ++ attempt.planned :: rest = fullPlan)
    (hlast : ∀ last ∈ (s.attempts attempt.event).getLast?, Waits last attempt) (event : Nat) :
    (t.attempts event).map Attempt.planned <+: fullPlan ∧ (t.attempts event).IsChain Waits := by
  by_cases hevent : event = attempt.event
  · subst hevent
    rw [attempts_self hhistory]
    refine ⟨⟨rest, by simpa using hplan⟩, ?_⟩
    rw [List.isChain_append]
    refine ⟨(hg.planned _).2, .singleton attempt, fun last hl next hn => ?_⟩
    obtain rfl : attempt = next := Option.some.inj hn
    exact hlast last hl
  · rw [attempts_ne hhistory hevent]
    exact hg.planned event

theorem past_of_append {attempt : Attempt} (hg : Good s)
    (hhistory : t.history = s.history ++ [attempt]) (hevents : t.events = s.events)
    (hknown : attempt.event < s.events) : ∀ attempt ∈ t.history, attempt.event < t.events := by
  rw [hhistory, hevents]
  intro attempt' ha
  rcases List.mem_append.1 ha with ha | ha
  · exact hg.past attempt' ha
  · rw [List.mem_singleton.1 ha]
    exact hknown

section
variable {udn url : Str} {serviceType : Option Str} {doc : Xml.Node}

theorem descriptionLoaded_frame {s t : ControlPointState}
    (h : ControlPoint.descriptionLoaded udn serviceType url doc s = some t) :
    t.pendingGets = s.pendingGets ∧ t.nextId = s.nextId := by
  rcases descriptionLoaded_cases (udn, serviceType) h with rfl | ⟨element, -, rfl⟩
  · exact ⟨rfl, rfl⟩
  · refine ⟨addProxy_pendingGets, ?_⟩
    cases serviceType <;> rfl

theorem newDescription_frame {data : GetDescriptionUrlData} {s t : ControlPointState}
    (h : newDescription data doc s = some t) :
    t.pendingGets = s.pendingGets ∧ t.nextId = s.nextId := by
  obtain ⟨u, hu, rfl⟩ := Option.map_eq_some_iff.1 h
  have hframe := descriptionLoaded_frame hu
  split
  · exact hframe
  · exact hframe

theorem Good.descriptionLoaded (hg : Good s) (h : descriptionLoaded udn serviceType url doc s = some t) :
    Good t := by
  obtain ⟨point, hpoint, rfl⟩ := Option.map_eq_some_iff.1 h
  exact hg.withPoint (descriptionLoaded_frame hpoint).1 (descriptionLoaded_frame hpoint).2

end

/-- From `s` to `t` an entry and its request are new, for an event that has none. -/
structure Requested (s t : LoopState) (event : Nat) (data : GetDescriptionUrlData) : Prop where
  free : event ∉ s.owners
  known : event < s.events
  phase : data.phase = .running
  id : data.id = s.point.nextId
  tries : 0 < data.tries
  plan : (s.attempts event).map Attempt.planned ++ plan data.tries.toNat data.timeout = fullPlan
  last : ∀ attempt ∈ (s.attempts event).getLast?, Waits attempt (.get event data.id s.clock)
  pending : t.point.pendingGets = data :: s.point.pendingGets
  next : t.point.nextId = s.point.nextId + 1
  session : t.session = s.session ++ [⟨data.id, event⟩]
  sources : t.sources = s.sources
  events : t.events = s.events
  history : t.history = s.history ++ [.get event data.id s.clock]

section
variable {event : Nat} {data : GetDescriptionUrlData}

/-- What a request or a timer belongs to is an entry. -/
theorem Good.get_mem_ids (hg : Good s) {get : Get} (hget : get ∈ s.session) : get.data ∈ s.ids :=
  hg.owned.mem_iff.2 (List.mem_append_left _ (List.mem_map_of_mem hget))

theorem Good.source_mem_ids (hg : Good s) {source : RetrySource} (hsource : source ∈ s.sources) :
    source.data ∈ s.ids :=
  hg.owned.mem_iff.2 (List.mem_append_right _ (List.mem_map_of_mem hsource))

theorem Requested.ids (h : Requested s t event data) : t.ids = data.id :: s.ids := by
  rw [LoopState.ids, h.pending]
  rfl

theorem Requested.new (h : Requested s t event data) (hg : Good s) : data.id ∉ s.ids :=
  fun hmem => Nat.lt_irrefl _ (h.id ▸ hg.fresh _ hmem)

theorem Requested.attempts_ne (h : Requested s t event data) {event' : Nat}
    (howner : event' ∈ s.owners) : t.attempts event' = s.attempts event' :=
  Downloads.attempts_ne h.history fun he : event' = event => h.free (he ▸ howner)

/-- The plan after the request. -/
theorem Requested.cons (h : Requested s t event data) : (s.attempts event).map Attempt.planned ++
    .get :: (Downloads.plan data.tries.toNat data.timeout).tail = fullPlan := by
  have hpos : 0 < data.tries.toNat := by
    have := h.tries
    omega
  rw [← plan_cons hpos]
  exact h.plan

theorem Requested.owned (h : Requested s t event data) (hg : Good s) : t.ids.Perm t.owned := by
  rw [h.ids, LoopState.owned, h.session, h.sources, List.map_append, List.append_assoc]
  exact (hg.owned.cons data.id).trans List.perm_middle.symm

theorem Requested.owners (h : Requested s t event data) : t.owners.Perm (event :: s.owners) := by
  rw [LoopState.owners, h.session, h.sources, List.map_append, List.append_assoc]
  exact List.perm_middle

theorem Requested.running (h : Requested s t event data) (hg : Good s) :
    ∀ get ∈ t.session, ∀ data ∈ t.point.pendingGets, data.id = get.data →
      Running (t.attempts get.event) data := by
  rw [h.session, h.pending]
  intro get hget d hd he
  rcases List.mem_append.1 hget with hin | hin
  · rcases List.mem_cons.1 hd with rfl | hd
    · exact absurd (he ▸ hg.get_mem_ids hin) (h.new hg)
    · rw [h.attempts_ne (List.mem_append_left _ (List.mem_map_of_mem hin))]
      exact hg.running get hin d hd he
  · obtain rfl := List.mem_singleton.1 hin
    rcases List.mem_cons.1 hd with rfl | hd
    · have hself : t.attempts event = s.attempts event ++ [.get event d.id s.clock] :=
        attempts_self h.history
      refine ⟨h.phase, h.tries, ?_⟩
      rw [hself, List.map_append, List.append_assoc]
      exact h.cons
    · exact absurd (List.mem_map.2 ⟨d, hd, he⟩) (h.new hg)

theorem Requested.waiting (h : Requested s t event data) (hg : Good s) :
    ∀ source ∈ t.sources, ∀ data ∈ t.point.pendingGets, data.id = source.data →
      Waiting (t.attempts source.event) source data := by
  rw [h.sources, h.pending]
  intro source hsource d hd he
  rcases List.mem_cons.1 hd with rfl | hd
  · exact absurd (he ▸ hg.source_mem_ids hsource) (h.new hg)
  · rw [h.attempts_ne (List.mem_append_right _ (List.mem_map_of_mem hsource))]
    exact hg.waiting source hsource d hd he

theorem Requested.origin (h : Requested s t event data) (hg : Good s) :
    ∀ id ∈ t.ids, ∃ event time, .get event id time ∈ t.history := by
  rw [h.ids, h.history]
  intro id hid
  rcases List.mem_cons.1 hid with rfl | hid
  · exact ⟨event, s.clock, by simp⟩
  · obtain ⟨event', time, hmem⟩ := hg.origin id hid
    exact ⟨event', time, List.mem_append_left _ hmem⟩

theorem Requested.caused (h : Requested s t event data) (hg : Good s) (event' id time : Nat)
    (hmem : .get event' id time ∈ t.history) : id < t.point.nextId ∧
      (∀ get ∈ t.session, get.data = id → get.event = event') ∧
      ∀ source ∈ t.sources, source.data = id → source.event = event' := by
  have hid := h.id
  rw [h.history] at hmem
  rw [h.next, h.session, h.sources]
  rcases List.mem_append.1 hmem with hmem | hmem
  · obtain ⟨hlt, hget, hsource⟩ := hg.caused event' id time hmem
    refine ⟨Nat.lt_succ_of_lt hlt, fun get hg' he => ?_, hsource⟩
    rcases List.mem_append.1 hg' with hg' | hg'
    · exact hget get hg' he
    · obtain rfl := List.mem_singleton.1 hg'
      dsimp only at he
      omega
  · obtain ⟨rfl, rfl, -⟩ := Attempt.get.inj (List.mem_singleton.1 hmem)
    refine ⟨by omega, fun get hg' he => ?_, fun source hs he => ?_⟩
    · rcases List.mem_append.1 hg' with hg' | hg'
      · exact absurd (he ▸ hg.get_mem_ids hg') (h.new hg)
      · rw [List.mem_singleton.1 hg']
    · exact absurd (he ▸ hg.source_mem_ids hs) (h.new hg)

theorem Good.request (hg : Good s) (data : GetDescriptionUrlData) (h : Requested s t event data) :
    Good t where
  owned := h.owned hg
  nodup := by
    rw [h.ids]
    exact List.nodup_cons.2 ⟨h.new hg, hg.nodup⟩
  fresh := by
    rw [h.ids, h.next]
    intro i hi
    rcases List.mem_cons.1 hi with rfl | hi
    · exact Nat.lt_succ_of_le (Nat.le_of_eq h.id)
    · exact Nat.lt_succ_of_lt (hg.fresh i hi)
  owners := h.owners.nodup_iff.2 (List.nodup_cons.2 ⟨h.free, hg.owners⟩)
  known := by
    intro event' he
    rw [h.events]
    rcases List.mem_cons.1 (h.owners.mem_iff.1 he) with rfl | he
    · exact h.known
    · exact hg.known event' he
  past := past_of_append hg h.history h.events h.known
  running := h.running hg
  waiting := h.waiting hg
  planned := planned_of_append hg h.history h.cons h.last
  origin := h.origin hg
  caused := h.caused hg

end

/-! ## A request fails -/

/-- In a list with different keys one element has its key. -/
theorem perm_cons_filter {α : Type} (key : α → Nat) {l : List α} (hl : (l.map key).Nodup) {x : α}
    (hx : x ∈ l) : l.Perm (x :: l.filter (key · ≠ key x)) := by
  induction l with
  | nil => cases hx
  | cons y l ih =>
    simp only [List.map_cons, List.nodup_cons] at hl
    rcases List.mem_cons.1 hx with rfl | hx
    · have hsame : l.filter (key · ≠ key x) = l := List.filter_eq_self.2 fun z hz => by
        simpa using fun he : key z = key x => hl.1 (he ▸ List.mem_map_of_mem hz)
      rw [List.filter_cons_of_neg (by simp), hsame]
    · have hne : key y ≠ key x := fun he => hl.1 (he ▸ List.mem_map_of_mem hx)
      rw [List.filter_cons_of_pos (by simpa using hne)]
      exact ((ih hl.2 hx).cons y).trans (.swap x y _)

theorem Good.session_perm (hg : Good s) {get : Get} (hget : get ∈ s.session) :
    s.session.Perm (get :: s.session.filter (·.data ≠ get.data)) :=
  perm_cons_filter Get.data (List.nodup_append.1 (hg.owned.nodup_iff.1 hg.nodup)).1 hget

/-- From `s` to `t` a request is over and the timer of its entry is set. The entries are changed by `f`,
which is no change for the others. -/
structure Waited (s t : LoopState) (get : Get) (data : GetDescriptionUrlData)
    (f : GetDescriptionUrlData → GetDescriptionUrlData) : Prop where
  mem : get ∈ s.session
  entry : data ∈ s.point.pendingGets
  id : data.id = get.data
  tries : 0 < data.tries - 1
  same : ∀ d, (f d).id = d.id
  other : ∀ d, d.id ≠ data.id → f d = d
  self : f data =
    { data with tries := data.tries - 1, phase := .waiting, timeout := data.timeout * 2 }
  pending : t.point.pendingGets = s.point.pendingGets.map f
  next : t.point.nextId = s.point.nextId
  session : t.session = s.session.filter (·.data ≠ get.data)
  sources : t.sources = s.sources ++ [⟨data.id, get.event, s.clock + data.timeout⟩]
  events : t.events = s.events
  history : t.history = s.history ++ [.retryAfter get.event data.timeout s.clock]

section
variable {get : Get} {data : GetDescriptionUrlData} {f : GetDescriptionUrlData → GetDescriptionUrlData}

theorem Waited.ids (h : Waited s t get data f) : t.ids = s.ids := by
  have hfun : (·.id) ∘ f = fun d : GetDescriptionUrlData => d.id := funext h.same
  rw [LoopState.ids, LoopState.ids, h.pending, List.map_map, hfun]

theorem Waited.owned (h : Waited s t get data f) (hg : Good s) : t.owned.Perm s.owned := by
  rw [LoopState.owned, LoopState.owned, h.session, h.sources, List.map_append, ← List.append_assoc]
  refine (List.perm_append_singleton _ _).trans ?_
  show (data.id :: _).Perm _
  rw [h.id]
  exact (((hg.session_perm h.mem).map Get.data).symm).append_right _

theorem Waited.owners (h : Waited s t get data f) (hg : Good s) : t.owners.Perm s.owners := by
  rw [LoopState.owners, LoopState.owners, h.session, h.sources, List.map_append,
    ← List.append_assoc]
  exact (List.perm_append_singleton _ _).trans
    (((hg.session_perm h.mem).map Get.event).symm.append_right _)

/-- The plan after the request begins with the wait. -/
theorem Waited.plan (h : Waited s t get data f) (hg : Good s) :
    (s.attempts get.event).map Attempt.planned ++
      .wait data.timeout :: plan (data.tries - 1).toNat (data.timeout * 2) = fullPlan := by
  have hpos := h.tries
  have hsucc : data.tries.toNat = (data.tries - 1).toNat + 1 := by omega
  have hrest := (hg.running get h.mem data h.entry h.id).rest
  rw [hsucc, plan_tail (by omega)] at hrest
  exact hrest

theorem Waited.running (h : Waited s t get data f) (hg : Good s) :
    ∀ get ∈ t.session, ∀ data ∈ t.point.pendingGets, data.id = get.data →
      Running (t.attempts get.event) data := by
  rw [h.session, h.pending]
  intro get' hget' _ hmem he
  obtain ⟨d, hd, rfl⟩ := List.mem_map.1 hmem
  obtain ⟨hin, hne⟩ := List.mem_filter.1 hget'
  have hne : get'.data ≠ get.data := of_decide_eq_true hne
  rw [h.same] at he
  have hevent : get'.event ≠ get.event := fun heq => hne (congrArg Get.data
    (List.inj_on_of_nodup_map (List.nodup_append.1 hg.owners).1 hin h.mem heq))
  rw [h.other d fun heq => hne (he.symm.trans (heq.trans h.id)), attempts_ne h.history hevent]
  exact hg.running get' hin d hd he

theorem Waited.waiting (h : Waited s t get data f) (hg : Good s) :
    ∀ source ∈ t.sources, ∀ data ∈ t.point.pendingGets, data.id = source.data →
      Waiting (t.attempts source.event) source data := by
  rw [h.sources, h.pending]
  intro source hsource _ hmem he
  obtain ⟨d, hd, rfl⟩ := List.mem_map.1 hmem
  rw [h.same] at he
  rcases List.mem_append.1 hsource with hin | hin
  · have hevent : source.event ≠ get.event := fun heq => (List.nodup_append.1 hg.owners).2.2
      get.event (List.mem_map_of_mem h.mem) source.event (List.mem_map_of_mem hin) heq.symm
    rw [h.other d fun heq => hg.no_source h.mem source hin (he.symm.trans (heq.trans h.id)),
      attempts_ne h.history hevent]
    exact hg.waiting source hin d hd he
  · obtain rfl := List.mem_singleton.1 hin
    have hsame : d = data := List.inj_on_of_nodup_map hg.nodup hd h.entry he
    have hself : t.attempts get.event =
        s.attempts get.event ++ [.retryAfter get.event data.timeout s.clock] := attempts_self h.history
    rw [hsame, h.self, hself]
    refine ⟨rfl, h.tries, ?_, data.timeout, s.clock, List.getLast?_concat, rfl⟩
    rw [List.map_append, List.append_assoc]
    exact h.plan hg

theorem Waited.caused (h : Waited s t get data f) (hg : Good s) (event id time : Nat)
    (hmem : .get event id time ∈ t.history) : id < t.point.nextId ∧
      (∀ get ∈ t.session, get.data = id → get.event = event) ∧
      ∀ source ∈ t.sources, source.data = id → source.event = event := by
  rw [h.history] at hmem
  rw [h.next, h.session, h.sources]
  obtain ⟨hlt, hgets, hsource⟩ := hg.caused event id time (by simpa using hmem)
  refine ⟨hlt, fun get' hget' => hgets get' (List.mem_filter.1 hget').1, fun source hin he => ?_⟩
  rcases List.mem_append.1 hin with hin | hin
  · exact hsource source hin he
  · rw [List.mem_singleton.1 hin] at he ⊢
    exact hgets get h.mem (h.id.symm.trans he)

theorem Good.wait (hg : Good s) (h : Waited s t get data f) : Good t where
  owned := h.ids ▸ hg.owned.trans (h.owned hg).symm
  nodup := h.ids ▸ hg.nodup
  fresh := by
    rw [h.ids, h.next]
    exact hg.fresh
  owners := (h.owners hg).nodup_iff.2 hg.owners
  known := by
    intro event he
    rw [h.events]
    exact hg.known event ((h.owners hg).mem_iff.1 he)
  past := past_of_append hg h.history h.events
    (hg.known _ (List.mem_append_left _ (List.mem_map_of_mem h.mem)))
  running := h.running hg
  waiting := h.waiting hg
  planned := by
    refine planned_of_append hg h.history (h.plan hg) fun last _ => ?_
    cases last <;> trivial
  origin := by
    rw [h.ids, h.history]
    intro id hid
    obtain ⟨event, time, hin⟩ := hg.origin id hid
    exact ⟨event, time, List.mem_append_left _ hin⟩
  caused := h.caused hg

end

end GUPnP.ControlPoint.Downloads
