import GUPnP.ControlPoint.Proof.Attempts

/-!
# Downloads are bounded and accounted for

Each step of the control point in the main loop keeps `Good`, so it holds after every run.
`downloads_bounded` reads off it how many requests an event causes and when, and which entries
`pending_gets` has. `point_run` says that the control point in the main loop is the one of
`GUPnP.ControlPoint.Model`, which does not see time pass.
-/

set_option autoImplicit false

namespace GUPnP.ControlPoint.Downloads

variable {ctx : Context} {s t : LoopState} {e : LoopEvent} {es : List LoopEvent}

/-! ## Downloads that start -/

/-- The state with a new request. -/
def LoopState.request (s : LoopState) (event : Nat) (data : GetDescriptionUrlData) (url : Str) :
    LoopState :=
  { s with
    point := { s.point with
      pendingGets := data :: s.point.pendingGets
      nextId := s.point.nextId + 1
      log := s.point.log ++ [.get data.resource url] }
    session := s.session ++ [⟨data.id, event⟩]
    history := s.history ++ [.get event data.id s.clock] }

section
variable {event : Nat} {url udn : Str} {serviceType : Option Str} {maxTries : Int} {timeout : Nat}

theorem loadDescription_cases
    (h : loadDescription ctx event url udn serviceType maxTries timeout s = some t) :
    t = s ∨ (∃ doc, descriptionLoaded udn serviceType url doc s = some t) ∨
      ∃ localDescription, t = s.request event
        ⟨s.point.nextId, udn, serviceType, url, .running, false, maxTries, timeout⟩
          localDescription := by
  unfold loadDescription at h
  split at h
  · exact .inr (.inl ⟨_, h⟩)
  split at h
  · exact .inl (Option.some.inj h).symm
  split at h
  · exact .inr (.inr ⟨_, (Option.some.inj h).symm⟩)
  · exact .inl (Option.some.inj h).symm

theorem Good.loadDescription (hg : Good s) (hevent : event ∉ s.owners) (hknown : event < s.events)
    (htries : 0 < maxTries) (hnone : s.attempts event = [])
    (hplan : plan maxTries.toNat timeout = fullPlan)
    (h : loadDescription ctx event url udn serviceType maxTries timeout s = some t) : Good t := by
  rcases loadDescription_cases h with rfl | ⟨doc, h⟩ | ⟨localDescription, rfl⟩
  · exact hg
  · exact hg.descriptionLoaded h
  · exact hg.request _ ⟨hevent, hknown, rfl, rfl, htries, by simpa [hnone] using hplan, by simp [hnone],
      rfl, rfl, rfl, rfl, rfl, rfl⟩

end

theorem good_resourceAvailable (hg : Good s) {usn : Str} {locations : List Str}
    (h : resourceAvailable ctx usn locations s = some t) : Good t := by
  have hnext : Good { s with events := s.events + 1 } :=
    hg.congr id (fun _ => ⟨rfl, rfl, rfl, rfl⟩) (by simp) rfl rfl rfl (Nat.le_succ _) rfl
  have hnew : s.events ∉ s.owners := fun h => Nat.lt_irrefl _ (hg.known _ h)
  have hnone : s.attempts s.events = [] := by
    simp only [LoopState.attempts, List.filter_eq_nil_iff, decide_eq_true_eq]
    intro attempt ha he
    have := hg.past attempt ha
    omega
  unfold resourceAvailable at h
  cases locations with
  | nil => exact Option.some.inj h ▸ hnext
  | cons location locations =>
    dsimp only at h
    split at h
    · exact Option.some.inj h ▸ hnext
    · exact hnext.loadDescription hnew (Nat.lt_succ_self _) (by decide) hnone rfl h

/-! ## Requests that end -/

section
variable {get : Get} {data : GetDescriptionUrlData}

/-- The request is no longer with the session. -/
def LoopState.completed (s : LoopState) (id : Nat) : LoopState :=
  { s with session := s.session.filter (·.data ≠ id) }

theorem good_free (hg : Good s) (id : Nat) : Good (getDescriptionUrlDataFree id (s.completed id)) :=
  hg.remove id

theorem good_retryLater (hg : Good s) (hget : get ∈ s.session) (hdata : data ∈ s.point.pendingGets)
    (hid : data.id = get.data) : Good (retryLater get.event data (s.completed get.data)) := by
  unfold retryLater
  simp only
  split
  · rename_i htries
    refine hg.wait ⟨hget, hdata, hid, htries, fun d => ?_, fun d hd => ?_, ?_, rfl, rfl, rfl, rfl, rfl,
      rfl⟩
    · split <;> simp_all
    · simp [hd]
    · simp
  · rw [hid]
    exact good_free hg get.data

theorem good_gotDocument (ctx : Context) (hg : Good s) (hget : get ∈ s.session)
    (hdata : data ∈ s.point.pendingGets) (hid : data.id = get.data) (response : Option (Nat × Str))
    (h : gotDocument ctx get.event data response (s.completed get.data) = some t) : Good t := by
  unfold gotDocument at h
  rw [hid] at h
  split at h
  · obtain ⟨u, hu, rfl⟩ := Option.map_eq_some_iff.1 h
    obtain ⟨point, hpoint, rfl⟩ := Option.map_eq_some_iff.1 hu
    obtain ⟨hpending, hnext⟩ := descriptionLoaded_frame hpoint
    exact good_free (hg.withPoint hpending hnext) get.data
  split at h
  · exact Option.some.inj h ▸ good_retryLater hg hget hdata hid
  split at h
  · split at h
    · obtain ⟨point, hpoint, rfl⟩ := Option.map_eq_some_iff.1 h
      obtain ⟨hpending, hnext⟩ := newDescription_frame hpoint
      exact good_free (hg.withPoint hpending hnext) get.data
    · exact Option.some.inj h ▸ good_free hg get.data
  · exact Option.some.inj h ▸ good_retryLater hg hget hdata hid

theorem good_gotDescriptionUrl (hg : Good s) (hget : get ∈ s.session)
    (hdata : data ∈ s.point.pendingGets) (hid : data.id = get.data) {outcome : Outcome}
    (h : gotDescriptionUrl ctx get.event data outcome (s.completed get.data) = some t) : Good t := by
  cases outcome with
  | cancelled => exact Option.some.inj h ▸ hid ▸ good_free hg get.data
  | failed => exact Option.some.inj h ▸ hid ▸ good_free hg get.data
  | timedOut => exact good_gotDocument ctx hg hget hdata hid none h
  | response status body => exact good_gotDocument ctx hg hget hdata hid (some (status, body)) h

/-! ## Timers that fire -/

/-- A timer that fires leaves its event without one. -/
theorem Good.event_free (hg : Good s) {source : RetrySource} (hsource : source ∈ s.sources) :
    source.event ∉ (Downloads.getDescriptionUrlDataFree source.data s).owners := by
  intro hmem
  obtain ⟨-, hnodup, hdisjoint⟩ := List.nodup_append.1 hg.owners
  have hown := List.mem_map_of_mem (f := RetrySource.event) hsource
  rcases List.mem_append.1 hmem with h | h
  · exact hdisjoint _ h _ hown rfl
  · obtain ⟨other, hother, he⟩ := List.mem_map.1 h
    obtain ⟨hin, hne⟩ := List.mem_filter.1 hother
    obtain rfl := List.inj_on_of_nodup_map hnodup hin hsource he
    simp at hne

theorem good_descriptionUrlRetryTimeout (hg : Good s) {source : RetrySource}
    (hsource : source ∈ s.sources) (hdata : data ∈ s.point.pendingGets) (hid : data.id = source.data)
    (hdue : source.due ≤ s.clock)
    (h : descriptionUrlRetryTimeout ctx source.event data s = some t) : Good t := by
  have hwait := hg.waiting source hsource data hdata hid
  obtain ⟨seconds, time, hlast, hafter⟩ := hwait.due
  have hfree := hg.getDescriptionUrlDataFree source.data (hg.no_get hsource)
  unfold descriptionUrlRetryTimeout at h
  rw [hid] at h
  obtain ⟨u, hu, rfl⟩ := Option.map_eq_some_iff.1 h
  rcases loadDescription_cases hu with rfl | ⟨doc, hu⟩ | ⟨localDescription, rfl⟩
  · exact hfree
  · obtain ⟨point, hpoint, rfl⟩ := Option.map_eq_some_iff.1 hu
    obtain ⟨hpending, hnext⟩ := descriptionLoaded_frame hpoint
    exact (hg.withPoint hpending hnext).getDescriptionUrlDataFree source.data (hg.no_get hsource)
  · have hold : s.point.nextId ≠ source.data := by
      have := hg.fresh data.id (List.mem_map_of_mem hdata)
      omega
    refine hfree.request ⟨s.point.nextId, data.udn, data.serviceType, data.descriptionUrl,
      .running, false, data.tries, data.timeout⟩ ⟨hg.event_free hsource, hg.known _ ?_, rfl, rfl,
        hwait.tries, hwait.rest, ?_, ?_, rfl, rfl, rfl, rfl, rfl⟩
    · exact List.mem_append_right _ (List.mem_map_of_mem hsource)
    · intro last hl
      obtain rfl := Option.some.inj (hlast.symm.trans hl)
      show time + seconds ≤ s.clock
      omega
    · simp [LoopState.request, Downloads.getDescriptionUrlDataFree,
        ControlPoint.getDescriptionUrlDataFree, hold]

end

/-! ## Runs -/

theorem removeProxy_frame (resource : Resource) (s : ControlPointState) :
    (removeProxy resource s).pendingGets = s.pendingGets ∧
      (removeProxy resource s).nextId = s.nextId := by
  obtain ⟨udn, _ | serviceType⟩ := resource <;> unfold removeProxy <;> simp only <;> split <;>
    exact ⟨rfl, rfl⟩

theorem good_cancelGet (hg : Good s) (resource : Resource) :
    Good { s with point := cancelGet resource s.point } := by
  unfold cancelGet
  split
  · exact hg
  · refine hg.congr _ (fun d => ?_) rfl rfl rfl rfl (Nat.le_refl _) rfl
    split <;> exact ⟨rfl, rfl, rfl, rfl⟩

theorem good_resourceUnavailable (hg : Good s) (usn : Str) :
    Good { s with point := resourceUnavailable usn s.point } := by
  unfold resourceUnavailable
  split
  · exact hg
  · rename_i resource _
    exact good_cancelGet (hg.withPoint (removeProxy_frame resource s.point).1
      (removeProxy_frame resource s.point).2) resource

theorem good_step (hg : Good s) (h : loopStep ctx s e = some t) : Good t := by
  cases e with
  | tick =>
    obtain rfl := Option.some.inj h
    exact hg.congr id (fun _ => ⟨rfl, rfl, rfl, rfl⟩) (by simp) rfl rfl rfl (Nat.le_refl _) rfl
  | point e =>
    cases e with
    | resourceAvailable usn locations => exact good_resourceAvailable hg h
    | resourceUnavailable usn =>
      obtain rfl := Option.some.inj h
      exact good_resourceUnavailable hg usn
    | gotDescriptionUrl id outcome =>
      simp only [loopStep, Option.bind_eq_bind, Option.bind_eq_some_iff,
        Option.ite_none_right_eq_some] at h
      obtain ⟨get, hget, data, hdata, -, h⟩ := h
      obtain rfl : get.data = id := by simpa using List.find?_some hget
      exact good_gotDescriptionUrl hg (List.mem_of_find?_eq_some hget)
        (List.mem_of_find?_eq_some hdata) (by simpa using List.find?_some hdata) h
    | retryTimeout id =>
      simp only [loopStep, Option.bind_eq_bind, Option.bind_eq_some_iff,
        Option.ite_none_right_eq_some] at h
      obtain ⟨source, hsource, data, hdata, hdue, h⟩ := h
      obtain rfl : source.data = id := by simpa using List.find?_some hsource
      exact good_descriptionUrlRetryTimeout hg (List.mem_of_find?_eq_some hsource)
        (List.mem_of_find?_eq_some hdata) (by simpa using List.find?_some hdata) hdue h
    | docFinalized url =>
      simp only [loopStep, Option.ite_none_right_eq_some] at h
      obtain rfl := Option.some.inj h.2
      exact hg.withPoint rfl rfl

theorem good_run (h : Run (loopStep ctx) AnyStep .init es s) : Good s :=
  h.inv Good (fun _ _ _ hg _ hstep => good_step hg hstep) good_init

/-! ## The control point alone -/

@[simp] theorem descriptionLoaded_point (udn : Str) (serviceType : Option Str) (url : Str)
    (doc : Xml.Node) (s : LoopState) :
    (descriptionLoaded udn serviceType url doc s).map LoopState.point =
      ControlPoint.descriptionLoaded udn serviceType url doc s.point := by
  unfold descriptionLoaded
  rw [Option.map_map]
  exact Option.map_id'

@[simp] theorem loadDescription_point (event : Nat) (url udn : Str) (serviceType : Option Str)
    (maxTries : Int) (timeout : Nat) (s : LoopState) :
    (loadDescription ctx event url udn serviceType maxTries timeout s).map LoopState.point =
      ControlPoint.loadDescription ctx url udn serviceType maxTries timeout s.point := by
  unfold loadDescription ControlPoint.loadDescription
  cases s.point.docCache.lookup url with
  | some doc => exact descriptionLoaded_point ..
  | none =>
    cases ctx.rewriteUri url with
    | none => rfl
    | some localDescription => cases h : ctx.messageNew localDescription <;> simp [h]

@[simp] theorem retryLater_point (event : Nat) (data : GetDescriptionUrlData) (s : LoopState) :
    (retryLater event data s).point = ControlPoint.retryLater data s.point := by
  unfold retryLater ControlPoint.retryLater
  by_cases h : 0 < data.tries - 1
  · simp only [if_pos h]
  · simp only [if_neg h]
    rfl

@[simp] theorem gotDocument_point (event : Nat) (data : GetDescriptionUrlData)
    (response : Option (Nat × Str)) (s : LoopState) :
    (gotDocument ctx event data response s).map LoopState.point =
      ControlPoint.gotDocument ctx data response s.point := by
  unfold gotDocument ControlPoint.gotDocument
  cases s.point.docCache.lookup data.descriptionUrl with
  | some doc =>
    dsimp only
    rw [← descriptionLoaded_point, Option.map_map, Option.map_map]
    rfl
  | none =>
    cases response with
    | none => simp
    | some response =>
      cases h : isSuccessful response.1 with
      | false => simp [h]
      | true =>
        cases hdoc : ctx.xmlReadMemory response.2 <;>
          simp [h, hdoc, getDescriptionUrlDataFree, Function.comp_def]

@[simp] theorem gotDescriptionUrl_point (event : Nat) (data : GetDescriptionUrlData)
    (outcome : Outcome) (s : LoopState) :
    (gotDescriptionUrl ctx event data outcome s).map LoopState.point =
      ControlPoint.gotDescriptionUrl ctx data outcome s.point := by
  cases outcome with
  | cancelled => rfl
  | failed => rfl
  | timedOut => exact @gotDocument_point ctx event data none s
  | response status body => exact @gotDocument_point ctx event data (some (status, body)) s

@[simp] theorem descriptionUrlRetryTimeout_point (event : Nat) (data : GetDescriptionUrlData)
    (s : LoopState) : (descriptionUrlRetryTimeout ctx event data s).map LoopState.point =
      ControlPoint.descriptionUrlRetryTimeout ctx data s.point := by
  unfold descriptionUrlRetryTimeout ControlPoint.descriptionUrlRetryTimeout
  rw [← loadDescription_point event, Option.map_map, Option.map_map]
  rfl

/-- What the control point sees of an event. -/
def LoopEvent.seen : LoopEvent → List Event
  | .point e => [e]
  | .tick => []

theorem point_step (hg : Good s) (h : loopStep ctx s e = some t) :
    Run (step ctx) AnyStep s.point e.seen t.point := by
  cases e with
  | tick =>
    obtain rfl := Option.some.inj h
    exact .nil
  | point e =>
    refine .single trivial ?_
    cases e with
    | resourceAvailable usn locations =>
      refine (?_ : _ = (some t).map LoopState.point)
      rw [← show resourceAvailable ctx usn locations s = some t from h]
      show ControlPoint.resourceAvailable ctx usn locations s.point = _
      unfold resourceAvailable ControlPoint.resourceAvailable
      match locations with
      | [] => rfl
      | location :: _ =>
        dsimp only
        cases parseUsn usn with
        | none => rfl
        | some resource =>
          obtain ⟨udn, serviceType⟩ := resource
          dsimp only
          rw [loadDescription_point]
    | resourceUnavailable usn =>
      obtain rfl := Option.some.inj h
      rfl
    | gotDescriptionUrl id outcome =>
      simp only [loopStep, Option.bind_eq_bind, Option.bind_eq_some_iff,
        Option.ite_none_right_eq_some] at h
      obtain ⟨get, hget, data, hdata, hcancelled, h⟩ := h
      have hid : get.data = id := by simpa using List.find?_some hget
      have hphase := (hg.running get (List.mem_of_find?_eq_some hget) data
        (List.mem_of_find?_eq_some hdata) (by simpa [hid] using List.find?_some hdata)).phase
      have hpoint := congrArg (Option.map LoopState.point) h
      rw [gotDescriptionUrl_point] at hpoint
      simp only [step, hdata, hphase, true_and, if_pos hcancelled]
      exact hpoint
    | retryTimeout id =>
      simp only [loopStep, Option.bind_eq_bind, Option.bind_eq_some_iff,
        Option.ite_none_right_eq_some] at h
      obtain ⟨source, hsource, data, hdata, -, h⟩ := h
      have hid : source.data = id := by simpa using List.find?_some hsource
      have hphase := (hg.waiting source (List.mem_of_find?_eq_some hsource) data
        (List.mem_of_find?_eq_some hdata) (by simpa [hid] using List.find?_some hdata)).phase
      have hpoint := congrArg (Option.map LoopState.point) h
      rw [descriptionUrlRetryTimeout_point] at hpoint
      simp only [step, hdata, hphase, if_true]
      exact hpoint
    | docFinalized url =>
      simp only [loopStep, Option.ite_none_right_eq_some] at h
      obtain rfl := Option.some.inj h.2
      simp [step, h.1]

/-- The control point in the main loop is a control point. -/
theorem point_run (h : Run (loopStep ctx) AnyStep .init es s) :
    Run (step ctx) AnyStep .init (es.flatMap LoopEvent.seen) s.point := by
  induction h with
  | nil => exact .nil
  | snoc h _ hstep ih =>
    rw [List.flatMap_append, List.flatMap_singleton]
    exact ih.trans (point_step (good_run h) hstep)

/-! ## What an event causes -/

def Attempt.isGet : Attempt → Bool
  | .get _ _ _ => true
  | .retryAfter _ _ _ => false

theorem countP_isGet (l : List Attempt) :
    l.countP Attempt.isGet = (l.map Attempt.planned).count .get := by
  rw [List.count_eq_countP, List.countP_map]
  refine congrArg (List.countP · l) (funext fun attempt => ?_)
  cases attempt <;> simp [Attempt.isGet, Attempt.planned]

/-- A timer leaves one more request to make. -/
theorem Good.countP_lt (hg : Good s) {source : RetrySource} (hsource : source ∈ s.sources) :
    (s.attempts source.event).countP Attempt.isGet < maxDescriptionDownloadRetries.toNat := by
  have hmem := hg.owned.mem_iff.2 (List.mem_append_right _ (List.mem_map_of_mem hsource))
  obtain ⟨data, hdata, hid⟩ := List.mem_map.1 hmem
  have hwait := hg.waiting source hsource data hdata hid
  have hpos : 0 < data.tries.toNat := by have := hwait.tries; omega
  have hcount := congrArg (List.count Planned.get) hwait.rest
  rw [plan_cons hpos, List.count_append, List.count_cons_self, ← countP_isGet] at hcount
  have hfull : fullPlan.count .get = maxDescriptionDownloadRetries.toNat := by decide
  omega

/-- Whatever ends the downloads and however timers are late: an event causes at most as many requests
as there are tries, with delays between them that double; the entries are those with a request or a
timer, each once; and the last request leaves none. -/
theorem downloads_bounded (h : Run (loopStep ctx) AnyStep .init es s) :
    (∀ event, (s.attempts event).countP Attempt.isGet ≤ maxDescriptionDownloadRetries.toNat ∧
      (s.attempts event).map Attempt.planned <+: fullPlan ∧ (s.attempts event).IsChain Waits) ∧
    s.ids.Nodup ∧ s.ids.Perm s.owned ∧
    (∀ id ∈ s.ids, ∃ event time, .get event id time ∈ s.history) ∧
    ∀ event, ((s.attempts event).countP Attempt.isGet = maxDescriptionDownloadRetries.toNat →
        (∀ get ∈ s.session, get.event ≠ event) → s.Over event) ∧
      (s.Over event → ∀ id ∈ s.ids, ∀ time, .get event id time ∉ s.history) := by
  have hg := good_run h
  refine ⟨fun event => ⟨?_, hg.planned event⟩, hg.nodup, hg.owned, hg.origin, fun event => ⟨?_, ?_⟩⟩
  · have hcount := (hg.planned event).1.sublist.count_le Planned.get
    have hfull : fullPlan.count .get = maxDescriptionDownloadRetries.toNat := by decide
    rw [countP_isGet]
    omega
  · intro hall hnone
    refine ⟨hnone, fun source hsource he => ?_⟩
    have := hg.countP_lt hsource
    rw [he] at this
    omega
  · intro hover id hid time hmem
    obtain ⟨-, hget, hsource⟩ := hg.caused event id time hmem
    rcases List.mem_append.1 (hg.owned.mem_iff.1 hid) with h | h
    · obtain ⟨get, hin, he⟩ := List.mem_map.1 h
      exact hover.1 get hin (hget get hin he)
    · obtain ⟨source, hin, he⟩ := List.mem_map.1 h
      exact hover.2 source hin (hsource source hin he)

/-- A timeout, a failure later. -/
def sampleEvents : List LoopEvent :=
  [.point (.resourceAvailable "uuid:1".toList ["http://10.0.0.2/1.xml".toList]),
    .point (.gotDescriptionUrl 0 .timedOut), .tick, .tick, .tick, .tick, .tick, .tick,
    .point (.retryTimeout 0), .point (.gotDescriptionUrl 1 (.response 503 []))]

theorem downloads_bounded_sample :
    ∃ s, Run (loopStep sampleContext) AnyStep .init sampleEvents s ∧
      s.history = [.get 0 0 0, .retryAfter 0 5 0, .get 0 1 6, .retryAfter 0 10 6] ∧
      s.sources = [⟨1, 0, 16⟩] ∧ s.ids.Perm s.owned ∧
      (s.attempts 0).countP Attempt.isGet ≤ maxDescriptionDownloadRetries.toNat := by
  obtain ⟨s, h, hs⟩ : ∃ s, Run (loopStep sampleContext) AnyStep .init sampleEvents s ∧
      (s.history, s.sources) =
        ([.get 0 0 0, .retryAfter 0 5 0, .get 0 1 6, .retryAfter 0 10 6], [⟨1, 0, 16⟩]) :=
    Run.exists_of_foldlM (by decide)
  obtain ⟨hhistory, hsources⟩ := Prod.mk.inj hs
  have hbounded := downloads_bounded h
  exact ⟨s, h, hhistory, hsources, hbounded.2.2.1, (hbounded.1 0).1⟩

end GUPnP.ControlPoint.Downloads
