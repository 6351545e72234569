import GUPnP.Base.Run
import GUPnP.HostPath.Model

/-!
# The list of hosted paths and the handlers of the server

`Hosted` is what an application may rely on: the hostings it made and did not take back, of which the
last one for a path is served. The context keeps this in two places, and they agree while no path is
hosted that is served already (`hosting_iff`): a second entry for a path takes over the handler, but
`gupnp_context_host_path_for_agent` and `gupnp_context_unhost_path` go by the first one.
-/

set_option autoImplicit false

namespace GUPnP.HostPath

/-! ## What is hosted -/

structure Hosting where
  path : Str
  localPath : Str
  userAgents : List UserAgent
  deriving DecidableEq, Repr

/-- The hostings that were not taken back, the oldest first. -/
abbrev Hosted := List Hosting

namespace Hosted

/-- The last hosting of a path is served. -/
def serves (h : Hosted) (path : Str) : Option Hosting := (h.filter fun x => x.path = path).getLast?

/-- The last hosting of a path, changed. -/
def updateLast (path : Str) (f : Hosting → Hosting) : Hosted → Hosted
  | [] => []
  | x :: h =>
    if x.path = path ∧ ∀ y ∈ h, y.path ≠ path then f x :: h else x :: updateLast path f h

/-- A path that is served gets another local path for some agents. -/
def addAgent (localPath path regex : Str) (h : Hosted) : Bool × Hosted :=
  ((h.serves path).isSome,
    updateLast path (fun x => { x with userAgents := x.userAgents ++ [⟨localPath, regex⟩] }) h)

/-- One hosting of a path is taken back. -/
def unhost (path : Str) (h : Hosted) : Hosted := h.eraseP fun x => x.path = path

/-- What an event does to it. -/
def step (h : Hosted) : Event → Hosted
  | .hostPath localPath path => h ++ [⟨path, localPath, []⟩]
  | .hostPathForAgent localPath path regex => (h.addAgent localPath path regex).2
  | .unhostPath path => h.unhost path
  | .setDefaultLanguage _ => h

end Hosted

/-- A context, and what is hosted with it. -/
structure Hosts where
  context : ContextState
  hosted : Hosted

def Hosts.init (language : Str) : Hosts := ⟨.init language, []⟩

def hostStep (w : Hosts) (e : Event) : Option Hosts := some ⟨step w.context e, w.hosted.step e⟩

def HostPathData.hosting (data : HostPathData) : Hosting :=
  ⟨data.serverPath, data.localPath, data.userAgents⟩

/-- The hosting with which a request to this path is handled. -/
def ContextState.requests (s : ContextState) (path : Str) : Option Hosting :=
  (s.handler path).map HostPathData.hosting

/-- What the context promises. -/
structure Kept (w : Hosts) : Prop where
  requests : ∀ path, w.context.requests path = w.hosted.serves path
  agent : ∀ localPath path regex,
    (hostPathForAgent localPath path regex w.context).1 = (w.context.handler path).isSome ∧
    ∀ path', (hostPathForAgent localPath path regex w.context).2.requests path' =
      (w.hosted.addAgent localPath path regex).2.serves path'
  unhost : ∀ path path', (unhostPath path w.context).requests path' =
    (w.hosted.unhost path).serves path'
  language : ∀ data ∈ w.context.hostPathDatas, data.defaultLanguage = w.context.defaultLanguage

/-- A path is hosted only while it is not served. -/
def HostsOnce (w : Hosts) : Event → Prop
  | .hostPath _ path => w.context.handler path = none
  | _ => True

/-! ## Contexts in which every path is hosted once -/

variable {s : ContextState} {w : Hosts} {path : Str} {data : HostPathData} {h : Hosted}

structure Good (w : Hosts) : Prop where
  hosted : w.hosted = w.context.hostPathDatas.map HostPathData.hosting
  ids : (w.context.hostPathDatas.map HostPathData.id).Nodup
  fresh : ∀ data ∈ w.context.hostPathDatas, data.id < w.context.nextId
  once : (w.context.hostPathDatas.map HostPathData.serverPath).Nodup
  handlers : ∀ path, w.context.handlers.lookup path =
    (w.context.findPath path).map HostPathData.id
  language : ∀ data ∈ w.context.hostPathDatas, data.defaultLanguage = w.context.defaultLanguage

/-- In a list with different keys the entry is found by its key. -/
theorem find?_key {κ : Type} [DecidableEq κ] (key : HostPathData → κ) {l : List HostPathData}
    (hl : (l.map key).Nodup) (hd : data ∈ l) :
    (l.find? fun x => key x = key data) = some data := by
  induction l with
  | nil => cases hd
  | cons x l ih =>
    simp only [List.map_cons, List.nodup_cons] at hl
    rcases List.mem_cons.1 hd with rfl | hd
    · simp
    · have hne : key x ≠ key data := fun he => hl.1 (he ▸ List.mem_map_of_mem hd)
      simp only [List.find?_cons, hne, decide_false]
      exact ih hl.2 hd

/-- The request is handled with the entry of the list. -/
theorem Good.handler (hg : Good w) (path : Str) :
    w.context.handler path = w.context.findPath path := by
  unfold ContextState.handler
  rw [hg.handlers]
  cases hf : w.context.findPath path with
  | none => rfl
  | some data => exact find?_key HostPathData.id hg.ids (List.mem_of_find?_eq_some hf)

/-- One hosting of a path is the last one. -/
theorem serves_of_nodup (hn : (h.map Hosting.path).Nodup) (path : Str) :
    h.serves path = h.find? fun x => x.path = path := by
  unfold Hosted.serves
  induction h with
  | nil => rfl
  | cons x h ih =>
    simp only [List.map_cons, List.nodup_cons] at hn
    by_cases hx : x.path = path
    · have hnone : h.filter (fun y => y.path = path) = [] := by
        rw [List.filter_eq_nil_iff]
        intro y hy hp
        exact hn.1 (List.mem_map.2 ⟨y, hy, (of_decide_eq_true hp).trans hx.symm⟩)
      simp [hx, hnone]
    · simp [hx, ih hn.2]

theorem updateLast_of_nodup (f : Hosting → Hosting) (hn : (h.map Hosting.path).Nodup)
    (path : Str) : h.updateLast path f = h.map fun x => if x.path = path then f x else x := by
  induction h with
  | nil => rfl
  | cons x h ih =>
    simp only [List.map_cons, List.nodup_cons] at hn
    unfold Hosted.updateLast
    by_cases hx : x.path = path
    · have hall : ∀ y ∈ h, y.path ≠ path := fun y hy he =>
        hn.1 (List.mem_map.2 ⟨y, hy, he.trans hx.symm⟩)
      have hsame : (h.map fun y => if y.path = path then f y else y) = h :=
        (List.map_congr_left fun y hy => if_neg (hall y hy)).trans (List.map_id' h)
      rw [if_pos ⟨hx, hall⟩, List.map_cons, if_pos hx, hsame]
    · simp [hx, ih hn.2]

theorem Good.paths (hg : Good w) : (w.hosted.map Hosting.path).Nodup := by
  rw [hg.hosted, List.map_map]
  exact hg.once

theorem Good.serves (hg : Good w) (path : Str) :
    w.hosted.serves path = (w.context.findPath path).map HostPathData.hosting := by
  rw [serves_of_nodup hg.paths, hg.hosted, List.find?_map]
  rfl

theorem Good.requests (hg : Good w) (path : Str) :
    w.context.requests path = w.hosted.serves path := by
  rw [hg.serves, ContextState.requests, hg.handler]

/-! ## Steps -/

theorem good_init (language : Str) : Good (.init language) where
  hosted := rfl
  ids := List.nodup_nil
  fresh _ hd := by cases hd
  once := List.nodup_nil
  handlers _ := AList.lookup_empty _
  language _ hd := by cases hd

theorem good_hostPath (hg : Good w) (localPath : Str) (hnone : w.context.handler path = none) :
    Good ⟨hostPath localPath path w.context, w.hosted ++ [⟨path, localPath, []⟩]⟩ := by
  rw [hg.handler] at hnone
  have hnew : ∀ data ∈ w.context.hostPathDatas, data.serverPath ≠ path := fun data hd hp =>
    absurd (decide_eq_true hp) (List.find?_eq_none.1 hnone data hd)
  refine ⟨?_, ?_, ?_, ?_, fun path' => ?_, ?_⟩
  · simp [hostPath, hg.hosted, HostPathData.hosting]
  · have hid : w.context.nextId ∉ w.context.hostPathDatas.map HostPathData.id := by
      intro hmem
      obtain ⟨data, hd, hid⟩ := List.mem_map.1 hmem
      exact Nat.lt_irrefl _ (hid ▸ hg.fresh data hd)
    simpa [hostPath, List.nodup_append] using ⟨hg.ids, fun data hd he => hid (by
      rw [← he]; exact List.mem_map_of_mem hd)⟩
  · simp only [hostPath, List.mem_append, List.mem_singleton]
    rintro data (hd | rfl)
    · exact Nat.lt_succ_of_lt (hg.fresh data hd)
    · exact Nat.lt_succ_self _
  · simpa [hostPath, List.nodup_append] using ⟨hg.once, hnew⟩
  · simp only [hostPath, ContextState.findPath, List.find?_append]
    by_cases hp : path' = path
    · subst hp
      have hfind : (w.context.hostPathDatas.find? fun d => d.serverPath = path') = none := hnone
      simp [hfind]
    · have hlookup := hg.handlers path'
      rw [ContextState.findPath] at hlookup
      rw [AList.lookup_insert_ne hp, hlookup]
      simp [Ne.symm hp]
  · simp only [hostPath, List.mem_append, List.mem_singleton]
    rintro data (hd | rfl)
    · exact hg.language data hd
    · rfl

/-- A change of the entries that leaves their numbers and paths. -/
theorem Good.map (hg : Good w) (f : HostPathData → HostPathData) {language : Str} {h : Hosted}
    (hid : ∀ data, (f data).id = data.id) (hpath : ∀ data, (f data).serverPath = data.serverPath)
    (hlanguage : ∀ data ∈ w.context.hostPathDatas, (f data).defaultLanguage = language)
    (hh : h = w.context.hostPathDatas.map fun data => (f data).hosting) :
    Good ⟨{ w.context with hostPathDatas := w.context.hostPathDatas.map f,
                           defaultLanguage := language }, h⟩ := by
  refine ⟨?_, ?_, ?_, ?_, fun path' => ?_, ?_⟩
  · rw [hh, List.map_map]
    rfl
  · have hids : HostPathData.id ∘ f = HostPathData.id := funext hid
    rw [List.map_map, hids]
    exact hg.ids
  · simp only [List.mem_map]
    rintro _ ⟨data, hd, rfl⟩
    rw [hid]
    exact hg.fresh data hd
  · have hpaths : HostPathData.serverPath ∘ f = HostPathData.serverPath := funext hpath
    rw [List.map_map, hpaths]
    exact hg.once
  · rw [hg.handlers]
    simp only [ContextState.findPath, List.find?_map, Function.comp_def, hpath, Option.map_map, hid]
  · simp only [List.mem_map]
    rintro _ ⟨data, hd, rfl⟩
    exact hlanguage data hd

theorem good_setDefaultLanguage (hg : Good w) (language : Str) :
    Good ⟨setDefaultLanguage language w.context, w.hosted⟩ := by
  unfold setDefaultLanguage
  split
  · exact hg
  · refine hg.map _ (fun data => ?_) (fun data => ?_) (fun data _ => ?_) ?_
    · unfold hostPathDataSetLanguage
      split <;> rfl
    · unfold hostPathDataSetLanguage
      split <;> rfl
    · unfold hostPathDataSetLanguage
      split
      · exact (‹language = data.defaultLanguage›).symm
      · rfl
    · rw [hg.hosted]
      refine List.map_congr_left fun data _ => ?_
      unfold hostPathDataSetLanguage
      split <;> rfl

theorem mem_of_findPath (hf : s.findPath path = some data) :
    data ∈ s.hostPathDatas ∧ data.serverPath = path :=
  ⟨List.mem_of_find?_eq_some hf, by simpa using List.find?_some (show _ = some data from hf)⟩

theorem ne_of_findPath (hf : s.findPath path = none) (hd : data ∈ s.hostPathDatas) :
    data.serverPath ≠ path := by
  simpa using List.find?_eq_none.1 hf data hd

/-- The hostings with one for a path changed. -/
theorem Good.map_hosting (hg : Good w) (f : Hosting → Hosting) (path : Str) :
    (w.hosted.updateLast path f) = w.context.hostPathDatas.map fun data =>
      if data.serverPath = path then f data.hosting else data.hosting := by
  rw [updateLast_of_nodup f hg.paths, hg.hosted, List.map_map]
  rfl

theorem good_hostPathForAgent (hg : Good w) (localPath path regex : Str) :
    Good ⟨(hostPathForAgent localPath path regex w.context).2,
      (w.hosted.addAgent localPath path regex).2⟩ := by
  unfold Hosted.addAgent hostPathForAgent
  dsimp only
  rw [hg.map_hosting]
  cases hf : w.context.findPath path with
  | none =>
    refine ⟨List.map_congr_left fun data hd => ?_, hg.ids, hg.fresh, hg.once, hg.handlers,
      hg.language⟩
    rw [if_neg (ne_of_findPath hf hd)]
  | some pathData =>
    obtain ⟨hmem, hpath⟩ := mem_of_findPath hf
    refine hg.map _ (fun data => ?_) (fun data => ?_) (fun data hd => ?_) ?_
    · split <;> rfl
    · split <;> rfl
    · split <;> exact hg.language data hd
    · -- The entry found by its path is the one with its number.
      refine List.map_congr_left fun data hd => ?_
      by_cases hid : data.id = pathData.id
      · obtain rfl := List.inj_on_of_nodup_map hg.ids hd hmem hid
        simp [HostPathData.hosting, hpath]
      · have hne : data.serverPath ≠ path := fun hp => hid
          (congrArg HostPathData.id (List.inj_on_of_nodup_map hg.once hd hmem (hp.trans hpath.symm)))
        simp [HostPathData.hosting, hid, hne]

/-- The entry that is taken out was the only one with its path. -/
theorem find?_eraseP {l : List HostPathData} (hn : (l.map HostPathData.serverPath).Nodup)
    (path path' : Str) :
    (l.eraseP fun data => data.serverPath = path).find? (fun data => data.serverPath = path') =
      if path' = path then none else l.find? fun data => data.serverPath = path' := by
  induction l with
  | nil => simp
  | cons x l ih =>
    simp only [List.map_cons, List.nodup_cons, List.mem_map, not_exists, not_and] at hn
    by_cases hx : x.serverPath = path
    · by_cases hp : path' = path
      · subst hp
        simpa [hx] using fun data hd he => hn.1 data hd (he.trans hx.symm)
      · simp [hx, hp, Ne.symm hp]
    · by_cases hx' : x.serverPath = path'
      · have hp : path' ≠ path := fun hp => hx (hx'.trans hp)
        simp [hx', hp]
      · simp [hx, hx', ih hn.2]

theorem good_unhostPath (hg : Good w) (path : Str) :
    Good ⟨unhostPath path w.context, w.hosted.unhost path⟩ := by
  have hhosted : w.hosted.unhost path =
      (w.context.hostPathDatas.eraseP fun data => data.serverPath = path).map
        HostPathData.hosting := by
    rw [Hosted.unhost, hg.hosted, List.eraseP_map]
    rfl
  rw [hhosted]
  unfold unhostPath
  cases hf : w.context.findPath path with
  | none =>
    have hsame : (w.context.hostPathDatas.eraseP fun data => data.serverPath = path) =
        w.context.hostPathDatas := List.eraseP_of_forall_not (List.find?_eq_none.1 hf)
    rw [hsame, ← hg.hosted]
    exact hg
  | some data =>
    have hsub := List.eraseP_sublist (p := fun data : HostPathData => decide (data.serverPath = path))
      (l := w.context.hostPathDatas)
    refine ⟨rfl, hg.ids.sublist (hsub.map _), fun d hd => hg.fresh d (hsub.subset hd),
      hg.once.sublist (hsub.map _), fun path' => ?_, fun d hd => hg.language d (hsub.subset hd)⟩
    have hfind := find?_eraseP hg.once path path'
    by_cases hp : path' = path
    · subst hp
      simp only [ContextState.findPath, hfind, ↓reduceIte, AList.lookup_erase, Option.map_none]
    · have hlookup := hg.handlers path'
      rw [ContextState.findPath] at hlookup
      simp only [ContextState.findPath, hfind, hp, ↓reduceIte, AList.lookup_erase_ne hp, hlookup]

/-! ## The promise -/

/-- A step from such a context that hosts no served path again leads to such a context. -/
theorem good_step {e : Event} (hg : Good w) (hok : HostsOnce w e) :
    Good ⟨step w.context e, w.hosted.step e⟩ := by
  cases e with
  | hostPath localPath path => exact good_hostPath hg localPath hok
  | hostPathForAgent localPath path regex => exact good_hostPathForAgent hg localPath path regex
  | unhostPath path => exact good_unhostPath hg path
  | setDefaultLanguage language => exact good_setDefaultLanguage hg language

theorem Good.kept (hg : Good w) : Kept w := by
  refine ⟨hg.requests, fun localPath path regex => ⟨?_, fun path' => ?_⟩, fun path path' => ?_,
    hg.language⟩
  · rw [hg.handler, hostPathForAgent]
    cases w.context.findPath path <;> rfl
  · exact (good_hostPathForAgent hg localPath path regex).requests path'
  · exact (good_unhostPath hg path).requests path'

theorem updateLast_append (f : Hosting → Hosting) {x : Hosting} (hx : x.path = path) :
    Hosted.updateLast path f (h ++ [x]) = h ++ [f x] := by
  induction h with
  | nil => simp [Hosted.updateLast, hx]
  | cons y h ih =>
    have hlater : ¬ (y.path = path ∧ ∀ z ∈ h ++ [x], z.path ≠ path) := fun ha => ha.2 x (by simp) hx
    rw [List.cons_append, Hosted.updateLast, if_neg hlater, ih, List.cons_append]

theorem serves_append {x : Hosting} (hx : x.path = path) :
    Hosted.serves (h ++ [x]) path = some x := by
  simp [Hosted.serves, hx]

/-- After a served path is hosted again, a local path for an agent goes to the old entry. -/
theorem not_kept_hostPath (hg : Good w) {localPath : Str} (hsome : w.context.handler path ≠ none) :
    ¬ Kept ⟨hostPath localPath path w.context, w.hosted ++ [⟨path, localPath, []⟩]⟩ := by
  intro hk
  rw [hg.handler] at hsome
  obtain ⟨old, hold⟩ := Option.ne_none_iff_exists'.1 hsome
  have hlt := hg.fresh old (mem_of_findPath hold).1
  have hserved := (hk.agent [] path []).2 path
  have hfirst : (hostPath localPath path w.context).findPath path = some old := by
    simp only [hostPath, ContextState.findPath, List.find?_append]
    rw [show w.context.hostPathDatas.find? _ = some old from hold]
    rfl
  have hnew : (hostPathForAgent [] path [] (hostPath localPath path w.context)).2.requests path =
      some ⟨path, localPath, []⟩ := by
    have hnone : ∀ data ∈ w.context.hostPathDatas, data.id ≠ w.context.nextId :=
      fun data hd => Nat.ne_of_lt (hg.fresh data hd)
    unfold hostPathForAgent
    rw [hfirst]
    simp only [hostPath, ContextState.requests, ContextState.handler, AList.lookup_insert,
      Option.bind_some, List.map_append, List.map_cons, List.map_nil, List.find?_append]
    rw [List.find?_eq_none.2]
    · simp [Nat.ne_of_gt hlt, HostPathData.hosting]
    · simp only [List.mem_map, decide_eq_true_eq]
      rintro _ ⟨data, hd, rfl⟩
      split <;> exact hnone data hd
  rw [hnew] at hserved
  dsimp only [Hosted.addAgent] at hserved
  have hlast : (⟨path, localPath, []⟩ : Hosting).path = path := rfl
  rw [updateLast_append _ hlast, serves_append rfl] at hserved
  cases hserved

/-! ## Runs -/

variable {es : List Event} {language : Str}

/-- In a run the list of hosted paths and the handlers of the server always agree exactly if no path is
hosted that is served already. -/
theorem hosting_iff (h : Run hostStep AnyStep (.init language) es w) :
    Always hostStep Kept (.init language) es ↔ Run hostStep HostsOnce (.init language) es w := by
  refine h.always_iff_of_inv (fun s e t hg hok hstep => ?_) (fun s hg => hg.kept)
    (fun s e t hg hok hstep => ?_) (good_init language)
  · obtain rfl := Option.some.inj hstep
    exact good_step hg hok
  · obtain rfl := Option.some.inj hstep
    cases e with
    | hostPath localPath path => exact not_kept_hostPath hg hok
    | hostPathForAgent localPath path regex => exact absurd trivial hok
    | unhostPath path => exact absurd trivial hok
    | setDefaultLanguage language => exact absurd trivial hok

/-- Two root devices on one context host the folder of their description at the empty path. -/
def twoDevices : List Event :=
  [.hostPath "dir1".toList [], .hostPath "dir2".toList [], .unhostPath []]

/-- A description document is hosted, with its folder, and taken back. -/
def sampleEvents : List Event :=
  [.hostPath "dev.xml".toList "/1.xml".toList, .hostPath "dir".toList [],
    .hostPathForAgent "xbox.xml".toList "/1.xml".toList "Xbox".toList,
    .setDefaultLanguage "de".toList, .unhostPath "/1.xml".toList]

theorem hosting_iff_sample : ∃ w, Run hostStep AnyStep (.init "en".toList) sampleEvents w ∧
    (Always hostStep Kept (.init "en".toList) sampleEvents ↔
      Run hostStep HostsOnce (.init "en".toList) sampleEvents w) := by
  have hlast : (sampleEvents.foldlM hostStep (.init "en".toList)).map
      (fun w => w.context.requests []) = some (some ⟨[], "dir".toList, []⟩) := by decide
  obtain ⟨w, hrun, -⟩ := Run.exists_of_foldlM hlast
  exact ⟨w, hrun, hosting_iff hrun⟩

/-- When one of them is taken back, none is served, though an agent can still be given a local path. -/
theorem hosting_lost : ∃ w, Run hostStep AnyStep (.init "en".toList) twoDevices w ∧
    w.context.requests [] = none ∧ w.hosted.serves [] = some ⟨[], "dir2".toList, []⟩ ∧
    (hostPathForAgent "xbox".toList [] "Xbox".toList w.context).1 = true ∧
    ¬ Always hostStep Kept (.init "en".toList) twoDevices := by
  have hlast : (twoDevices.foldlM hostStep (.init "en".toList)).map
      (fun w => (w.context.requests [], w.hosted.serves [],
        (hostPathForAgent "xbox".toList [] "Xbox".toList w.context).1)) =
      some (none, some ⟨[], "dir2".toList, []⟩, true) := by decide
  obtain ⟨w, hrun, hend⟩ := Run.exists_of_foldlM hlast
  simp only [Prod.mk.injEq] at hend
  obtain ⟨hrequests, hserves, hagent⟩ := hend
  refine ⟨w, hrun, hrequests, hserves, hagent, fun halways => ?_⟩
  have hkept := (halways _ w (List.prefix_refl _) hrun).requests []
  rw [hrequests, hserves] at hkept
  cases hkept
end GUPnP.HostPath
