import GUPnP.ControlPoint.Proof.Attempts
import GUPnP.ControlPoint.Proof.Proxies
import GUPnP.ControlPoint.Proof.Vanished
import GUPnP.Discovery.Resolve
import GUPnP.HostPath.Serving
import GUPnP.RootDevice.Hosted

/-!
# A root device and a control point on a network

A root device hosts its description document and announces what it registered; a control point
downloads the document for each resource it hears of, again after a while if nothing comes back. The
network brings the announcements and the downloads in any order, while the application hosts what it
likes and other devices come and go. Every resource that is announced and not taken back has a proxy, or
a download of the document is still on its way (`announced_arrives`).

The invariant of the control point is that what its cache has for the location of the document is a
document that describes the resources of the device (`Sound`); a step keeps it, and keeps what is there
or coming (`Keeps`).
-/

set_option autoImplicit false

namespace GUPnP.Discovery

open ControlPoint RootDevice Xml
open HostPath (FileSystem Server Request Response hostPathHandler)

/-! ## The network -/

/-- The context of a root device, a control point, and the resources of the device that were announced
to the control point and not taken back since. -/
structure World where
  context : HostPath.ContextState
  point : ControlPointState
  present : List Resource

inductive NetworkEvent where
  /-- The application changes what it hosts. -/
  | hosting (e : HostPath.Event)
  /-- One of the resources of the device is announced. -/
  | announce (r : Registration)
  /-- The server answers a request of the control point for the document, with these headers. -/
  | answer (id : Nat) (request : Request)
  /-- Anything else that happens to the control point. -/
  | point (e : ControlPoint.Event)

/-- The bytes of a body. -/
def bodyOf (response : Response) : Str := (response.body.filterMap id).flatten

/-- The answer of the server; where nothing is hosted there is none. -/
def serverAnswer (server : Server) (context : HostPath.ContextState) (request : Request) :
    Option Response :=
  match context.handler request.path with
  | none => some (Response.init.setStatus 404 "Not Found")
  | some data => hostPathHandler server 1 request data

section
variable (ctx : Context) (server : Server) (fs : FileSystem) (device : RootDeviceState)

/-- The request for the whole document. -/
def documentRequest (request : Request) : Request :=
  { request with method := .get, path := device.path, ranges := fun _ => none }

/-- How the resources that are there change with an event of the control point. -/
def stillPresent (present : List Resource) : ControlPoint.Event → List Resource
  | .resourceUnavailable usn => present.filter fun resource => parseUsn usn ≠ some resource
  | _ => present

def networkStep (w : World) : NetworkEvent → Option World
  | .hosting e => some { w with context := HostPath.step w.context e }
  | .announce r =>
    if r ∈ device.group then
      (ControlPoint.step ctx w.point (.resourceAvailable r.usn [device.location])).map fun point =>
        { w with point, present := (parseUsn r.usn).toList ++ w.present }
    else none
  | .answer id request =>
    if ∃ data ∈ w.point.pendingGets, data.id = id ∧ data.descriptionUrl = device.location then
      (serverAnswer (fs.on server) w.context (documentRequest device request)).bind fun response =>
        (ControlPoint.step ctx w.point
          (.gotDescriptionUrl id (.response response.status (bodyOf response)))).map fun point =>
            { w with point }
    else none
  | .point e =>
    (ControlPoint.step ctx w.point e).map fun point =>
      { w with point, present := stillPresent w.present e }

/-- The application leaves the document where it is. Of the requests for it that the server does not
answer, none is the last. -/
def Delivered (w : World) : NetworkEvent → Prop
  | .hosting e => LeavesAlone device.path e
  | .point (.gotDescriptionUrl id outcome) =>
    ∀ data ∈ w.point.pendingGets, data.id = id → data.descriptionUrl = device.location →
      data.cancelled = false → outcome = .timedOut ∧ 1 < data.tries
  | _ => True

end

/-! ## The documents -/

/-- The path, or the path for a language. -/
def IsVariant (base path : Str) : Prop := path = base ∨ ∃ locale, path = base ++ '.' :: locale

/-- The document describes these resources, no CDATA block is in the way of the control point, and each
USN is read as it was meant. -/
structure Describes (doc : Node) (group : List Registration) : Prop where
  registered : registerResources doc = some group
  walkable : ∀ root, getElement doc ["root".toList] = some root → Walkable root.children
  described : ∀ root element device, getElement doc ["root".toList] = some root →
    getElement root ["device".toList] = some element → InTree device element →
    Described device ∧ Separate device

/-- The file is there, and it and those for a language are documents that describe these resources. -/
structure Readable (xmlReadMemory : Str → Option Node) (fs : FileSystem) (base : Str)
    (group : List Registration) : Prop where
  there : (fs base).isMissing = false
  describes : ∀ path, IsVariant base path → (fs path).isMissing = false → ∃ file doc,
    fs path = .regular file ∧ xmlReadMemory file.bytes = some doc ∧ Describes doc group

/-- A USN of the group stands for the resource. -/
def Announced (group : List Registration) (resource : Resource) : Prop :=
  ∃ r ∈ group, parseUsn r.usn = some resource

section
variable {doc : Node} {group : List Registration} {resource : Resource} {r : Registration}
  {location : Str} {s t : ControlPointState}

theorem Describes.standsFor (h : Describes doc group) (hr : r ∈ group) :
    ∃ root element device resource, getElement doc ["root".toList] = some root ∧
      getElement root ["device".toList] = some element ∧ InTree device element ∧
      StandsFor device r.usn resource := by
  obtain ⟨root, hroot, hgroup⟩ := Option.bind_eq_some_iff.1 h.registered
  obtain ⟨element, helement, -⟩ := Option.bind_eq_some_iff.1 hgroup
  obtain ⟨hd, -⟩ := h.described root element element hroot helement .self
  obtain ⟨device, resource, hin, hstands⟩ :=
    standsFor_registerResources hroot helement hd h.registered hr
  exact ⟨root, element, device, resource, hroot, helement, hin, hstands⟩

/-- Each USN of the group is read as a resource. -/
theorem Describes.parseUsn (h : Describes doc group) (hr : r ∈ group) :
    ∃ resource, parseUsn r.usn = some resource := by
  obtain ⟨root, element, device, resource, hroot, helement, hin, hstands⟩ := h.standsFor hr
  obtain ⟨hd, hs⟩ := h.described root element device hroot helement hin
  exact ⟨resource, parseUsn_of_standsFor hd hs hstands⟩

/-- The control point does not fail on the document. -/
theorem Describes.loads (h : Describes doc group) (resource : Resource) (location : Str)
    (s : ControlPointState) :
    ∃ t, descriptionLoaded resource.1 resource.2 location doc s = some t := by
  obtain ⟨root, hroot, -⟩ := Option.bind_eq_some_iff.1 h.registered
  exact exists_descriptionLoaded hroot (h.walkable root hroot) s

/-- The control point finds the resource in the document. -/
theorem Describes.finds (h : Describes doc group) (ha : Announced group resource)
    (hloaded : descriptionLoaded resource.1 resource.2 location doc s = some t) :
    t.HasProxy resource := by
  obtain ⟨r, hr, hparse⟩ := ha
  obtain ⟨root, element, device, resource', hroot, helement, hin, hstands⟩ := h.standsFor hr
  obtain ⟨hd, hs⟩ := h.described root element device hroot helement hin
  obtain rfl := Option.some.inj ((parseUsn_of_standsFor hd hs hstands).symm.trans hparse)
  exact descriptionLoaded_of_inTree hroot helement hin hd hstands hloaded

theorem Readable.select {xmlReadMemory : Str → Option Node} {fs : FileSystem} {base : Str}
    (h : Readable xmlReadMemory fs base group) (locales : List Str) : ∃ path locale file doc,
      HostPath.select fs base locales = some (path, locale) ∧ fs path = .regular file ∧
      xmlReadMemory file.bytes = some doc ∧ Describes doc group := by
  have hsome : (HostPath.select fs base locales).isSome := by
    refine List.find?_isSome.2 ⟨(base, none), ?_, ?_⟩
    · exact List.mem_append_right _ (List.mem_singleton.2 rfl)
    · rw [h.there]
      rfl
  obtain ⟨⟨path, locale⟩, hselect⟩ := Option.isSome_iff_exists.1 hsome
  have hvariant : IsVariant base path := by
    rcases List.mem_append.1 (List.mem_of_find?_eq_some hselect) with hm | hm
    · obtain ⟨l, -, hl⟩ := List.mem_map.1 hm
      exact .inr ⟨l, (congrArg Prod.fst hl).symm⟩
    · exact .inl (congrArg Prod.fst (List.mem_singleton.1 hm))
  have hthere : (fs path).isMissing = false := by simpa using List.find?_some hselect
  obtain ⟨file, doc, hfile, hparse, hdoc⟩ := h.describes path hvariant hthere
  exact ⟨path, locale, file, doc, hselect, hfile, hparse, hdoc⟩

end

/-! ## The answer -/

section
variable {xmlReadMemory : Str → Option Node} {fs : FileSystem}
  {device : RootDeviceState} {context : HostPath.ContextState} {base : Str}

/-- The server answers with a document that describes the resources. -/
theorem serverAnswer_describes (server : Server) (hserved : ServedAt context device.path base)
    (hlast : device.path.getLast? = some 'l') (h : Readable xmlReadMemory fs base device.group)
    (request : Request) : ∃ response doc,
      serverAnswer (fs.on server) context (documentRequest device request) = some response ∧
      response.status = 200 ∧ xmlReadMemory (bodyOf response) = some doc ∧
      Describes doc device.group := by
  obtain ⟨data, hdata, hpath, hlocal, hagents⟩ := hserved
  have hrequest : (documentRequest device request).path = data.serverPath ++ [] := by
    rw [List.append_nil, hpath]
    rfl
  obtain ⟨response, hanswer, hlocalised⟩ := HostPath.handled fs server 0
    (documentRequest device request) (fun hm => by cases hm) hrequest rfl
    ⟨by decide, .inr ⟨'l', hpath.symm ▸ hlast, by decide⟩⟩
  have hbase : HostPath.localPathOf server (documentRequest device request) data [] = base := by
    unfold HostPath.localPathOf
    rw [show HostPath.withoutSlashes [] = [] from rfl, List.append_nil, ← hlocal]
    unfold HostPath.agentPath
    rw [hagents]
    split <;> rfl
  obtain ⟨path, locale, file, doc, hselect, hfile, hparse, hdoc⟩ :=
    h.select (HostPath.acceptLocales server (documentRequest device request))
  rw [hbase] at hlocalised
  unfold HostPath.Localised at hlocalised
  rw [hselect] at hlocalised
  dsimp only at hlocalised
  rw [hfile] at hlocalised
  obtain ⟨hstatus, hbody, -⟩ := hlocalised
  refine ⟨response, doc, ?_, hstatus, ?_, hdoc⟩
  · unfold serverAnswer
    rw [show context.handler (documentRequest device request).path = some data from hdata]
    exact hanswer
  · rw [bodyOf, hbody]
    simpa using hparse

end

/-! ## The control point -/

section
variable (location : Str) (group : List Registration)

/-- The entries are told apart by their numbers, and what the cache has for the location describes the
resources. -/
structure Sound (s : ControlPointState) : Prop where
  ids : (s.pendingGets.map (·.id)).Nodup
  fresh : ∀ data ∈ s.pendingGets, data.id < s.nextId
  cached : ∀ doc, s.docCache.lookup location = some doc → Describes doc group

/-- A download of the document for the resource is on its way. -/
def OnItsWay (resource : Resource) (s : ControlPointState) : Prop :=
  ∃ data ∈ s.pendingGets, data.resource = resource ∧ data.descriptionUrl = location ∧
    data.cancelled = false

/-- The resource has a proxy, or it comes. -/
def Coming (resource : Resource) (s : ControlPointState) : Prop :=
  s.HasProxy resource ∨ OnItsWay location resource s

/-- From `s` to `t` no resource of the device gets lost. -/
structure Keeps (s t : ControlPointState) : Prop where
  sound : Sound location group t
  coming : ∀ resource, Announced group resource → Coming location resource s →
    Coming location resource t

end

section
variable {ctx : Context} {location : Str} {group : List Registration} {s t u : ControlPointState}
  {data : GetDescriptionUrlData} {resource : Resource}

/-- An entry is known by its number. -/
theorem Sound.unique (h : Sound location group s) (hdata : data ∈ s.pendingGets)
    {d : GetDescriptionUrlData} (hd : d ∈ s.pendingGets) (hid : d.id = data.id) : d = data :=
  List.inj_on_of_nodup_map h.ids hd hdata hid

theorem Sound.keeps (h : Sound location group s) : Keeps location group s s := ⟨h, fun _ _ => id⟩

theorem Keeps.trans (h : Keeps location group s t) (h' : Keeps location group t u) :
    Keeps location group s u :=
  ⟨h'.sound, fun resource ha hc => h'.coming resource ha (h.coming resource ha hc)⟩

theorem keeps_descriptionLoaded (hs : Sound location group s) {udn url : Str}
    {serviceType : Option Str} {doc : Node}
    (h : descriptionLoaded udn serviceType url doc s = some t) : Keeps location group s t := by
  rcases descriptionLoaded_cases (udn, serviceType) h with rfl | ⟨element, -, rfl⟩
  · exact hs.keeps
  · have hcache : (addProxy (udn, serviceType) url element s).docCache = s.docCache := by
      cases serviceType <;> rfl
    have hnext : (addProxy (udn, serviceType) url element s).nextId = s.nextId := by
      cases serviceType <;> rfl
    refine ⟨⟨?_, ?_, ?_⟩, fun resource _ hc => ?_⟩
    · rw [addProxy_pendingGets]
      exact hs.ids
    · rw [addProxy_pendingGets, hnext]
      exact hs.fresh
    · rw [hcache]
      exact hs.cached
    · rcases hc with hp | hw
      · exact .inl ((hasProxy_addProxy_iff resource).2 (.inl hp))
      · refine .inr ?_
        unfold OnItsWay
        rw [addProxy_pendingGets]
        exact hw

theorem keeps_loadDescription (hs : Sound location group s) {url udn : Str}
    {serviceType : Option Str} {maxTries : Int} {timeout : Nat}
    (h : loadDescription ctx url udn serviceType maxTries timeout s = some t) :
    Keeps location group s t := by
  unfold loadDescription at h
  split at h
  · exact keeps_descriptionLoaded hs h
  split at h
  · exact Option.some.inj h ▸ hs.keeps
  split at h
  · obtain rfl := Option.some.inj h
    refine ⟨⟨?_, ?_, hs.cached⟩, fun resource _ hc => ?_⟩
    · refine List.nodup_cons.2 ⟨fun hm => ?_, hs.ids⟩
      obtain ⟨data, hdata, hid⟩ := List.mem_map.1 hm
      exact Nat.ne_of_lt (hs.fresh data hdata) hid
    · intro data hm
      rcases List.mem_cons.1 hm with rfl | hm
      · exact Nat.lt_succ_self _
      · exact Nat.lt_succ_of_lt (hs.fresh data hm)
    · rcases hc with hp | ⟨data, hdata, hrest⟩
      · exact .inl hp
      · exact .inr ⟨data, List.mem_cons_of_mem _ hdata, hrest⟩
  · exact Option.some.inj h ▸ hs.keeps

/-- A download is begun for an announced resource, or its proxy is there at once. -/
theorem onItsWay_loadDescription (hs : Sound location group s) (ha : Announced group resource)
    {url : Str} (hurl : ctx.rewriteUri location = some url) (hnew : ctx.messageNew url = true)
    {maxTries : Int} {timeout : Nat}
    (h : loadDescription ctx location resource.1 resource.2 maxTries timeout s = some t) :
    t.HasProxy resource ∨ ∃ data ∈ t.pendingGets, data.id = s.nextId ∧ data.resource = resource ∧
      data.descriptionUrl = location ∧ data.cancelled = false := by
  unfold loadDescription at h
  cases hdoc : s.docCache.lookup location with
  | some doc =>
    rw [hdoc] at h
    exact .inl ((hs.cached doc hdoc).finds ha h)
  | none =>
    rw [hdoc] at h
    dsimp only at h
    rw [hurl] at h
    dsimp only at h
    rw [if_pos hnew] at h
    obtain rfl := Option.some.inj h
    exact .inr ⟨_, List.mem_cons_self, rfl, rfl, rfl, rfl⟩

theorem mem_loadDescription {url udn : Str} {serviceType : Option Str} {maxTries : Int}
    {timeout : Nat} (hload : loadDescription ctx url udn serviceType maxTries timeout s = some t)
    (h : data ∈ t.pendingGets) : data ∈ s.pendingGets ∨ data.id = s.nextId := by
  unfold loadDescription at hload
  split at hload
  · rw [(Downloads.descriptionLoaded_frame hload).1] at h
    exact .inl h
  split at hload
  · exact .inl (Option.some.inj hload ▸ h)
  split at hload
  · obtain rfl := Option.some.inj hload
    rcases List.mem_cons.1 h with rfl | h
    · exact .inr rfl
    · exact .inl h
  · exact .inl (Option.some.inj hload ▸ h)

theorem keeps_free (hs : Sound location group s) {id : Nat}
    (hdone : ∀ data ∈ s.pendingGets, data.id = id → data.descriptionUrl = location →
      data.cancelled = false → Announced group data.resource → Coming location data.resource
        (getDescriptionUrlDataFree id s)) :
    Keeps location group s (getDescriptionUrlDataFree id s) := by
  refine ⟨⟨?_, ?_, hs.cached⟩, fun resource ha hc => ?_⟩
  · exact hs.ids.sublist (List.filter_sublist.map _)
  · exact fun data hm => hs.fresh data (List.mem_filter.1 hm).1
  · rcases hc with hp | ⟨data, hdata, rfl, hurl, hcancelled⟩
    · exact .inl hp
    · by_cases hid : data.id = id
      · exact hdone data hdata hid hurl hcancelled ha
      · exact .inr ⟨data, List.mem_filter.2 ⟨hdata, decide_eq_true hid⟩, rfl, hurl, hcancelled⟩

theorem keeps_newDescription (hs : Sound location group s) {doc : Node}
    (hdoc : data.descriptionUrl = location → Describes doc group)
    (h : newDescription data doc s = some t) : Keeps location group s t := by
  obtain ⟨u, hu, rfl⟩ := Option.map_eq_some_iff.1 h
  have hloaded := keeps_descriptionLoaded hs hu
  split
  · exact hloaded
  · refine ⟨⟨hloaded.sound.ids, hloaded.sound.fresh, fun doc' hlookup => ?_⟩, hloaded.coming⟩
    dsimp only at hlookup
    by_cases hurl : data.descriptionUrl = location
    · rw [hurl, AList.lookup_insert] at hlookup
      exact Option.some.inj hlookup ▸ hdoc hurl
    · rw [AList.lookup_insert_ne (Ne.symm hurl)] at hlookup
      exact hloaded.sound.cached doc' hlookup

theorem hasProxy_withCache (resource : Resource) (cache : Table Str Node) :
    ControlPointState.HasProxy { s with docCache := cache } resource ↔ s.HasProxy resource := by
  obtain ⟨udn, _ | serviceType⟩ := resource <;> rfl

/-- The proxy of the resource is there after its document has come. -/
theorem hasProxy_newDescription {doc : Node} (hdoc : Describes doc group)
    (ha : Announced group data.resource) (h : newDescription data doc s = some t) :
    t.HasProxy data.resource := by
  obtain ⟨u, hu, rfl⟩ := Option.map_eq_some_iff.1 h
  have hfinds := hdoc.finds ha hu
  split
  · exact hfinds
  · exact (hasProxy_withCache data.resource _).2 hfinds

theorem Sound.map (hs : Sound location group s) (f : GetDescriptionUrlData → GetDescriptionUrlData)
    (hid : ∀ d ∈ s.pendingGets, (f d).id = d.id) (log : List Effect) :
    Sound location group { s with pendingGets := s.pendingGets.map f, log := log } where
  ids := by
    rw [List.map_map]
    exact (List.map_congr_left hid : s.pendingGets.map ((·.id) ∘ f) = _) ▸ hs.ids
  fresh changed hm := by
    obtain ⟨d, hd, rfl⟩ := List.mem_map.1 hm
    rw [hid d hd]
    exact hs.fresh d hd
  cached := hs.cached

theorem coming_map (hc : Coming location resource s)
    (f : GetDescriptionUrlData → GetDescriptionUrlData)
    (hf : ∀ d ∈ s.pendingGets, d.resource = resource → (f d).resource = d.resource ∧
      (f d).descriptionUrl = d.descriptionUrl ∧ (f d).cancelled = d.cancelled) (log : List Effect) :
    Coming location resource { s with pendingGets := s.pendingGets.map f, log := log } := by
  rcases hc with hp | ⟨d, hd, rfl, hurl, hcancelled⟩
  · exact .inl hp
  · obtain ⟨hresource, hsame, hstill⟩ := hf d hd rfl
    exact .inr ⟨f d, List.mem_map_of_mem hd, hresource, hsame.trans hurl, hstill.trans hcancelled⟩

/-- An entry that waits for its timer is on its way as before. -/
theorem keeps_retryLater (hs : Sound location group s) (hdata : data ∈ s.pendingGets)
    (htries : data.descriptionUrl = location → data.cancelled = false → 1 < data.tries) :
    Keeps location group s (retryLater data s) := by
  unfold retryLater
  dsimp only
  split
  · -- The entry that takes the place of this one differs in its phase, its timeout and its tries.
    refine ⟨hs.map _ (fun d hd => ?_) _, fun resource _ hc => coming_map hc _ (fun d hd _ => ?_) _⟩
    · split
      · exact (‹d.id = data.id›).symm
      · rfl
    · split
      · obtain rfl := hs.unique hdata hd ‹_›
        exact ⟨rfl, rfl, rfl⟩
      · exact ⟨rfl, rfl, rfl⟩
  · refine keeps_free hs fun d hd hid hurl hcancelled => ?_
    obtain rfl := hs.unique hdata hd hid
    have := htries hurl hcancelled
    omega

/-- What a request for the document brings. -/
def Brings (ctx : Context) (group : List Registration)
    (data : GetDescriptionUrlData) (response : Option (Nat × Str)) : Prop :=
  (∃ status body doc, response = some (status, body) ∧ ControlPoint.isSuccessful status = true ∧
    ctx.xmlReadMemory body = some doc ∧ Describes doc group) ∨
  response = none ∧ (data.cancelled = false → 1 < data.tries)

theorem keeps_gotDocument (hs : Sound location group s) (hdata : data ∈ s.pendingGets)
    {response : Option (Nat × Str)}
    (hbrings : data.descriptionUrl = location → Brings ctx group data response)
    (h : gotDocument ctx data response s = some t) : Keeps location group s t := by
  unfold gotDocument at h
  cases hcached : s.docCache.lookup data.descriptionUrl with
  | some doc =>
    rw [hcached] at h
    obtain ⟨u, hu, rfl⟩ := Option.map_eq_some_iff.1 h
    have hloaded := keeps_descriptionLoaded hs hu
    refine hloaded.trans (keeps_free hloaded.sound fun d hd hid hurl hcancelled ha => ?_)
    rw [(Downloads.descriptionLoaded_frame hu).1] at hd
    obtain rfl := hs.unique hdata hd hid
    have hp := (hs.cached doc (hurl ▸ hcached)).finds ha hu
    exact .inl hp
  | none =>
    rw [hcached] at h
    dsimp only at h
    cases response with
    | none =>
      obtain rfl := Option.some.inj h
      refine keeps_retryLater hs hdata fun hurl hcancelled => ?_
      rcases hbrings hurl with ⟨_, _, _, hresponse, -⟩ | ⟨-, htries⟩
      · cases hresponse
      · exact htries hcancelled
    | some answer =>
      obtain ⟨status, body⟩ := answer
      dsimp only at h
      have hgot : data.descriptionUrl = location → ControlPoint.isSuccessful status = true ∧
          ∃ doc, ctx.xmlReadMemory body = some doc ∧ Describes doc group := by
        intro hurl
        rcases hbrings hurl with ⟨status', body', doc, hresponse, hok, hparse, hdoc⟩ | ⟨hnone, -⟩
        · obtain ⟨rfl, rfl⟩ := Prod.mk.inj (Option.some.inj hresponse)
          exact ⟨hok, doc, hparse, hdoc⟩
        · cases hnone
      split at h
      · cases hparsed : ctx.xmlReadMemory body with
        | some doc =>
          rw [hparsed] at h
          obtain ⟨u, hu, rfl⟩ := Option.map_eq_some_iff.1 h
          have hdoc : data.descriptionUrl = location → Describes doc group := by
            intro hurl
            obtain ⟨-, doc', hparse, hdescribes⟩ := hgot hurl
            exact Option.some.inj (hparse.symm.trans hparsed) ▸ hdescribes
          have hnew := keeps_newDescription hs hdoc hu
          refine hnew.trans (keeps_free hnew.sound fun d hd hid hurl hcancelled ha => ?_)
          rw [(Downloads.newDescription_frame hu).1] at hd
          obtain rfl := hs.unique hdata hd hid
          have hp := hasProxy_newDescription (hdoc hurl) ha hu
          exact .inl hp
        | none =>
          rw [hparsed] at h
          obtain rfl := Option.some.inj h
          refine keeps_free hs fun d hd hid hurl => ?_
          obtain rfl := hs.unique hdata hd hid
          obtain ⟨-, doc, hparse, -⟩ := hgot hurl
          cases hparse.symm.trans hparsed
      · rename_i hfailed
        obtain rfl := Option.some.inj h
        exact keeps_retryLater hs hdata fun hurl => absurd (hgot hurl).1 hfailed

theorem keeps_gotDescriptionUrl (hs : Sound location group s) (hdata : data ∈ s.pendingGets)
    {outcome : Outcome}
    (hbrings : data.descriptionUrl = location →
      (data.cancelled = true ∧ ∀ status body, outcome ≠ .response status body) ∨
      (outcome = .timedOut ∧ 1 < data.tries) ∨
      ∃ status body, outcome = .response status body ∧
        Brings ctx group data (some (status, body)))
    (h : gotDescriptionUrl ctx data outcome s = some t) : Keeps location group s t := by
  have hfree : (∀ status body, outcome ≠ .response status body) → outcome ≠ .timedOut →
      Keeps location group s (getDescriptionUrlDataFree data.id s) := by
    intro hresponse htimed
    refine keeps_free hs fun d hd hid hurl hcancelled => ?_
    obtain rfl := hs.unique hdata hd hid
    rcases hbrings hurl with ⟨hc, -⟩ | ⟨ho, -⟩ | ⟨status, body, ho, -⟩
    · rw [hcancelled] at hc
      cases hc
    · exact absurd ho htimed
    · exact absurd ho (hresponse status body)
  cases outcome with
  | cancelled => exact Option.some.inj h ▸ hfree (fun _ _ h => by cases h) (fun h => by cases h)
  | failed => exact Option.some.inj h ▸ hfree (fun _ _ h => by cases h) (fun h => by cases h)
  | timedOut =>
    have hgot : gotDocument ctx data none s = some t := h
    refine keeps_gotDocument hs hdata (fun hurl => .inr ⟨rfl, fun hcancelled => ?_⟩) hgot
    rcases hbrings hurl with ⟨hc, -⟩ | ⟨-, htries⟩ | ⟨status, body, ho, -⟩
    · rw [hcancelled] at hc
      cases hc
    · exact htries
    · cases ho
  | response status body =>
    have hgot : gotDocument ctx data (some (status, body)) s = some t := h
    refine keeps_gotDocument hs hdata (fun hurl => ?_) hgot
    rcases hbrings hurl with ⟨-, hnone⟩ | ⟨ho, -⟩ | ⟨status', body', ho, hbrings⟩
    · exact absurd rfl (hnone status body)
    · cases ho
    · obtain ⟨rfl, rfl⟩ := Outcome.response.inj ho
      exact hbrings

theorem keeps_descriptionUrlRetryTimeout (hs : Sound location group s)
    (hdata : data ∈ s.pendingGets) {url : Str} (hurl : ctx.rewriteUri location = some url)
    (hnew : ctx.messageNew url = true) (h : descriptionUrlRetryTimeout ctx data s = some t) :
    Keeps location group s t := by
  obtain ⟨u, hu, rfl⟩ := Option.map_eq_some_iff.1 h
  have hload := keeps_loadDescription hs hu
  -- The entry goes, but the download it asked for again is a new one.
  refine hload.trans (keeps_free hload.sound fun d hd hid hloc hcancelled ha => ?_)
  have hlt := hs.fresh data hdata
  rcases mem_loadDescription hu hd with hold | hnext
  · obtain rfl := hs.unique hdata hold hid
    rw [hloc] at hu
    rcases onItsWay_loadDescription hs ha hurl hnew hu with
      hp | ⟨d', hd', hnext, hresource, hurl', hcancelled'⟩
    · exact .inl hp
    · refine .inr ⟨d', List.mem_filter.2 ⟨hd', decide_eq_true ?_⟩, hresource, hurl', hcancelled'⟩
      rw [hnext]
      exact (Nat.ne_of_lt hlt).symm
  · rw [hid] at hnext
    exact absurd hnext (Nat.ne_of_lt hlt)

theorem sound_cancelGet (hs : Sound location group s) (resource : Resource) :
    Sound location group (cancelGet resource s) := by
  unfold cancelGet
  split
  · exact hs
  · refine hs.map _ (fun d _ => ?_) s.log
    split <;> rfl

theorem sound_removeProxy (hs : Sound location group s) (resource : Resource) :
    Sound location group (removeProxy resource s) := by
  obtain ⟨udn, _ | serviceType⟩ := resource <;> simp only [removeProxy] <;> split
  · exact ⟨hs.ids, hs.fresh, hs.cached⟩
  · exact hs
  · exact ⟨hs.ids, hs.fresh, hs.cached⟩
  · exact hs

/-- The proxy of another resource stays. -/
theorem hasProxy_removeProxy {other : Resource} (hne : other ≠ resource) (h : s.HasProxy resource) :
    (removeProxy other s).HasProxy resource := by
  obtain ⟨udn, _ | serviceType⟩ := other <;> obtain ⟨udn', _ | serviceType'⟩ := resource <;>
    simp only [removeProxy] <;> split
  · have hudn : udn' ≠ udn := fun he => hne (by rw [he])
    unfold ControlPointState.HasProxy at h ⊢
    dsimp only at h ⊢
    rw [map_eraseP fun p : ControlPoint.DeviceProxy => p.udn]
    exact (List.mem_erase_of_ne hudn).2 h
  · exact h
  · exact h
  · exact h
  · exact h
  · exact h
  · have hpair : (udn', serviceType') ≠ (udn, serviceType) := fun he => hne (by
      obtain ⟨rfl, rfl⟩ := Prod.mk.inj he
      rfl)
    unfold ControlPointState.HasProxy at h ⊢
    dsimp only at h ⊢
    rw [show (s.services.eraseP fun p => p.udn = udn ∧ p.serviceType = serviceType) =
      s.services.eraseP fun p => (p.udn, p.serviceType) = (udn, serviceType) by
        simp only [Prod.mk.injEq],
      map_eraseP fun p : ControlPoint.ServiceProxy => (p.udn, p.serviceType)]
    exact (List.mem_erase_of_ne hpair).2 h
  · exact h

/-- A resource that goes leaves the others. -/
theorem coming_resourceUnavailable (hs : Sound location group s) {usn : Str}
    (hne : parseUsn usn ≠ some resource) (hc : Coming location resource s) :
    Coming location resource (resourceUnavailable usn s) := by
  unfold resourceUnavailable
  cases hu : parseUsn usn with
  | none => exact hc
  | some other =>
    have hother : other ≠ resource := fun he => hne (hu.trans (congrArg some he))
    have hremoved : Coming location resource (removeProxy other s) := by
      rcases hc with hp | hw
      · exact .inl (hasProxy_removeProxy hother hp)
      · refine .inr ?_
        unfold OnItsWay
        rw [removeProxy_pendingGets]
        exact hw
    show Coming location resource (cancelGet other (removeProxy other s))
    unfold cancelGet
    cases hfind : (removeProxy other s).findGet other with
    | none => exact hremoved
    | some data =>
      have hdata : data.resource = other := by simpa using List.find?_some hfind
      refine coming_map hremoved _ (fun d hd hresource => ?_) (removeProxy other s).log
      rw [if_neg fun hid => ?_]
      · exact ⟨rfl, rfl, rfl⟩
      · obtain rfl := (sound_removeProxy hs other).unique (List.mem_of_find?_eq_some hfind) hd hid
        exact hother (hdata.symm.trans hresource)

/-- The answer brings the proxy. -/
theorem hasProxy_gotDocument (hs : Sound location group s) (hurl : data.descriptionUrl = location)
    (ha : Announced group data.resource) {status : Nat} {body : Str} {doc : Node}
    (hok : ControlPoint.isSuccessful status = true) (hparse : ctx.xmlReadMemory body = some doc)
    (hdoc : Describes doc group) (h : gotDocument ctx data (some (status, body)) s = some t) :
    t.HasProxy data.resource := by
  unfold gotDocument at h
  cases hcached : s.docCache.lookup data.descriptionUrl with
  | some doc =>
    rw [hcached] at h
    obtain ⟨u, hu, rfl⟩ := Option.map_eq_some_iff.1 h
    have hp := (hs.cached doc (hurl ▸ hcached)).finds ha hu
    exact hp
  | none =>
    rw [hcached] at h
    dsimp only at h
    rw [if_pos hok, hparse] at h
    obtain ⟨u, hu, rfl⟩ := Option.map_eq_some_iff.1 h
    have hp := hasProxy_newDescription hdoc ha hu
    exact hp

/-- The control point does not fail on the answer. -/
theorem exists_gotDocument (hs : Sound location group s) (hurl : data.descriptionUrl = location)
    {status : Nat} {body : Str} {doc : Node} (hok : ControlPoint.isSuccessful status = true)
    (hparse : ctx.xmlReadMemory body = some doc) (hdoc : Describes doc group) :
    ∃ t, gotDocument ctx data (some (status, body)) s = some t := by
  unfold gotDocument
  cases hcached : s.docCache.lookup data.descriptionUrl with
  | some doc =>
    obtain ⟨t, ht⟩ := (hs.cached doc (hurl ▸ hcached)).loads data.resource data.descriptionUrl s
    exact ⟨_, Option.map_eq_some_iff.2 ⟨t, ht, rfl⟩⟩
  | none =>
    dsimp only
    rw [if_pos hok, hparse]
    obtain ⟨t, ht⟩ := hdoc.loads data.resource data.descriptionUrl s
    exact ⟨_, Option.map_eq_some_iff.2 ⟨_, Option.map_eq_some_iff.2 ⟨t, ht, rfl⟩, rfl⟩⟩

end

/-! ## Runs -/

section
variable {ctx : Context} {s t : ControlPointState} {id : Nat} {outcome : Outcome}

/-- A request of the session ends for an entry that is there. -/
theorem step_gotDescriptionUrl (he : step ctx s (.gotDescriptionUrl id outcome) = some t) :
    ∃ data ∈ s.pendingGets, data.id = id ∧ (data.cancelled = true → outcome = .cancelled) ∧
      gotDescriptionUrl ctx data outcome s = some t := by
  unfold step at he
  dsimp only at he
  cases hfind : s.pendingGets.find? (fun d => d.id = id) with
  | none =>
    rw [hfind] at he
    cases he
  | some data =>
    rw [hfind] at he
    obtain ⟨⟨-, hcancelled⟩, he⟩ := Option.ite_none_right_eq_some.1 he
    have hid : data.id = id := by simpa using List.find?_some hfind
    exact ⟨data, List.mem_of_find?_eq_some hfind, hid, hcancelled, he⟩

/-- A timer fires for an entry that is there. -/
theorem step_retryTimeout (he : step ctx s (.retryTimeout id) = some t) :
    ∃ data ∈ s.pendingGets, descriptionUrlRetryTimeout ctx data s = some t := by
  unfold step at he
  dsimp only at he
  cases hfind : s.pendingGets.find? (fun d => d.id = id) with
  | none =>
    rw [hfind] at he
    cases he
  | some data =>
    rw [hfind] at he
    obtain ⟨-, he⟩ := Option.ite_none_right_eq_some.1 he
    exact ⟨data, List.mem_of_find?_eq_some hfind, he⟩

end

/-- The document is served, and every resource that is there has a proxy or comes. -/
structure Good (device : RootDeviceState) (base : Str) (w : World) : Prop where
  numbered : Numbered w.context
  served : ServedAt w.context device.path base
  sound : Sound device.location device.group w.point
  present : ∀ resource ∈ w.present, Announced device.group resource ∧
    Coming device.location resource w.point

section
variable {ctx : Context} {server : Server} {fs : FileSystem} {device : RootDeviceState}
  {base url : Str} {w w' : World} {e : NetworkEvent} {t : ControlPointState}

theorem Readable.doc {xmlReadMemory : Str → Option Node} {group : List Registration}
    (h : Readable xmlReadMemory fs base group) : ∃ doc, Describes doc group := by
  obtain ⟨-, doc, -, -, hdoc⟩ := h.describes base (.inl rfl) h.there
  exact ⟨doc, hdoc⟩

/-- What the control point does without losing anything leaves the network in order. -/
theorem Good.withPoint (hg : Good device base w)
    (h : Keeps device.location device.group w.point t) : Good device base { w with point := t } where
  numbered := hg.numbered
  served := hg.served
  sound := h.sound
  present resource hr := by
    obtain ⟨ha, hc⟩ := hg.present resource hr
    exact ⟨ha, h.coming resource ha hc⟩

theorem good_announce (hg : Good device base w) (hread : Readable ctx.xmlReadMemory fs base
    device.group) (hurl : ctx.rewriteUri device.location = some url)
    (hnew : ctx.messageNew url = true) {r : Registration} (hr : r ∈ device.group)
    (he : resourceAvailable ctx r.usn [device.location] w.point = some t) :
    Good device base { w with point := t, present := (parseUsn r.usn).toList ++ w.present } := by
  obtain ⟨doc, hdoc⟩ := hread.doc
  obtain ⟨⟨udn, serviceType⟩, hparse⟩ := hdoc.parseUsn hr
  have ha : Announced device.group (udn, serviceType) := ⟨r, hr, hparse⟩
  unfold resourceAvailable at he
  rw [hparse] at he
  have hkeeps := keeps_loadDescription hg.sound he
  refine ⟨hg.numbered, hg.served, hkeeps.sound, fun resource hpresent => ?_⟩
  rw [hparse] at hpresent
  rcases List.mem_cons.1 hpresent with rfl | hpresent
  · refine ⟨ha, ?_⟩
    rcases onItsWay_loadDescription hg.sound ha hurl hnew he with hp | ⟨data, hdata, -, hrest⟩
    · exact .inl hp
    · exact .inr ⟨data, hdata, hrest⟩
  · obtain ⟨ha, hc⟩ := hg.present resource hpresent
    exact ⟨ha, hkeeps.coming resource ha hc⟩

theorem good_resourceUnavailable (hg : Good device base w) (usn : Str) :
    Good device base { w with point := resourceUnavailable usn w.point,
                              present := w.present.filter fun resource =>
                                parseUsn usn ≠ some resource } := by
  refine ⟨hg.numbered, hg.served, ?_, fun resource hpresent => ?_⟩
  · show Sound _ _ (resourceUnavailable usn w.point)
    unfold resourceUnavailable
    split
    · exact hg.sound
    · exact sound_cancelGet (sound_removeProxy hg.sound _) _
  · obtain ⟨hmem, hne⟩ := List.mem_filter.1 hpresent
    obtain ⟨ha, hc⟩ := hg.present resource hmem
    exact ⟨ha, coming_resourceUnavailable hg.sound (of_decide_eq_true hne) hc⟩

/-- An event of the control point other than the answer to a request for the document. -/
theorem good_point (hg : Good device base w) (hurl : ctx.rewriteUri device.location = some url)
    (hnew : ctx.messageNew url = true) {e : ControlPoint.Event}
    (hok : Delivered device w (.point e)) (he : ControlPoint.step ctx w.point e = some t) :
    Good device base { w with point := t, present := stillPresent w.present e } := by
  cases e with
  | resourceAvailable usn locations =>
    refine hg.withPoint ?_
    have he : resourceAvailable ctx usn locations w.point = some t := he
    unfold resourceAvailable at he
    split at he
    · exact Option.some.inj he ▸ hg.sound.keeps
    split at he
    · exact Option.some.inj he ▸ hg.sound.keeps
    · exact keeps_loadDescription hg.sound he
  | resourceUnavailable usn =>
    obtain rfl := Option.some.inj he
    exact good_resourceUnavailable hg usn
  | gotDescriptionUrl id outcome =>
    obtain ⟨data, hdata, hid, hcancelled, he⟩ := step_gotDescriptionUrl he
    refine hg.withPoint (keeps_gotDescriptionUrl hg.sound hdata (fun hloc => ?_) he)
    cases hc : data.cancelled with
    | true =>
      refine .inl ⟨rfl, fun status body ho => ?_⟩
      rw [hcancelled hc] at ho
      cases ho
    | false => exact .inr (.inl (hok data hdata hid hloc hc))
  | retryTimeout id =>
    obtain ⟨data, hdata, he⟩ := step_retryTimeout he
    exact hg.withPoint (keeps_descriptionUrlRetryTimeout hg.sound hdata hurl hnew he)
  | docFinalized other =>
    obtain ⟨-, he⟩ := Option.ite_none_right_eq_some.1 he
    obtain rfl := Option.some.inj he
    refine hg.withPoint ⟨⟨hg.sound.ids, hg.sound.fresh, fun doc hlookup => ?_⟩, fun _ _ => id⟩
    by_cases hother : device.location = other
    · rw [hother, AList.lookup_erase] at hlookup
      cases hlookup
    · rw [AList.lookup_erase_ne hother] at hlookup
      exact hg.sound.cached doc hlookup

/-- The answer of the server to a request that is running. -/
theorem good_answer (hg : Good device base w)
    (hread : Readable ctx.xmlReadMemory fs base device.group)
    (hlast : device.path.getLast? = some 'l') {id : Nat} {request : Request}
    (he : networkStep ctx server fs device w (.answer id request) = some w') :
    Good device base w' := by
  obtain ⟨⟨data, hdata, hid, hloc⟩, he⟩ := Option.ite_none_right_eq_some.1 he
  obtain ⟨response, doc, hanswer, hstatus, hparse, hdoc⟩ :=
    serverAnswer_describes server hg.served hlast hread request
  rw [hanswer, Option.bind_some] at he
  obtain ⟨t, hstep, rfl⟩ := Option.map_eq_some_iff.1 he
  obtain ⟨found, hfound, -, -, hgot⟩ := step_gotDescriptionUrl hstep
  refine hg.withPoint (keeps_gotDescriptionUrl hg.sound hfound (fun _ =>
    .inr (.inr ⟨_, _, rfl, .inl ?_⟩)) hgot)
  exact ⟨_, _, doc, rfl, by rw [hstatus]; rfl, hparse, hdoc⟩

theorem good_networkStep (hg : Good device base w)
    (hread : Readable ctx.xmlReadMemory fs base device.group)
    (hlast : device.path.getLast? = some 'l') (hurl : ctx.rewriteUri device.location = some url)
    (hnew : ctx.messageNew url = true) (hok : Delivered device w e)
    (he : networkStep ctx server fs device w e = some w') : Good device base w' := by
  cases e with
  | hosting e =>
    obtain rfl := Option.some.inj he
    exact ⟨hg.numbered.step e, hg.served.step hg.numbered hok, hg.sound, hg.present⟩
  | announce r =>
    obtain ⟨hr, he⟩ := Option.ite_none_right_eq_some.1 he
    obtain ⟨t, hstep, rfl⟩ := Option.map_eq_some_iff.1 he
    exact good_announce hg hread hurl hnew hr hstep
  | answer id request => exact good_answer hg hread hlast he
  | point e =>
    obtain ⟨t, hstep, rfl⟩ := Option.map_eq_some_iff.1 he
    exact good_point hg hurl hnew hok hstep

/-- A request that is running can be answered, and the answer brings the proxy. -/
theorem Good.answered (server : Server) (hg : Good device base w)
    (hread : Readable ctx.xmlReadMemory fs base device.group)
    (hlast : device.path.getLast? = some 'l') {data : GetDescriptionUrlData}
    (hdata : data ∈ w.point.pendingGets) (hloc : data.descriptionUrl = device.location)
    (hrunning : data.phase = .running) (hcancelled : data.cancelled = false) (request : Request) :
    ∃ w', networkStep ctx server fs device w (.answer data.id request) = some w' ∧
      (Announced device.group data.resource → w'.point.HasProxy data.resource) := by
  obtain ⟨response, doc, hanswer, hstatus, hparse, hdoc⟩ :=
    serverAnswer_describes server hg.served hlast hread request
  have hfind : w.point.pendingGets.find? (fun d => d.id = data.id) = some data := by
    cases h : w.point.pendingGets.find? (fun d => d.id = data.id) with
    | none => exact absurd (decide_eq_true rfl) (List.find?_eq_none.1 h data hdata)
    | some found =>
      have hid : found.id = data.id := by simpa using List.find?_some h
      rw [hg.sound.unique hdata (List.mem_of_find?_eq_some h) hid]
  have hok : ControlPoint.isSuccessful response.status = true := by
    rw [hstatus]
    rfl
  obtain ⟨t, ht⟩ : ∃ t, gotDocument ctx data (some (response.status, bodyOf response)) w.point =
      some t := exists_gotDocument hg.sound hloc hok hparse hdoc
  have hstep : ControlPoint.step ctx w.point
      (.gotDescriptionUrl data.id (.response response.status (bodyOf response))) = some t := by
    unfold ControlPoint.step
    dsimp only
    rw [hfind]
    exact (if_pos ⟨hrunning, fun hc => Bool.noConfusion (hcancelled.symm.trans hc)⟩).trans ht
  refine ⟨{ w with point := t }, ?_, fun ha => hasProxy_gotDocument hg.sound hloc ha hok hparse hdoc ht⟩
  unfold networkStep
  dsimp only
  rw [if_pos ⟨data, hdata, rfl, hloc⟩, hanswer, Option.bind_some, hstep, Option.map_some]

/-- **What a root device announces arrives.** A root device came up on a context where anything was
hosted before, and its description, in every language that it is there in, describes the resources
that it registered. The network brings its announcements, the requests for the document and the
answers of the server in any order, among any other events of the control point, and the application
hosts and takes back what it likes elsewhere. Then every USN that is announced is read as a
resource; every resource that was announced and not taken back has a proxy, or a request for the
document is on its way for it; and such a request can be answered at any time, and the answer brings
the proxy. -/
theorem announced_arrives (lib : Libraries) (properties : Properties)
    (hostings : List HostPath.Event) {descriptionPath descriptionDir language url : Str}
    {context : HostPath.ContextState} {es : List NetworkEvent}
    (hcontext : properties.context = some (hostings.foldl HostPath.step (.init language)))
    (hpath : properties.descriptionPath = some descriptionPath)
    (hdir : properties.descriptionDir = some descriptionDir)
    (hinit : initableInit lib fs properties = some (.ok (device, context)))
    (hread : Readable ctx.xmlReadMemory fs (descPath descriptionPath descriptionDir) device.group)
    (hurl : ctx.rewriteUri device.location = some url) (hnew : ctx.messageNew url = true)
    (hrun : Run (networkStep ctx server fs device) (Delivered device) ⟨context, .init, []⟩ es w) :
    (∀ r ∈ device.group, ∃ resource, parseUsn r.usn = some resource) ∧
    (∀ resource ∈ w.present,
      w.point.HasProxy resource ∨ OnItsWay device.location resource w.point) ∧
    ∀ data ∈ w.point.pendingGets, data.descriptionUrl = device.location → data.phase = .running →
      data.cancelled = false → ∀ request, ∃ w',
        networkStep ctx server fs device w (.answer data.id request) = some w' ∧
        (data.resource ∈ w.present → w'.point.HasProxy data.resource) := by
  have hinitialised := initialised hcontext hpath hdir hinit
  obtain ⟨hnumbered, hserved⟩ :=
    hinitialised.served (numbered_foldl hostings (numbered_init language))
  have hbegin : Good device (descPath descriptionPath descriptionDir) ⟨context, .init, []⟩ := by
    refine ⟨hnumbered, hserved, ⟨List.nodup_nil, fun data hd => ?_, fun doc hd => ?_⟩, fun r hr => ?_⟩
    · cases hd
    · cases hd
    · cases hr
  have hg := hrun.inv (Good device (descPath descriptionPath descriptionDir))
    (fun _ _ _ hg hok he => good_networkStep hg hread hinitialised.last hurl hnew hok he) hbegin
  refine ⟨fun r hr => ?_, fun resource hr => (hg.present resource hr).2, ?_⟩
  · obtain ⟨doc, hdoc⟩ := hread.doc
    exact hdoc.parseUsn hr
  · intro data hdata hloc hrunning hcancelled request
    obtain ⟨w', hw', hproxy⟩ := hg.answered server hread hinitialised.last hdata hloc
      hrunning hcancelled request
    exact ⟨w', hw', fun hpresent => hproxy (hg.present _ hpresent).1⟩

end

/-! ## A concrete network -/

/-- A folder with a description document. -/
def describedFiles : FileSystem := fun path =>
  if path = "/srv/light.xml".toList then .regular ⟨"<root/>".toList, by decide⟩ else .missing

def plainLibraries : Libraries where
  serverUri := some "http://10.0.0.1".toList
  soupUriCopy uri path := uri ++ path
  gUriParse := some
  xmlReadFile _ := some sampleDocument

def lightProperties : Properties :=
  ⟨some (.init "en".toList), some "light.xml".toList, some "/srv".toList, none, "0x1".toList⟩

/-- The device of the document. -/
def lightDevice : RootDeviceState where
  element := sampleDevice "uuid:1"
  document := sampleDocument
  relativeLocation := "1.xml".toList
  location := "http://10.0.0.1/1.xml".toList
  urlBase := some "http://10.0.0.1/1.xml".toList
  group := rootResource (sampleDevice "uuid:1") ::
    (fillResourceGroup (sampleDevice "uuid:1")).getD []

def lightContext : HostPath.ContextState :=
  HostPath.hostPath "/srv".toList []
    (HostPath.hostPath "/srv/light.xml".toList "/1.xml".toList (.init "en".toList))

/-- The switch of the light. -/
def lightSwitch : Registration :=
  ⟨"urn:schemas-upnp-org:service:SwitchPower:1".toList,
    "uuid:1::urn:schemas-upnp-org:service:SwitchPower:1".toList⟩

theorem describes_light : Describes sampleDocument lightDevice.group where
  registered := rfl
  walkable root hroot := by
    obtain rfl := Option.some.inj hroot
    exact walkable_sampleRoot "uuid:1"
  described root element device hroot helement hin := by
    obtain rfl := Option.some.inj hroot
    obtain rfl := Option.some.inj helement
    obtain rfl : device = sampleDevice "uuid:1" := inTree_sampleDevice hin
    refine ⟨described_sampleDevice ⟨by decide, by decide⟩, fun udn hu => ?_, fun type ht => ?_,
      fun type ht => ?_⟩
    · obtain rfl := Option.some.inj ((udn_sampleDevice "uuid:1").symm.trans hu)
      decide
    · obtain rfl := Option.some.inj ht
      decide
    · rw [offers_sampleDevice ht]
      decide

theorem readable_light : Readable sampleContext.xmlReadMemory describedFiles
    (descPath "light.xml".toList "/srv".toList) lightDevice.group where
  there := by decide
  describes path hvariant hthere := by
    unfold describedFiles at hthere ⊢
    by_cases hpath : path = "/srv/light.xml".toList
    · exact ⟨_, sampleDocument, if_pos hpath, rfl, describes_light⟩
    · rw [if_neg hpath] at hthere
      cases hthere

/-- The switch is announced, its document is asked for, and the answer brings its proxy. -/
theorem announced_arrives_sample : ∃ w w', Run
    (networkStep sampleContext HostPath.sampleServer describedFiles lightDevice)
      (Delivered lightDevice) ⟨lightContext, .init, []⟩ [.announce lightSwitch] w ∧
    networkStep sampleContext HostPath.sampleServer describedFiles lightDevice w
      (.answer 0 HostPath.fileRequest) = some w' ∧
    w'.point.HasProxy ("uuid:1".toList,
      some "urn:schemas-upnp-org:service:SwitchPower:1".toList) := by
  obtain ⟨w, hw⟩ : ∃ w, networkStep sampleContext HostPath.sampleServer describedFiles lightDevice
      ⟨lightContext, .init, []⟩ (.announce lightSwitch) = some w := ⟨_, rfl⟩
  have hrun : Run _ (Delivered lightDevice) _ [.announce lightSwitch] w := .single trivial hw
  obtain ⟨-, -, hanswer⟩ := announced_arrives plainLibraries lightProperties [] rfl rfl rfl rfl
    readable_light rfl rfl hrun
  obtain rfl := Option.some.inj hw
  obtain ⟨w', hw', hproxy⟩ := hanswer _ List.mem_cons_self rfl rfl rfl HostPath.fileRequest
  exact ⟨_, w', hrun, hw', hproxy List.mem_cons_self⟩

end GUPnP.Discovery
