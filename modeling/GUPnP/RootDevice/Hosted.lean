import GUPnP.HostPath.Localised
import GUPnP.RootDevice.Model

/-!
# The description document of a root device (`gupnp-root-device.c`)

A root device reads its description document, hosts the file at a path of its own and its folder at the
empty path, and registers what the document describes (`gupnp_root_device_initable_init`). Whatever is
hosted at other paths before and after, the path of the document leads to its file
(`servedAt_initableInit`, `ServedAt.step`).
-/

set_option autoImplicit false

namespace GUPnP.RootDevice

open Xml HostPath

/-! ## Types -/

/-- `GUPNP_ROOT_DEVICE_ERROR_NO_CONTEXT` to `GUPNP_ROOT_DEVICE_ERROR_NO_NETWORK`,
`GUPNP_XML_ERROR_PARSE` and `GUPNP_XML_ERROR_NO_NODE`. -/
inductive InitError where
  | noContext
  | noDescriptionPath
  | noDescriptionFolder
  | noNetwork
  | parse
  | noNode (path : String)
  deriving DecidableEq, Repr

def InitError.message : InitError → String
  | noContext => "No context specified"
  | noDescriptionPath => "Path to description document not specified."
  | noDescriptionFolder => "Path to description directory not specified."
  | noNetwork => "Network interface is not usable"
  | parse => "Could not parse description document"
  | noNode path => "\"" ++ path ++ "\" element not found."

/-- The construct properties, and the device as `%p` prints it. -/
structure Properties where
  context : Option ContextState
  descriptionPath : Option Str
  descriptionDir : Option Str
  document : Option Node
  pointer : Str

/-- What a root device uses of its context, of GLib, libsoup and libxml2. A `GUri` is its string. -/
structure Libraries where
  /-- `_gupnp_context_get_server_uri` -/
  serverUri : Option Str
  /-- `soup_uri_copy` with `SOUP_URI_PATH` and this path. -/
  soupUriCopy : Str → Str → Str
  gUriParse : Str → Option Str
  /-- `xmlReadFile` for a file with these contents. -/
  xmlReadFile : Str → Option Node

/-- `GUPnPRootDevice` once it is there; the resources of its group all have its location. -/
structure RootDeviceState where
  element : Node
  document : Node
  relativeLocation : Str
  location : Str
  urlBase : Option Str
  group : List Registration

/-! ## The functions -/

/-- `g_build_filename` for a folder and a relative path. -/
def buildFilename (folder name : Str) : Str :=
  if name = [] then folder else HostPath.buildFilename folder name

/-- `load_and_parse`. -/
def loadAndParse (lib : Libraries) (fs : FileSystem) (descriptionPath : Str) : Option Node :=
  match fs descriptionPath with
  | .regular file => lib.xmlReadFile file.bytes
  | _ => none

/-- `priv->relative_location`. -/
def relativeLocation (pointer : Str) : Option Str → Str
  | some udn =>
    if "uuid:".toList <+: udn then udn.drop 5 ++ ".xml".toList
    else "RootDevice".toList ++ pointer ++ ".xml".toList
  | none => "RootDevice".toList ++ pointer ++ ".xml".toList

/-- `desc_path`. -/
def descPath (descriptionPath descriptionDir : Str) : Str :=
  if descriptionPath.head? = some '/' then descriptionPath
  else buildFilename descriptionDir descriptionPath

/-- `gupnp_root_device_initable_init` with a document; `none`: the walk over it fails. -/
def initDocument (lib : Libraries) (pointer path dir uri : Str) (context : ContextState)
    (document : Node) : Option (Except InitError (RootDeviceState × ContextState)) :=
  match getElement document ["root".toList] with
  | none => some (.error (.noNode "/root"))
  | some rootElement =>
    match getElement rootElement ["device".toList] with
    | none => some (.error (.noNode "/root/device"))
    | some element =>
      let udn := getChildElementContent element "UDN".toList
      let relative := relativeLocation pointer udn
      let location := lib.soupUriCopy uri ('/' :: relative)
      let context := hostPath dir [] (hostPath path ('/' :: relative) context)
      let urlBase := (getChildElementContent rootElement "URLBase".toList).bind lib.gUriParse
      (fillResourceGroup element).map fun resources =>
        .ok (⟨element, document, relative, location, urlBase.or (lib.gUriParse location),
          rootResource element :: resources⟩, context)

/-- `gupnp_root_device_initable_init`. -/
def initableInit (lib : Libraries) (fs : FileSystem) (device : Properties) :
    Option (Except InitError (RootDeviceState × ContextState)) :=
  match device.context, device.descriptionPath, device.descriptionDir, lib.serverUri with
  | none, _, _, _ => some (.error .noContext)
  | _, none, _, _ => some (.error .noDescriptionPath)
  | _, _, none, _ => some (.error .noDescriptionFolder)
  | _, _, _, none => some (.error .noNetwork)
  | some context, some descriptionPath, some descriptionDir, some uri =>
    let path := descPath descriptionPath descriptionDir
    match device.document.or (loadAndParse lib fs path) with
    | none => some (.error .parse)
    | some document => initDocument lib device.pointer path descriptionDir uri context document

/-- The server path of the description document. -/
def RootDeviceState.path (device : RootDeviceState) : Str := '/' :: device.relativeLocation

/-! ## Contexts -/

/-- The numbers of the entries tell them apart. -/
structure Numbered (s : ContextState) : Prop where
  nodup : (s.hostPathDatas.map HostPathData.id).Nodup
  fresh : ∀ data ∈ s.hostPathDatas, data.id < s.nextId

/-- The path leads to this file, whatever the agent. -/
def ServedAt (s : ContextState) (path localPath : Str) : Prop :=
  ∃ data, s.handler path = some data ∧ data.serverPath = path ∧ data.localPath = localPath ∧
    data.userAgents = []

/-- The application leaves this path alone. -/
def LeavesAlone (path : Str) : HostPath.Event → Prop
  | .hostPath _ other => other ≠ path
  | .hostPathForAgent _ other _ => other ≠ path
  | .unhostPath other => other ≠ path
  | .setDefaultLanguage _ => True

instance (path : Str) (e : HostPath.Event) : Decidable (LeavesAlone path e) := by
  cases e <;> unfold LeavesAlone <;> infer_instance

section
variable {s : ContextState} {path localPath : Str} {data : HostPathData}

theorem numbered_init (language : Str) : Numbered (.init language) where
  nodup := List.nodup_nil
  fresh _ hd := by cases hd

/-- A change of the entries that keeps their numbers. -/
theorem Numbered.map (h : Numbered s) (f : HostPathData → HostPathData)
    (hid : ∀ data, (f data).id = data.id) {language : Str} :
    Numbered { s with hostPathDatas := s.hostPathDatas.map f, defaultLanguage := language } where
  nodup := by
    have hids : HostPathData.id ∘ f = HostPathData.id := funext hid
    rw [List.map_map, hids]
    exact h.nodup
  fresh changed hc := by
    obtain ⟨data, hd, rfl⟩ := List.mem_map.1 hc
    rw [hid]
    exact h.fresh data hd

theorem Numbered.hostPath (h : Numbered s) (localPath path : Str) :
    Numbered (hostPath localPath path s) where
  nodup := by
    unfold HostPath.hostPath
    dsimp only
    rw [List.map_append, List.nodup_append]
    refine ⟨h.nodup, List.nodup_singleton _, ?_⟩
    rintro _ hold _ hnew rfl
    obtain ⟨data, hd, hid⟩ := List.mem_map.1 hold
    have hlt := h.fresh data hd
    rw [hid, List.mem_singleton.1 hnew] at hlt
    exact Nat.lt_irrefl _ hlt
  fresh data hd := by
    rcases List.mem_append.1 hd with hd | hd
    · exact Nat.lt_succ_of_lt (h.fresh data hd)
    · rw [List.mem_singleton.1 hd]
      exact Nat.lt_succ_self _

theorem hostPathDataSetLanguage_id (data : HostPathData) (language : Str) :
    (hostPathDataSetLanguage data language).id = data.id := by
  unfold hostPathDataSetLanguage
  split <;> rfl

theorem Numbered.step (h : Numbered s) (e : HostPath.Event) : Numbered (HostPath.step s e) := by
  cases e with
  | hostPath localPath path => exact h.hostPath localPath path
  | hostPathForAgent localPath path regex =>
    show Numbered (hostPathForAgent localPath path regex s).2
    unfold hostPathForAgent
    cases s.findPath path with
    | none => exact h
    | some pathData =>
      refine h.map _ fun data => ?_
      split <;> rfl
  | unhostPath path =>
    show Numbered (HostPath.unhostPath path s)
    unfold HostPath.unhostPath
    cases s.findPath path with
    | none => exact h
    | some _ =>
      exact ⟨h.nodup.sublist (List.eraseP_sublist.map _),
        fun data hd => h.fresh data (List.mem_of_mem_eraseP hd)⟩
  | setDefaultLanguage language =>
    show Numbered (HostPath.setDefaultLanguage language s)
    unfold HostPath.setDefaultLanguage
    split
    · exact h
    · exact h.map _ fun data => hostPathDataSetLanguage_id data language

theorem numbered_foldl (es : List HostPath.Event) (h : Numbered s) :
    Numbered (es.foldl HostPath.step s) := by
  induction es generalizing s with
  | nil => exact h
  | cons e es ih => exact ih (h.step e)

theorem mem_of_handler (h : s.handler path = some data) : data ∈ s.hostPathDatas := by
  obtain ⟨id, -, hfind⟩ := Option.bind_eq_some_iff.1 h
  exact List.mem_of_find?_eq_some hfind

/-- The entry that is found by its number stays the first, as long as it is not taken out. -/
theorem find?_eraseP_of_ne {l : List HostPathData} {p : HostPathData → Bool} {id : Nat}
    (hp : ∀ d ∈ l, d.id = id → p d = false) :
    (l.eraseP p).find? (fun d => d.id = id) = l.find? fun d => d.id = id := by
  induction l with
  | nil => rfl
  | cons d l ih =>
    have hrest := ih fun d hd => hp d (List.mem_cons_of_mem _ hd)
    by_cases hid : d.id = id
    · rw [List.eraseP_cons, hp d List.mem_cons_self hid]
      simp only [cond_false, List.find?_cons, hid, decide_true]
    · rw [List.eraseP_cons]
      cases p d with
      | true => simp only [cond_true, List.find?_cons, hid, decide_false]
      | false => simp only [cond_false, List.find?_cons, hid, decide_false, hrest]

/-- A change of the entries that keeps their numbers. -/
theorem handler_map (f : HostPathData → HostPathData) (hid : ∀ data, (f data).id = data.id)
    (language : Str) :
    ContextState.handler { s with hostPathDatas := s.hostPathDatas.map f,
                                  defaultLanguage := language } path =
      (s.handler path).map f := by
  unfold ContextState.handler
  cases s.handlers.lookup path with
  | none => rfl
  | some id =>
    simp only [Option.bind_some, List.find?_map, Function.comp_def, hid]

theorem handler_hostPath (h : s.handler path = some data) {other : Str} (hne : other ≠ path) :
    (hostPath localPath other s).handler path = some data := by
  obtain ⟨id, hid, hfind⟩ := Option.bind_eq_some_iff.1 h
  unfold ContextState.handler HostPath.hostPath
  dsimp only
  rw [AList.lookup_insert_ne hne.symm, hid, Option.bind_some, List.find?_append, hfind]
  rfl

theorem handler_hostPath_self (hn : Numbered s) : (hostPath localPath path s).handler path =
    some ⟨s.nextId, localPath, path, s.defaultLanguage, []⟩ := by
  have hnone : s.hostPathDatas.find? (fun d => d.id = s.nextId) = none :=
    List.find?_eq_none.2 fun d hd => by
      have := hn.fresh d hd
      simp only [decide_eq_true_eq]
      omega
  unfold ContextState.handler HostPath.hostPath
  dsimp only
  rw [AList.lookup_insert, Option.bind_some, List.find?_append, hnone]
  simp

/-- What the application does at other paths leaves the file where it is. -/
theorem ServedAt.step (h : ServedAt s path localPath) (hn : Numbered s) {e : HostPath.Event}
    (he : LeavesAlone path e) : ServedAt (HostPath.step s e) path localPath := by
  obtain ⟨data, hdata, hpath, hlocal, hagents⟩ := h
  have hmem := mem_of_handler hdata
  cases e with
  | hostPath _ other => exact ⟨data, handler_hostPath hdata he, hpath, hlocal, hagents⟩
  | hostPathForAgent agentPath other regex =>
    refine ⟨data, ?_, hpath, hlocal, hagents⟩
    show (hostPathForAgent agentPath other regex s).2.handler path = some data
    unfold hostPathForAgent
    cases hfind : s.findPath other with
    | none => exact hdata
    | some pathData =>
      have hother : pathData.serverPath = other := by simpa using List.find?_some hfind
      have hne : data.id ≠ pathData.id := by
        intro hid
        obtain rfl := List.inj_on_of_nodup_map hn.nodup hmem (List.mem_of_find?_eq_some hfind) hid
        exact he (hother.symm.trans hpath)
      refine (handler_map _ (fun data => ?_) s.defaultLanguage).trans ?_
      · split <;> rfl
      · rw [hdata, Option.map_some, if_neg hne]
  | unhostPath other =>
    refine ⟨data, ?_, hpath, hlocal, hagents⟩
    show (HostPath.unhostPath other s).handler path = some data
    unfold HostPath.unhostPath
    cases s.findPath other with
    | none => exact hdata
    | some _ =>
      obtain ⟨id, hid, hfind⟩ := Option.bind_eq_some_iff.1 hdata
      have hdataId : data.id = id := by simpa using List.find?_some hfind
      unfold ContextState.handler
      dsimp only
      rw [AList.lookup_erase_ne (Ne.symm he), hid, Option.bind_some, find?_eraseP_of_ne, hfind]
      intro d hd hdid
      obtain rfl := List.inj_on_of_nodup_map hn.nodup hmem hd (hdataId.trans hdid.symm)
      exact decide_eq_false fun hx => he (hx.symm.trans hpath)
  | setDefaultLanguage language =>
    show ServedAt (HostPath.setDefaultLanguage language s) path localPath
    unfold HostPath.setDefaultLanguage
    split
    · exact ⟨data, hdata, hpath, hlocal, hagents⟩
    · refine ⟨hostPathDataSetLanguage data language, ?_, ?_, ?_, ?_⟩
      · rw [handler_map _ fun data => hostPathDataSetLanguage_id data language, hdata]
        rfl
      all_goals
        unfold hostPathDataSetLanguage
        split <;> assumption

end

/-! ## A root device that is there -/

section
variable {lib : Libraries} {fs : FileSystem} {properties : Properties} {device : RootDeviceState}
  {context context' : ContextState}

/-- What a root device that is there was made of. -/
structure Initialised (lib : Libraries) (fs : FileSystem) (properties : Properties)
    (context : ContextState) (device : RootDeviceState) (context' : ContextState) (path : Str) :
    Prop where
  document : properties.document.or (loadAndParse lib fs path) = some device.document
  group : registerResources device.document = some device.group
  served : Numbered context → Numbered context' ∧ ServedAt context' device.path path
  last : device.path.getLast? = some 'l'

theorem relativeLocation_getLast (pointer : Str) (udn : Option Str) :
    (relativeLocation pointer udn).getLast? = some 'l' := by
  have hlast : ∀ name : Str, (name ++ ".xml".toList).getLast? = some 'l' := by
    intro name
    rw [List.getLast?_append]
    rfl
  cases udn with
  | none => exact hlast _
  | some udn =>
    unfold relativeLocation
    dsimp only
    split
    · exact hlast _
    · exact hlast _

/-- What comes of a document that has a device. -/
theorem initDocument_ok {pointer path dir uri : Str} {document : Node}
    (h : initDocument lib pointer path dir uri context document = some (.ok (device, context'))) :
    device.document = document ∧ registerResources document = some device.group ∧
    (∃ udn, device.relativeLocation = relativeLocation pointer udn) ∧
    context' = hostPath dir [] (hostPath path device.path context) := by
  unfold initDocument at h
  cases hroot : getElement document ["root".toList] with
  | none =>
    rw [hroot] at h
    cases h
  | some rootElement =>
  rw [hroot] at h
  dsimp only at h
  cases helement : getElement rootElement ["device".toList] with
  | none =>
    rw [helement] at h
    cases h
  | some element =>
  rw [helement] at h
  obtain ⟨resources, hfilled, h⟩ := Option.map_eq_some_iff.1 h
  obtain ⟨rfl, rfl⟩ := Prod.mk.inj (Except.ok.inj h)
  refine ⟨rfl, ?_, ⟨_, rfl⟩, rfl⟩
  unfold registerResources
  rw [hroot, Option.bind_some, helement, Option.bind_some, hfilled, Option.map_some]

/-- A root device that is there read its document, registered what it describes and hosts its file. -/
theorem initialised {descriptionPath descriptionDir : Str}
    (hcontext : properties.context = some context)
    (hpath : properties.descriptionPath = some descriptionPath)
    (hdir : properties.descriptionDir = some descriptionDir)
    (h : initableInit lib fs properties = some (.ok (device, context'))) :
    Initialised lib fs properties context device context'
      (descPath descriptionPath descriptionDir) := by
  unfold initableInit at h
  rw [hcontext, hpath, hdir] at h
  cases hu : lib.serverUri with
  | none =>
    rw [hu] at h
    cases h
  | some uri =>
  rw [hu] at h
  dsimp only at h
  cases hdocument : properties.document.or
      (loadAndParse lib fs (descPath descriptionPath descriptionDir)) with
  | none =>
    rw [hdocument] at h
    cases h
  | some document =>
  rw [hdocument] at h
  obtain ⟨rfl, hgroup, ⟨udn, hrelative⟩, rfl⟩ := initDocument_ok h
  refine ⟨hdocument, hgroup, fun hn => ⟨(hn.hostPath _ _).hostPath _ _, ?_⟩, ?_⟩
  · exact ⟨_, handler_hostPath (handler_hostPath_self hn) (List.cons_ne_nil _ _).symm, rfl, rfl, rfl⟩
  · unfold RootDeviceState.path
    rw [List.getLast?_cons, hrelative, relativeLocation_getLast]
    rfl

end

end GUPnP.RootDevice
