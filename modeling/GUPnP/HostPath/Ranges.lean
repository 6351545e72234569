import GUPnP.HostPath.Handler

/-!
# Ranges of hosted files

What the handler answers to a request for a range of a file. The guard of `host_path_handler` lets
through a range that ends right behind the file and one that starts before it; `ranges_kept_iff` says
that these are all it answers wrongly. `openPath_isSome` says that the search for the file ends.
-/

set_option autoImplicit false

namespace GUPnP.HostPath

/-! ## Ranges -/

/-- The answer is that the range is none of the file, or it is the range. -/
def RangeKept (contents : Str) (range : SoupRange) (response : Response) : Prop :=
  (response.status = 416 ∧ response.body = []) ∨
    ∃ start finish : Nat, range.start = start ∧ range.finish = finish ∧ start ≤ finish ∧
      finish < contents.length ∧ finish - start + 1 ≤ contents.length ∧ response.status = 206 ∧
      response.body = [some ((contents.drop start).take (finish - start + 1))] ∧
      response.header "Content-Range" = some (contentRange start finish contents.length)

/-- The guard lets the range through, but it does not lie in the file. -/
def SlipsThrough (contents : Str) (range : SoupRange) : Prop :=
  range.start < contents.length ∧ range.finish ≤ contents.length ∧
    (range.start < 0 ∨ range.finish = contents.length)

/-- The handler comes to a file with these contents, and the request is for this range of it. -/
structure Serves (server : Server) (fuel : Nat) (request : Request) (data : HostPathData)
    (contents : Str) (range : SoupRange) : Prop where
  get : request.method = .get
  opens : ∃ indices len localPath pathToOpen locales,
    constructLocalPath server.gRegexMatch request.path
      (guessAgent server request (connectionClose request .init)).1 data =
        .path indices len localPath ∧
    openPath server request.path fuel localPath
      ((HttpHeaders.httpRequestGetAcceptLocales server.atof request.acceptLanguage).map (·.text)) =
        some (.file pathToOpen locales contents.length) ∧
    server.mappedFile pathToOpen = some contents
  length : contents.length < 2 ^ 63
  ranges : request.ranges contents.length = some range
  le : range.start ≤ range.finish

section
variable {server : Server} {request : Request} {data : HostPathData} {contents pathToOpen : Str}
  {locales : List Str} {range : SoupRange} {response : Response}

theorem lookup_replace (response : Response) (name : String) (value : Str)
    (rest : List (Str × Str)) :
    ((response.replace name value).headers ++ rest).lookup name.toList = some value := by
  rw [Response.replace, List.append_assoc]
  generalize response.headers = headers
  induction headers with
  | nil => simp
  | cons header headers ih =>
    by_cases h : header.1 = name.toList
    · simpa [h] using ih
    · rw [List.filter_cons_of_pos (by simpa using h), List.cons_append, List.lookup_cons, ih]
      have hne : (name.toList == header.1) = false := by simpa using Ne.symm h
      rw [hne]

/-- The second response is the first with more headers. -/
def Extends (r r' : Response) : Prop := r'.body = r.body ∧ ∃ rest, r'.headers = r.headers ++ rest

theorem Extends.trans {r r' r'' : Response} (h : Extends r r') (h' : Extends r' r'') :
    Extends r r'' := by
  obtain ⟨hbody, rest, hheaders⟩ := h
  obtain ⟨hbody', rest', hheaders'⟩ := h'
  exact ⟨hbody'.trans hbody, rest ++ rest', by rw [hheaders', hheaders, List.append_assoc]⟩

theorem extends_append (r : Response) (name : String) (value : Str) :
    Extends r (r.append name value) := ⟨rfl, _, rfl⟩

theorem extends_setContentLanguage (request : Request) (data : HostPathData) (locales : List Str)
    (r : Response) : Extends r (setContentLanguage request data locales r) := by
  unfold setContentLanguage
  split
  · exact extends_append r "Content-Language" _
  split
  · exact extends_append r "Content-Language" _
  · exact ⟨rfl, [], (List.append_nil _).symm⟩

/-- `finish` sets the status and adds headers. -/
theorem finish_spec (server : Server) (request : Request) (data : HostPathData)
    (pathToOpen contents : Str) (locales : List Str) (status : Nat) (response : Response) :
    (finish server request data pathToOpen contents locales status response).status = status ∧
      Extends response (finish server request data pathToOpen contents locales status response) := by
  have htype : Extends response (setContentType server pathToOpen contents response) :=
    extends_append response "Content-Type" _
  have hall := (htype.trans (extends_setContentLanguage request data locales _)).trans
    (extends_append _ "Accept-Ranges" "bytes".toList)
  exact ⟨rfl, hall.1, hall.2⟩

theorem gsize_of_nat {n : Nat} (h : n < 2 ^ 64) : gsize n = n := by
  unfold gsize
  omega

theorem guessAgent_body (response : Response) :
    (guessAgent server request response).2.body = response.body := by
  unfold guessAgent updateClientCache
  split
  · simp only
    split <;> rfl
  · split <;> rfl

theorem connectionClose_body (response : Response) :
    (connectionClose request response).body = response.body := by
  unfold connectionClose
  split <;> rfl

/-- The answer to a request for a range, of a response without a body. -/
theorem answerFile_iff (hget : request.method = .get)
    (hmap : server.mappedFile pathToOpen = some contents) (hlength : contents.length < 2 ^ 63)
    (hrange : request.ranges contents.length = some range) (hle : range.start ≤ range.finish)
    (hbody : response.body = []) :
    RangeKept contents range
        (answerFile server request data pathToOpen locales contents.length response) ↔
      ¬ SlipsThrough contents range := by
  have hstart := range.startBound
  have hfinish := range.finishBound
  simp only [answerFile, hmap, hget, hrange, SlipsThrough]
  split
  · rename_i hguard
    refine iff_of_true (.inl ⟨rfl, hbody⟩) ?_
    omega
  · rename_i hguard
    rw [not_or, not_or, not_or] at hguard
    by_cases hin : 0 ≤ range.start ∧ range.finish < contents.length
    · obtain ⟨start, hs⟩ := Int.eq_ofNat_of_zero_le hin.1
      obtain ⟨stop, hf⟩ := Int.eq_ofNat_of_zero_le (show 0 ≤ range.finish by omega)
      have hslice : bytesNewFromBytes contents (gsize range.start)
          (gsize (range.finish - range.start + 1)) =
            some ((contents.drop start).take (stop - start + 1)) := by
        rw [show range.finish - range.start + 1 = (stop - start + 1 : Nat) by omega, hs,
          gsize_of_nat (by omega), gsize_of_nat (by omega), bytesNewFromBytes, if_pos (by omega)]
      refine iff_of_true (.inr ⟨start, stop, hs, hf, by omega, by omega, by omega, ?_⟩) (by omega)
      rw [hslice, hs, hf]
      obtain ⟨hstatus, hbody', rest, hheaders⟩ := finish_spec server request data pathToOpen
        contents locales 206 (({ response with body := [] }.replace "Content-Range"
          (contentRange start stop contents.length)).appendBytes
            (some ((contents.drop start).take (stop - start + 1))))
      refine ⟨hstatus, hbody', ?_⟩
      rw [Response.header, hheaders]
      exact lookup_replace _ _ _ rest
    · refine iff_of_false ?_ (by omega)
      rintro (⟨hstatus, -⟩ | ⟨start, stop, hs, hf, -, hlt, -⟩)
      · rw [(finish_spec ..).1] at hstatus
        exact absurd hstatus (by decide)
      · omega

end

/-- The handler that comes to a file answers with the range, or that the file has none such, unless the
range slips through its guard. -/
theorem ranges_kept_iff {server : Server} {fuel : Nat} {request : Request} {data : HostPathData}
    {contents : Str} {range : SoupRange} (h : Serves server fuel request data contents range) :
    ∃ response, hostPathHandler server fuel request data = some response ∧
      (RangeKept contents range response ↔ ¬ SlipsThrough contents range) := by
  obtain ⟨indices, len, localPath, pathToOpen, locales, hpath, hopen, hmap⟩ := h.opens
  have hbody : (guessAgent server request (connectionClose request .init)).2.body = [] := by
    rw [guessAgent_body, connectionClose_body]
    rfl
  have hget : request.method ≠ .other := by simp [h.get]
  have hanswer : hostPathHandler server fuel request data = some (answerFile server request data
      pathToOpen locales contents.length (guessAgent server request
        (connectionClose request .init)).2) := by
    simp only [hostPathHandler, if_neg hget, hpath, hopen]
  exact ⟨_, hanswer, answerFile_iff h.get hmap h.length h.ranges h.le hbody⟩

/-- A server with one file of five bytes. -/
def sampleServer : Server where
  gRegexMatch _ _ := false
  guessUserAgent _ := none
  gStat path := if path = "/srv/a".toList then .ok ⟨false, 5⟩ else .error .enoent
  mappedFile path := if path = "/srv/a".toList then some "hello".toList else none
  mimeType _ _ := none
  atof _ := 0

/-- A request for a range, in whatever file. -/
def sampleRequest (range : SoupRange) : Request :=
  ⟨.get, false, "/a".toList, "http://10.0.0.1/a".toList, "10.0.0.9".toList, none, none,
    fun _ => some range⟩

def sampleData : HostPathData := ⟨0, "/srv".toList, [], [], []⟩

theorem constructLocalPath_sample : constructLocalPath (fun _ _ => false) "/a".toList none sampleData =
    .path [1] 2 "/srv/a".toList := by
  decide +kernel

theorem sample_serves (range : SoupRange) (h : range.start ≤ range.finish) :
    Serves sampleServer 1 (sampleRequest range) sampleData "hello".toList range where
  get := rfl
  opens := ⟨[1], 2, "/srv/a".toList, "/srv/a".toList, [], constructLocalPath_sample, by rfl, by decide⟩
  length := by decide
  ranges := rfl
  le := h

theorem ranges_kept_iff_sample : ∃ response,
    hostPathHandler sampleServer 1 (sampleRequest ⟨1, 4, by decide, by decide⟩) sampleData =
      some response ∧
    RangeKept "hello".toList ⟨1, 4, by decide, by decide⟩ response := by
  obtain ⟨response, hresponse, hiff⟩ :=
    ranges_kept_iff (sample_serves ⟨1, 4, by decide, by decide⟩ (by decide))
  exact ⟨response, hresponse, hiff.2 (by unfold SlipsThrough; decide)⟩

/-- The last byte asked for is the one behind the file: there is no such slice. -/
theorem range_behind_file : ∃ response,
    hostPathHandler sampleServer 1 (sampleRequest ⟨0, 5, by decide, by decide⟩) sampleData =
      some response ∧
    response.status = 206 ∧ response.body = [none] ∧
    response.header "Content-Range" = some "bytes 0-5/5".toList ∧
    ¬ RangeKept "hello".toList ⟨0, 5, by decide, by decide⟩ response := by
  refine ⟨_, rfl, by decide, by decide, by decide, ?_⟩
  rintro (⟨hstatus, -⟩ | ⟨start, stop, -, hstop, -, hlt, -⟩)
  · exact absurd hstatus (by decide)
  · have hfive : (5 : Int) = stop := hstop
    have hlength : stop < 5 := hlt
    omega

/-! ## The search ends -/

theorem tryLocales_directory {server : Server} {localPath pathToOpen : Str} {locales rest : List Str}
    (h : tryLocales server localPath locales = .directory pathToOpen rest) :
    localPath <+: pathToOpen ∧ ∃ st, server.gStat pathToOpen = .ok st := by
  induction locales with
  | nil =>
    unfold tryLocales at h
    split at h
    · rename_i st hstat
      split at h
      · cases h
        exact ⟨List.prefix_refl _, st, hstat⟩
      · cases h
    · cases h
    · rename_i hnil
      cases hnil
    all_goals cases h
  | cons locale locales ih =>
    unfold tryLocales at h
    split at h
    · rename_i st hstat
      split at h
      · cases h
        exact ⟨List.prefix_append _ _, st, hstat⟩
      · cases h
    · cases h
    · rename_i hcons
      cases hcons
      exact ih h
    all_goals cases h

/-- The name comes behind all of the folder but its last slashes. -/
theorem buildFilename_spec {localPath folder : Str} (name : Str) (hname : name ≠ [])
    (hpre : localPath <+: folder) (hlast : localPath.getLast? ≠ some '/') :
    localPath.length < (buildFilename folder name).length ∧
      (buildFilename folder name).getLast? = name.getLast? := by
  have hpos := List.length_pos_iff.2 hname
  have hstay : localPath.reverse.dropWhile (· = '/') = localPath.reverse := by
    rw [← List.head?_reverse] at hlast
    cases hrev : localPath.reverse with
    | nil => rfl
    | cons c rest =>
      have hc : c ≠ '/' := by simpa [hrev] using hlast
      simp [hc]
  have hlen : localPath.length ≤ ((folder.reverse.dropWhile (· = '/')).reverse).length := by
    obtain ⟨rest, rfl⟩ := hpre
    rw [List.reverse_append, List.dropWhile_append, hstay]
    split <;> simp
  unfold buildFilename
  simp only
  split
  · rename_i hnil
    rw [hnil] at hlen
    refine ⟨?_, List.getLast?_append_of_ne_nil _ hname⟩
    simp only [List.length_nil, List.length_append] at hlen ⊢
    omega
  · refine ⟨?_, ?_⟩
    · simp only [List.length_append, List.length_cons]
      omega
    · rw [List.getLast?_append_of_ne_nil _ (by simp), List.getLast?_cons]
      simp [List.getLast?_eq_some_getLast hname]

theorem openPath_isSome_of_getLast {server : Server} {limit : Nat}
    (hlong : ∀ path : Str, limit < path.length → server.gStat path = .error .other) (path : Str)
    (fuel : Nat) (localPath : Str) (locales : List Str) (hlast : localPath.getLast? ≠ some '/')
    (hfuel : limit < localPath.length + fuel) :
    (openPath server path (fuel + 1) localPath locales).isSome = true := by
  induction fuel generalizing localPath locales with
  | zero =>
    rw [openPath]
    split
    · rename_i h
      obtain ⟨hpre, st, hstat⟩ := tryLocales_directory h
      have := hpre.length_le
      rw [hlong _ (by omega)] at hstat
      cases hstat
    · rfl
  | succ fuel ih =>
    rw [openPath]
    split
    · rename_i pathToOpen rest h
      split
      · obtain ⟨hpre, -⟩ := tryLocales_directory h
        obtain ⟨hlen, hend⟩ := buildFilename_spec "index.html".toList (by decide) hpre hlast
        refine ih _ _ ?_ (by omega)
        rw [hend]
        decide
      · rfl
    · rfl

/-- Where the file system has no paths beyond some length the search for a file ends. -/
theorem openPath_isSome {server : Server} {limit : Nat}
    (hlong : ∀ path : Str, limit < path.length → server.gStat path = .error .other) (path : Str)
    (localPath : Str) (locales : List Str) :
    (openPath server path (limit + 3) localPath locales).isSome = true := by
  rw [openPath]
  split
  · rename_i pathToOpen rest h
    split
    · obtain ⟨hlen, hend⟩ := buildFilename_spec "index.html".toList (by decide)
        (List.nil_prefix (l := pathToOpen)) (by decide)
      refine openPath_isSome_of_getLast hlong path _ _ _ ?_ (by omega)
      rw [hend]
      decide
    · rfl
  · rfl

end GUPnP.HostPath
