import GUPnP.HostPath.Ranges

/-!
# Files for the languages of a client

Behind the label `AGAIN` the handler tries the local path with the suffix of each locale and then the
path itself. In a file system without folders the loop ends with the first of these that is
there (`tryLocales_select`), whatever the locales are; what it has left of the list tells the language
of the answer (`localised_answer`).
-/

set_option autoImplicit false

namespace GUPnP.HostPath

/-! ## File systems -/

/-- The contents of a file; an `off_t` has 64 bits. -/
structure FileContents where
  bytes : Str
  bound : bytes.length < 2 ^ 63

/-- Why a file that is there cannot be had: `g_stat` fails with `EPERM` or an error other than
`ENOENT`, or the file cannot be mapped. -/
inductive AccessError where
  | notPermitted
  | other
  | unmapped (size : Int)

def AccessError.status : AccessError → Nat
  | notPermitted => 403
  | other => 500
  | unmapped _ => 500

/-- What there is at a path. -/
inductive Entry where
  | regular (file : FileContents)
  | missing
  | error (e : AccessError)

def Entry.isMissing : Entry → Bool
  | missing => true
  | _ => false

abbrev FileSystem := Str → Entry

/-- `g_stat` for an entry. -/
def Entry.stat : Entry → Except Errno Stat
  | regular file => .ok ⟨false, file.bytes.length⟩
  | missing => .error .enoent
  | error .notPermitted => .error .eperm
  | error .other => .error .other
  | error (.unmapped size) => .ok ⟨false, size⟩

/-- What `g_mapped_file_new` maps of an entry. -/
def Entry.mapped : Entry → Option Str
  | regular file => some file.bytes
  | _ => none

/-- A server with the files of the file system. -/
def FileSystem.on (fs : FileSystem) (server : Server) : Server :=
  { server with gStat := fun path => (fs path).stat, mappedFile := fun path => (fs path).mapped }

/-! ## The selection -/

/-- The paths in the order of preference, each with its locale. -/
def candidates (base : Str) (locales : List Str) : List (Str × Option Str) :=
  (locales.map fun locale => (base ++ '.' :: locale, some locale)) ++ [(base, none)]

/-- The first of the paths that is not missing. -/
def select (fs : FileSystem) (base : Str) (locales : List Str) : Option (Str × Option Str) :=
  (candidates base locales).find? fun candidate => !(fs candidate.1).isMissing

/-- The `Content-Language` headers. -/
def languages (response : Response) : List Str :=
  (response.headers.filter fun header => header.1 = "Content-Language".toList).map Prod.snd

/-- The language of a file with this locale, or with none. -/
def languageOf (request : Request) (data : HostPathData) : Option Str → Option Str
  | some locale => some (HttpHeaders.httpLanguageFromLocale locale).1
  | none => if request.acceptLanguage.isSome then some data.defaultLanguage else none

/-- The answer has the file, the range of it that was asked for or its size, and the language. -/
def Has (request : Request) (file : FileContents) (language : Option Str) (response : Response) :
    Prop :=
  match request.method, request.ranges file.bytes.length with
  | .get, none =>
    response.status = 200 ∧ response.body = [some file.bytes] ∧
      languages response = language.toList
  | .get, some range =>
    if file.bytes.length < range.finish ∨ file.bytes.length ≤ range.start ∨
        range.finish < range.start then
      response.status = 416 ∧ response.body = [] ∧ languages response = []
    else
      response.status = 206 ∧
        response.body = [bytesNewFromBytes file.bytes (gsize range.start)
          (gsize (range.finish - range.start + 1))] ∧
        languages response = language.toList
  | .head, _ =>
    response.status = 200 ∧ response.body = [] ∧
      ("Content-Length".toList, CString.printU file.bytes.length) ∈ response.headers ∧
      languages response = language.toList
  | .other, _ => False

/-- The answer has nothing but a status. -/
def Refused (status : Nat) (response : Response) : Prop :=
  response.status = status ∧ response.body = [] ∧ languages response = []

/-- The answer to a request that has this base path and these locales. -/
def Localised (fs : FileSystem) (request : Request) (data : HostPathData) (base : Str)
    (locales : List Str) (response : Response) : Prop :=
  match select fs base locales with
  | none => Refused 404 response
  | some (path, locale) =>
    match fs path with
    | .regular file => Has request file (languageOf request data locale) response
    | .error e => Refused e.status response
    | .missing => False

/-- `host_path_handler` from the label `AGAIN` on. -/
def answerFrom (server : Server) (fuel : Nat) (request : Request) (data : HostPathData)
    (localPath : Str) (locales : List Str) (response : Response) : Option Response :=
  match openPath server request.path fuel localPath locales with
  | none => none
  | some (.status status reason) => some (response.setStatus status reason)
  | some .redirect => some (redirectToFolder request response)
  | some (.directory _ _) => none
  | some (.file pathToOpen locales size) =>
    some (answerFile server request data pathToOpen locales size response)

/-- The response before the label. -/
def begun (server : Server) (request : Request) : Response :=
  (guessAgent server request (connectionClose request .init)).2

variable {server : Server} {request : Request} {data : HostPathData} {fs : FileSystem} {base : Str}
  {response : Response}

/-- The handler goes there with the base path and the locales of the request. -/
theorem hostPathHandler_eq (fuel : Nat) (hmethod : request.method ≠ .other) {indices : List Int}
    {len : Int} (hpath : constructLocalPath server.gRegexMatch request.path
      (guessAgent server request (connectionClose request .init)).1 data =
        .path indices len base) :
    hostPathHandler server fuel request data = answerFrom server fuel request data base
      ((HttpHeaders.httpRequestGetAcceptLocales server.atof request.acceptLanguage).map (·.text))
      (begun server request) := by
  simp only [hostPathHandler, if_neg hmethod, hpath]
  rfl

/-! ## The search -/

/-- How the search ends with an entry. -/
def Entry.found (path : Str) (locales : List Str) : Entry → Found
  | regular file => .file path locales file.bytes.length
  | missing => .status 404 "Not found"
  | error .notPermitted => .status 403 "Forbidden"
  | error .other => .status 500 "Internal server error"
  | error (.unmapped size) => .file path locales size

theorem tryLocales_nil (fs : FileSystem) (server : Server) (base : Str) :
    tryLocales (fs.on server) base [] = (fs base).found base [] := by
  have hstat : (fs.on server).gStat (appendLocale base []) = (fs base).stat := rfl
  rw [tryLocales.eq_def, hstat]
  cases fs base with
  | error e => cases e <;> rfl
  | _ => rfl

theorem tryLocales_cons (fs : FileSystem) (server : Server) (base locale : Str)
    (locales : List Str) :
    tryLocales (fs.on server) base (locale :: locales) =
      if (fs (base ++ '.' :: locale)).isMissing then tryLocales (fs.on server) base locales
      else (fs (base ++ '.' :: locale)).found (base ++ '.' :: locale) (locale :: locales) := by
  have hstat : (fs.on server).gStat (appendLocale base (locale :: locales)) =
      (fs (base ++ '.' :: locale)).stat := rfl
  rw [tryLocales.eq_def, hstat]
  cases fs (base ++ '.' :: locale) with
  | error e => cases e <;> rfl
  | _ => rfl

/-- The loop ends with the first path that is not missing, and has its locale at the head of the
list. -/
theorem tryLocales_select (fs : FileSystem) (server : Server) (base : Str) (locales : List Str) :
    (select fs base locales = none ∧
      tryLocales (fs.on server) base locales = .status 404 "Not found") ∨
    ∃ path rest, select fs base locales = some (path, rest.head?) ∧ (fs path).isMissing = false ∧
      tryLocales (fs.on server) base locales = (fs path).found path rest := by
  induction locales with
  | nil =>
    rw [tryLocales_nil]
    cases hmissing : (fs base).isMissing with
    | true =>
      refine .inl ⟨by simp [select, candidates, hmissing], ?_⟩
      cases h : fs base with
      | missing => rfl
      | _ => rw [h] at hmissing; cases hmissing
    | false => exact .inr ⟨base, [], by simp [select, candidates, hmissing], hmissing, rfl⟩
  | cons locale locales ih =>
    rw [tryLocales_cons]
    cases hmissing : (fs (base ++ '.' :: locale)).isMissing with
    | true =>
      have hnext : select fs base (locale :: locales) = select fs base locales := by
        simp [select, candidates, hmissing]
      rw [if_pos rfl, hnext]
      exact ih
    | false =>
      rw [if_neg Bool.false_ne_true]
      exact .inr ⟨_, locale :: locales, by simp [select, candidates, hmissing], hmissing, rfl⟩

/-- Without folders one round of the loop is enough. -/
theorem openPath_of_found {path base' : Str} {locales rest : List Str} {entry : Entry} (fuel : Nat)
    (h : tryLocales server base locales = entry.found base' rest) :
    openPath server path (fuel + 1) base locales = some (entry.found base' rest) := by
  rw [openPath, h]
  cases entry with
  | error e => cases e <;> rfl
  | _ => rfl

/-! ## The languages of the answer -/

theorem languages_append_of_ne {name : String} (h : name.toList ≠ "Content-Language".toList)
    (value : Str) : languages (response.append name value) = languages response := by
  simp only [languages, Response.append, List.filter_append, List.filter_cons, h, decide_false,
    Bool.false_eq_true, ↓reduceIte, List.filter_nil, List.append_nil]

theorem languages_append (value : Str) :
    languages (response.append "Content-Language" value) = languages response ++ [value] := by
  simp only [languages, Response.append, List.filter_append, List.filter_cons, decide_true,
    ↓reduceIte, List.filter_nil, List.map_append, List.map_cons, List.map_nil]

theorem languages_replace_of_ne {name : String} (h : name.toList ≠ "Content-Language".toList)
    (value : Str) : languages (response.replace name value) = languages response := by
  have hkeep : ∀ header ∈ response.headers, (decide (header.1 = "Content-Language".toList) &&
      decide (header.1 ≠ name.toList)) = decide (header.1 = "Content-Language".toList) := by
    intro header _
    by_cases hheader : header.1 = "Content-Language".toList
    · rw [hheader, decide_eq_true h.symm, Bool.and_true]
    · rw [decide_eq_false hheader, Bool.false_and]
  simp only [languages, Response.replace, List.filter_append, List.filter_cons, h, decide_false,
    Bool.false_eq_true, ↓reduceIte, List.filter_nil, List.append_nil, List.filter_filter]
  rw [List.filter_congr hkeep]

theorem languages_begun (server : Server) (request : Request) :
    languages (begun server request) = [] := by
  have hclose : languages (connectionClose request .init) = [] := by
    unfold connectionClose
    split
    · exact languages_append_of_ne (by decide) _
    · rfl
  unfold begun guessAgent updateClientCache
  split
  · dsimp only
    split <;> exact hclose
  · split
    · exact hclose
    · exact (languages_append_of_ne (by decide) _).trans hclose

theorem body_begun (server : Server) (request : Request) : (begun server request).body = [] := by
  rw [begun, guessAgent_body, connectionClose_body]
  rfl

theorem languages_setContentLanguage (locales : List Str) :
    languages (setContentLanguage request data locales response) =
      languages response ++ (languageOf request data locales.head?).toList := by
  cases locales with
  | nil =>
    unfold setContentLanguage languageOf
    dsimp only [List.head?_nil]
    split
    · exact languages_append _
    · exact (List.append_nil _).symm
  | cons locale locales => exact languages_append _

/-- `finish` gives a response without a language that of the file. -/
theorem languages_finish {pathToOpen contents : Str} (locales : List Str) (status : Nat)
    (h : languages response = []) :
    languages (finish server request data pathToOpen contents locales status response) =
      (languageOf request data locales.head?).toList := by
  show languages (Response.append _ "Accept-Ranges" _) = _
  rw [languages_append_of_ne (by decide), languages_setContentLanguage, setContentType,
    languages_append_of_ne (by decide), h, List.nil_append]

/-! ## The answer -/

theorem answerFile_has {path : Str} {file : FileContents} (hfile : fs path = .regular file)
    (hmethod : request.method ≠ .other) (locales : List Str) (hbody : response.body = [])
    (hlanguages : languages response = []) :
    Has request file (languageOf request data locales.head?)
      (answerFile (fs.on server) request data path locales file.bytes.length response) := by
  have hmap : (fs.on server).mappedFile path = some file.bytes := by
    show (fs path).mapped = _
    rw [hfile]
    rfl
  have hfinish (status : Nat) (r : Response) := finish_spec (fs.on server) request data path
    file.bytes locales status r
  unfold Has answerFile
  rw [hmap]
  cases hm : request.method with
  | other => exact absurd hm hmethod
  | head =>
    have hsize : gsize file.bytes.length = file.bytes.length := by
      have := file.bound
      unfold gsize
      omega
    dsimp only
    rw [hsize]
    obtain ⟨hstatus, hsame, rest, hheaders⟩ := hfinish 200
      (response.append "Content-Length" (CString.printU file.bytes.length))
    refine ⟨hstatus, hsame.trans hbody, ?_, languages_finish locales 200 ?_⟩
    · rw [hheaders]
      exact List.mem_append_left rest (List.mem_append_right _ (List.mem_singleton.2 rfl))
    · exact (languages_append_of_ne (by decide) _).trans hlanguages
  | get =>
    cases hr : request.ranges file.bytes.length with
    | none =>
      obtain ⟨hstatus, hsame, -⟩ := hfinish 200 (response.appendBytes (some file.bytes))
      refine ⟨hstatus, hsame.trans ?_, languages_finish locales 200 hlanguages⟩
      rw [Response.appendBytes, hbody]
      rfl
    | some range =>
      have hguard : ((file.bytes.length : Int) < range.finish ∨ (file.bytes.length : Int) < 0 ∨
          file.bytes.length ≤ range.start ∨ range.finish < range.start) ↔
            (file.bytes.length < range.finish ∨ file.bytes.length ≤ range.start ∨
              range.finish < range.start) := by omega
      dsimp only
      simp only [hguard]
      split
      · exact ⟨rfl, hbody, hlanguages⟩
      · obtain ⟨hstatus, hsame, -⟩ := hfinish 206
          (({ response with body := [] }.replace "Content-Range"
            (contentRange range.start range.finish file.bytes.length)).appendBytes
              (bytesNewFromBytes file.bytes (gsize range.start)
                (gsize (range.finish - range.start + 1))))
        refine ⟨hstatus, hsame, languages_finish locales 206 ?_⟩
        exact (languages_replace_of_ne (by decide) _).trans hlanguages

theorem refused_setStatus {status : Nat} (reason : String) (hbody : response.body = [])
    (hlanguages : languages response = []) : Refused status (response.setStatus status reason) :=
  ⟨rfl, hbody, hlanguages⟩

/-- The answer is that of the first path that is not missing. -/
theorem answerFrom_localised (fs : FileSystem) (server : Server) (fuel : Nat) (request : Request)
    (data : HostPathData) (base : Str) (locales : List Str) (hmethod : request.method ≠ .other) :
    ∃ response, answerFrom (fs.on server) (fuel + 1) request data base locales
        (begun server request) = some response ∧
      Localised fs request data base locales response := by
  have hbody := body_begun server request
  have hlanguages := languages_begun server request
  unfold Localised answerFrom
  rcases tryLocales_select fs server base locales with
    ⟨hselect, hsearch⟩ | ⟨path, rest, hselect, hthere, hsearch⟩
  · have hnone : tryLocales (fs.on server) base locales = Entry.missing.found base [] := hsearch
    rw [openPath_of_found fuel hnone, hselect]
    exact ⟨_, rfl, refused_setStatus _ hbody hlanguages⟩
  · rw [openPath_of_found fuel hsearch, hselect]
    dsimp only
    cases hentry : fs path with
    | missing => rw [hentry] at hthere; cases hthere
    | regular file => exact ⟨_, rfl, answerFile_has hentry hmethod rest hbody hlanguages⟩
    | error e =>
      cases e with
      | notPermitted => exact ⟨_, rfl, refused_setStatus _ hbody hlanguages⟩
      | other => exact ⟨_, rfl, refused_setStatus _ hbody hlanguages⟩
      | unmapped size =>
        have hmap : (fs.on server).mappedFile path = none := by
          show (fs path).mapped = none
          rw [hentry]
          rfl
        refine ⟨_, rfl, ?_⟩
        unfold answerFile
        rw [hmap]
        exact refused_setStatus _ hbody hlanguages

/-- The locales of a request. -/
def acceptLocales (server : Server) (request : Request) : List Str :=
  (HttpHeaders.httpRequestGetAcceptLocales server.atof request.acceptLanguage).map (·.text)

/-- **The loop ends, and the answer is that of the first path that is not missing**: its file in its
language, or the error that there is. So it is for any base path and locales, and for those that the
handler makes of a request. -/
theorem localised_answer (fs : FileSystem) (server : Server) (fuel : Nat) (request : Request)
    (data : HostPathData) (hmethod : request.method ≠ .other) :
    (∀ base locales, ∃ response,
      answerFrom (fs.on server) (fuel + 1) request data base locales (begun server request) =
        some response ∧
      Localised fs request data base locales response) ∧
    ∀ indices len base,
      constructLocalPath server.gRegexMatch request.path
          (guessAgent server request (connectionClose request .init)).1 data =
        .path indices len base →
      ∃ response, hostPathHandler (fs.on server) (fuel + 1) request data = some response ∧
        Localised fs request data base (acceptLocales server request) response := by
  refine ⟨fun base locales => answerFrom_localised fs server fuel request data base locales hmethod,
    fun indices len base hpath => ?_⟩
  have hpath' : constructLocalPath (fs.on server).gRegexMatch request.path
      (guessAgent (fs.on server) request (connectionClose request .init)).1 data =
    .path indices len base := hpath
  rw [hostPathHandler_eq (fuel + 1) hmethod hpath']
  exact answerFrom_localised fs server fuel request data base _ hmethod

/-- A file in German, and nothing else. -/
def germanFiles : FileSystem := fun path =>
  if path = "/srv/a.de".toList then .regular ⟨"hallo".toList, by decide⟩ else .missing

/-- A request from Austria. -/
def austrianRequest : Request :=
  ⟨.get, false, "/a".toList, "http://10.0.0.1/a".toList, "10.0.0.9".toList, none,
    some "de-AT, de".toList, fun _ => none⟩

theorem localised_answer_german : ∃ response,
    answerFrom (germanFiles.on sampleServer) 1 austrianRequest sampleData "/srv/a".toList
      ["de_AT".toList, "de".toList] (begun sampleServer austrianRequest) = some response ∧
    response.body = [some "hallo".toList] ∧ languages response = ["de".toList] := by
  obtain ⟨response, hanswer, hlocalised⟩ := (localised_answer germanFiles sampleServer 0
    austrianRequest sampleData (by decide)).1 "/srv/a".toList ["de_AT".toList, "de".toList]
  have hselect : select germanFiles "/srv/a".toList ["de_AT".toList, "de".toList] =
      some ("/srv/a.de".toList, some "de".toList) := rfl
  have hfile : germanFiles "/srv/a.de".toList = .regular ⟨"hallo".toList, by decide⟩ := rfl
  unfold Localised at hlocalised
  rw [hselect] at hlocalised
  dsimp only at hlocalised
  rw [hfile] at hlocalised
  obtain ⟨-, hbody, hlanguage⟩ := hlocalised
  exact ⟨response, hanswer, hbody, hlanguage⟩

end GUPnP.HostPath
