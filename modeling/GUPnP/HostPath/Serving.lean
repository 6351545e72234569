import GUPnP.HostPath.Hosting
import GUPnP.HostPath.LocalPath
import GUPnP.HostPath.Localised

/-!
# What is hosted is what is served

An application hosts local files and folders in whatever order, and a client asks for a path below one
that is hosted: the answer has the file below the local path of that hosting, in a language of the client
(`hosted_served`). A client that asks for a file in pieces, each beginning where the one before ended,
puts the file together from them (`Tiles.download`).
-/

set_option autoImplicit false

namespace GUPnP.HostPath

/-! ## The local path of a request -/

section
variable {path rest : Str} {k : Nat} {data : HostPathData}

theorem withoutSlashes_of_forall (h : ∀ c ∈ rest, c = '/') : withoutSlashes rest = [] := by
  unfold withoutSlashes
  rw [List.rdropWhile_eq_nil_iff]
  intro c hc
  exact decide_eq_true (h c hc)

/-- Where only slashes come after a server path that does not end in one, none of them is kept. -/
theorem stripSlashes_of_last {c : Char} (hlast : path.getLast? = some c) (hc : c ≠ '/')
    (hk : k ≤ rest.length) (h : ∀ c ∈ rest.take k, c = '/') :
    (stripSlashes (path ++ rest) path.length (path.length + k)).2 = some 0 := by
  induction k with
  | zero =>
    obtain ⟨init, rfl⟩ := List.getLast?_eq_some_iff.1 hlast
    have hget : (init ++ [c] ++ rest)[init.length]? = some c := by
      rw [List.append_assoc, List.getElem?_append_right (le_refl _), Nat.sub_self]
      rfl
    rw [Nat.add_zero, List.length_append, List.length_singleton, stripSlashes, hget,
      if_neg (fun hx => hc (Option.some.inj hx))]
    have hindex : (init.length : Int) - (init.length + 1 : Nat) + 1 = 0 := by omega
    exact congrArg some hindex
  | succ k ih =>
    have hget : (path ++ rest)[path.length + k]? = some rest[k] := by
      rw [List.getElem?_append_right (by omega), Nat.add_sub_cancel_left, List.getElem?_eq_getElem]
    have hslash : rest[k] = '/' := by
      refine h _ ?_
      rw [← List.take_append_getElem hk]
      exact List.mem_append_right _ (List.mem_singleton.2 rfl)
    have hbefore := ih (by omega) fun c hc => h c (List.take_subset_take_left _ (by omega) hc)
    rw [← Nat.add_assoc, stripSlashes, hget, if_pos (congrArg some hslash)]
    exact hbefore

/-- The request has a name of less than 2 GiB below the server path, or it is for the server path itself,
which does not end in a slash. -/
structure Names (path rest : Str) : Prop where
  length_lt : rest.length < 2 ^ 31
  named : (∃ c ∈ rest, c ≠ '/') ∨ ∃ c, path.getLast? = some c ∧ c ≠ '/'

theorem constructLocalPath_of_names (gRegexMatch : Str → Str → Bool) (userAgent : Option Str)
    (habsolute : (data.serverPath ++ rest).head? = some '/')
    (h : Names data.serverPath rest) : ∃ indices len,
      constructLocalPath gRegexMatch (data.serverPath ++ rest) userAgent data =
        .path indices len (agentPath gRegexMatch userAgent data ++ withoutSlashes rest) := by
  have hdrop : (data.serverPath ++ rest).drop data.serverPath.length = rest := List.drop_left
  obtain ⟨indices, len, hstrip, happend⟩ : ∃ indices len,
      stripSlashes (data.serverPath ++ rest) data.serverPath.length
        (data.serverPath.length + rest.length) = (indices, some len) ∧
      ∀ base, appendLen base rest len = base ++ withoutSlashes rest := by
    generalize hresult : stripSlashes (data.serverPath ++ rest) data.serverPath.length
      (data.serverPath.length + rest.length) = result
    obtain ⟨indices, len⟩ := result
    by_cases hrest : ∃ c ∈ rest, c ≠ '/'
    · obtain ⟨hlen, -⟩ := stripSlashes_of_exists hdrop.symm (le_refl rest.length)
        (List.take_length.symm ▸ hrest)
      rw [hresult] at hlen
      obtain rfl : len = _ := hlen
      refine ⟨_, _, rfl, fun base => ?_⟩
      rw [appendLen_withoutSlashes, List.take_length]
    · obtain ⟨c, hlast, hc⟩ := h.named.resolve_left hrest
      have hslashes : ∀ c ∈ rest, c = '/' := fun c hc => by_contra fun hne => hrest ⟨c, hc, hne⟩
      have hlen := stripSlashes_of_last hlast hc (le_refl rest.length)
        fun c hc => hslashes c (List.mem_of_mem_take hc)
      rw [hresult] at hlen
      obtain rfl : len = _ := hlen
      refine ⟨_, _, rfl, fun base => ?_⟩
      rw [withoutSlashes_of_forall hslashes]
      rfl
  refine ⟨indices, len, ?_⟩
  have hlen : (data.serverPath.length : Int) + rest.length =
      (data.serverPath.length + rest.length : Nat) := (Int.natCast_add _ _).symm
  rw [constructLocalPath_eq gRegexMatch userAgent data habsolute, intLength_of_lt h.length_lt, hlen,
    if_neg (Int.not_lt.2 (Int.natCast_nonneg _)), Int.toNat_natCast, hstrip]
  exact congrArg _ (happend _)

end

/-! ## The answer to a request -/

section
variable {fs : FileSystem} {server : Server} {request : Request} {data : HostPathData}
  {fuel : Nat} {path rest base : Str} {file : FileContents} {range : SoupRange}
  {ranges : List SoupRange}

/-- The agent that the handler goes by. -/
def agentOf (server : Server) (request : Request) : Option Str :=
  (guessAgent server request (connectionClose request .init)).1

/-- The path without the suffix for a language. -/
def localPathOf (server : Server) (request : Request) (data : HostPathData) (rest : Str) : Str :=
  agentPath server.gRegexMatch (agentOf server request) data ++ withoutSlashes rest

theorem handled (fs : FileSystem) (server : Server) (fuel : Nat) (request : Request)
    (hmethod : request.method ≠ .other)
    (hpath : request.path = data.serverPath ++ rest) (habsolute : request.path.head? = some '/')
    (hnames : Names data.serverPath rest) : ∃ response,
      hostPathHandler (fs.on server) (fuel + 1) request data = some response ∧
      Localised fs request data (localPathOf server request data rest)
        (acceptLocales server request) response := by
  rw [hpath] at habsolute
  obtain ⟨indices, len, hlocal⟩ := constructLocalPath_of_names server.gRegexMatch
    (agentOf server request) habsolute hnames
  rw [← hpath] at hlocal
  rw [hostPathHandler_eq (fuel + 1) hmethod (show constructLocalPath (fs.on server).gRegexMatch
    request.path (guessAgent (fs.on server) request (connectionClose request .init)).1 data = _ from
      hlocal)]
  exact answerFrom_localised fs server fuel request data _ _ hmethod

/-! ## Pieces -/

/-- The request for a range. -/
def Request.piece (request : Request) (range : SoupRange) : Request :=
  { request with ranges := fun _ => some range }

/-- What a client gets for a range. -/
def fetch (server : Server) (fuel : Nat) (request : Request) (data : HostPathData)
    (range : SoupRange) : Option Str :=
  (hostPathHandler server fuel (request.piece range) data).bind fun response =>
    if response.status = 206 then response.body.head?.join else none

/-- What it puts together from several. -/
def download (server : Server) (fuel : Nat) (request : Request) (data : HostPathData)
    (ranges : List SoupRange) : Option Str :=
  (ranges.mapM (fetch server fuel request data)).map List.flatten

/-- The ranges cover a file of this size from a place on, each beginning where the one before ends. -/
inductive Tiles (size : Nat) : Nat → List SoupRange → Prop
  | done : Tiles size size []
  | next {start finish : Nat} {range : SoupRange} {ranges : List SoupRange} :
      range.start = start → range.finish = finish → start ≤ finish → finish < size →
      Tiles size (finish + 1) ranges → Tiles size start (range :: ranges)

/-- A range of the file. -/
theorem fetch_eq {start finish : Nat} (hget : request.method = .get)
    (hpath : request.path = data.serverPath ++ rest) (habsolute : request.path.head? = some '/')
    (hnames : Names data.serverPath rest) {found : Str} {locale : Option Str}
    (hselect : select fs (localPathOf server request data rest) (acceptLocales server request) =
      some (found, locale))
    (hfile : fs found = .regular file) (hstart : range.start = start) (hfinish : range.finish = finish)
    (hle : start ≤ finish) (hlt : finish < file.bytes.length) :
    fetch (fs.on server) (fuel + 1) request data range =
      some ((file.bytes.drop start).take (finish - start + 1)) := by
  obtain ⟨response, hanswer, hlocalised⟩ := handled fs server fuel (request.piece range)
    (by rw [show (request.piece range).method = .get from hget]; nofun) hpath habsolute hnames
  unfold Localised at hlocalised
  rw [show select fs (localPathOf server (request.piece range) data rest)
    (acceptLocales server (request.piece range)) = some (found, locale) from hselect] at hlocalised
  dsimp only at hlocalised
  rw [hfile] at hlocalised
  dsimp only at hlocalised
  unfold Has at hlocalised
  rw [show (request.piece range).method = .get from hget,
    show (request.piece range).ranges file.bytes.length = some range from rfl] at hlocalised
  dsimp only at hlocalised
  rw [if_neg (by omega)] at hlocalised
  obtain ⟨hstatus, hbody, -⟩ := hlocalised
  have hbound := file.bound
  have hfrom : gsize range.start = start := by
    rw [hstart]
    exact gsize_of_nat (by omega)
  have hcount : gsize (range.finish - range.start + 1) = finish - start + 1 := by
    rw [hstart, hfinish, show (finish : Int) - start + 1 = (finish - start + 1 : Nat) by omega]
    exact gsize_of_nat (by omega)
  unfold fetch
  rw [hanswer, Option.bind_some, if_pos hstatus, hbody, hfrom, hcount, bytesNewFromBytes,
    if_pos ⟨by omega, by omega⟩]
  rfl

/-- The pieces of a file from a place on. -/
theorem Tiles.download {start : Nat} (h : Tiles file.bytes.length start ranges)
    (hget : request.method = .get) (hpath : request.path = data.serverPath ++ rest)
    (habsolute : request.path.head? = some '/') (hnames : Names data.serverPath rest) {found : Str}
    {locale : Option Str}
    (hselect : select fs (localPathOf server request data rest) (acceptLocales server request) =
      some (found, locale))
    (hfile : fs found = .regular file) :
    HostPath.download (fs.on server) (fuel + 1) request data ranges =
      some (file.bytes.drop start) := by
  unfold HostPath.download
  induction h with
  | done =>
    rw [List.drop_length]
    rfl
  | @next start finish range ranges hstart hfinish hle hlt _ ih =>
    obtain ⟨pieces, hpieces, hflatten⟩ := Option.map_eq_some_iff.1 ih
    rw [List.mapM_cons, fetch_eq hget hpath habsolute hnames hselect hfile hstart hfinish hle hlt,
      Option.bind_eq_bind, Option.bind_some, hpieces]
    have hsplit : file.bytes.drop start =
        (file.bytes.drop start).take (finish - start + 1) ++ file.bytes.drop (finish + 1) := by
      conv_lhs => rw [← List.take_append_drop (finish - start + 1) (file.bytes.drop start)]
      rw [List.drop_drop, show start + (finish - start + 1) = finish + 1 by omega]
    show some ((file.bytes.drop start).take (finish - start + 1) ++ pieces.flatten) = _
    rw [hflatten, ← hsplit]

/-! ## Whole runs -/

/-- **What is hosted is what is served.** When an application hosted its paths, each only while it was
not served, a path has a handler exactly while it is hosted, with what was hosted there last; a request
below the path gets the file below its local path, or that for the agent, in the language that is there;
and a client that asks for the file in pieces that tile it gets the file. -/
theorem hosted_served {es : List Event} {language : Str} {w : Hosts} {x : Hosting}
    (h : Run hostStep HostsOnce (.init language) es w) :
    (w.context.handler path).map HostPathData.hosting = w.hosted.serves path ∧
    (w.hosted.serves path = some x → ∃ data, w.context.handler path = some data ∧
      data.hosting = x ∧ data.defaultLanguage = w.context.defaultLanguage ∧
      ∀ fs server fuel request rest, request.path = path ++ rest →
        request.path.head? = some '/' → Names path rest →
        (request.method ≠ .other → ∃ response,
          hostPathHandler (fs.on server) (fuel + 1) request data = some response ∧
          Localised fs request data (localPathOf server request data rest)
            (acceptLocales server request) response) ∧
        ∀ found locale file ranges, request.method = .get →
          select fs (localPathOf server request data rest) (acceptLocales server request) =
            some (found, locale) →
          fs found = .regular file → Tiles file.bytes.length 0 ranges →
          download (fs.on server) (fuel + 1) request data ranges = some file.bytes) := by
  have hg : Good w :=
    h.inv Good (fun s e t hs hok he => Option.some.inj he ▸ good_step hs hok) (good_init language)
  refine ⟨hg.requests path, fun hx => ?_⟩
  have hrequests := (hg.requests path).trans hx
  obtain ⟨data, hdata, hhosting⟩ := Option.map_eq_some_iff.1 hrequests
  have hfind : w.context.findPath path = some data := (hg.handler path).symm.trans hdata
  obtain rfl : data.serverPath = path := by simpa using List.find?_some hfind
  refine ⟨data, hdata, hhosting, hg.language data (List.mem_of_find?_eq_some hfind), ?_⟩
  intro fs server fuel request rest hpath habsolute hnames
  refine ⟨fun hmethod => handled fs server fuel request hmethod hpath habsolute hnames, ?_⟩
  intro found locale file ranges hget hselect hfile htiles
  exact htiles.download hget hpath habsolute hnames hselect hfile

end

/-! ## A concrete download -/

instance (w : Hosts) (e : Event) : Decidable (HostsOnce w e) :=
  match e with
  | .hostPath _ path => inferInstanceAs (Decidable (w.context.handler path = none))
  | .hostPathForAgent .. => .isTrue trivial
  | .unhostPath _ => .isTrue trivial
  | .setDefaultLanguage _ => .isTrue trivial

/-- One file. -/
def helloFile : FileSystem := fun path =>
  if path = "/srv/a".toList then .regular ⟨"hello".toList, by decide⟩ else .missing

def fileRequest : Request :=
  ⟨.get, false, "/files/a".toList, "http://10.0.0.1/files/a".toList, "10.0.0.9".toList, none, none,
    fun _ => none⟩

/-- A client asks for the first two bytes and then for the other three. -/
theorem hosted_served_sample : ∃ w data,
    Run hostStep HostsOnce (.init "en".toList)
      [.hostPath "/srv".toList "/files".toList, .setDefaultLanguage "de".toList] w ∧
    w.context.handler "/files".toList = some data ∧
    download (helloFile.on sampleServer) 1 fileRequest data
      [⟨0, 1, by decide, by decide⟩, ⟨2, 4, by decide, by decide⟩] = some "hello".toList := by
  obtain ⟨w, hrun, hlast⟩ : ∃ w, Run hostStep HostsOnce (.init "en".toList)
      [.hostPath "/srv".toList "/files".toList, .setDefaultLanguage "de".toList] w ∧
      (w.hosted.serves "/files".toList, w.context.handler "/files".toList) =
        (some ⟨"/files".toList, "/srv".toList, []⟩,
          some ⟨0, "/srv".toList, "/files".toList, "de".toList, []⟩) :=
    Run.exists_of_foldlM_ok (by decide)
  obtain ⟨hserves, hhandler⟩ := Prod.mk.inj hlast
  obtain ⟨data, hdata, -, -, hall⟩ := (hosted_served hrun).2 hserves
  obtain rfl := Option.some.inj (hhandler.symm.trans hdata)
  obtain ⟨-, hdownload⟩ := hall helloFile sampleServer 0 fileRequest "/a".toList (by decide) rfl
    ⟨by decide, .inl ⟨'a', by decide, by decide⟩⟩
  refine ⟨w, _, hrun, hdata, hdownload "/srv/a".toList none ⟨"hello".toList, by decide⟩ _ rfl
    (by decide) (by rfl) ?_⟩
  exact .next rfl rfl (by decide) (by decide) (.next rfl rfl (by decide) (by decide) .done)

end GUPnP.HostPath
