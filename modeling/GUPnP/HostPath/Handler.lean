import GUPnP.HostPath.Model
import GUPnP.HttpHeaders.Model

/-!
# Serving hosted paths (`host_path_handler`)

The handler of a hosted path looks for a local file that fits the path of a request and the languages
of its client, and answers with the file or the range of it that the request asks for. What libsoup,
the file system and gssdp have to say are parameters.
-/

set_option autoImplicit false

namespace GUPnP.HostPath

/-! ## Requests and responses -/

inductive Method where
  | get
  | head
  | other
  deriving DecidableEq, Repr

/-- `SoupRange`; a `goffset` has 64 bits. -/
structure SoupRange where
  start : Int
  finish : Int
  startBound : -2 ^ 63 ≤ start ∧ start < 2 ^ 63
  finishBound : -2 ^ 63 ≤ finish ∧ finish < 2 ^ 63

structure Request where
  method : Method
  http10 : Bool
  path : Str
  uri : Str
  host : Str
  userAgent : Option Str
  acceptLanguage : Option Str
  /-- `soup_message_headers_get_ranges` for a file of this size: the first range. -/
  ranges : Int → Option SoupRange

/-- What the handler sets of the answer, and what it adds to the cache of gssdp. A buffer of the body
that is `NULL` is `none`. -/
structure Response where
  status : Nat
  reason : Option Str
  http11 : Bool
  headers : List (Str × Str)
  body : List (Option Str)
  cacheEntry : Option (Str × Str)
  deriving DecidableEq, Repr

def Response.init : Response := ⟨0, none, false, [], [], none⟩

/-- `soup_server_message_set_status`. -/
def Response.setStatus (response : Response) (status : Nat) (reason : String) : Response :=
  { response with status := status, reason := some reason.toList }

/-- `soup_message_headers_append`. -/
def Response.append (response : Response) (name : String) (value : Str) : Response :=
  { response with headers := response.headers ++ [(name.toList, value)] }

/-- `soup_message_headers_replace`. -/
def Response.replace (response : Response) (name : String) (value : Str) : Response :=
  { response with
    headers := response.headers.filter (·.1 ≠ name.toList) ++ [(name.toList, value)] }

def Response.header (response : Response) (name : String) : Option Str :=
  response.headers.lookup name.toList

/-- `soup_message_body_append_bytes`. -/
def Response.appendBytes (response : Response) (bytes : Option Str) : Response :=
  { response with body := response.body ++ [bytes] }

/-- `errno` after `g_stat`. -/
inductive Errno where
  | eperm
  | enoent
  | other
  deriving DecidableEq, Repr

/-- `GStatBuf`. -/
structure Stat where
  isDir : Bool
  size : Int

/-- What the handler uses of other components. -/
structure Server where
  gRegexMatch : Str → Str → Bool
  /-- `gssdp_client_guess_user_agent` -/
  guessUserAgent : Str → Option Str
  gStat : Str → Except Errno Stat
  /-- The contents `g_mapped_file_new` maps. -/
  mappedFile : Str → Option Str
  /-- `g_content_type_get_mime_type` of the type that `g_content_type_guess` guesses. -/
  mimeType : Str → Str → Option Str
  atof : Str → ℚ

/-! ## Files -/

/-- `append_locale`. -/
def appendLocale (localPath : Str) (locales : List Str) : Str :=
  match locales with
  | [] => localPath
  | locale :: _ => localPath ++ '.' :: locale

/-- `g_build_filename` for a folder and a name without slashes. -/
def buildFilename (folder name : Str) : Str :=
  let stripped := (folder.reverse.dropWhile (· = '/')).reverse
  if stripped = [] then folder ++ name else stripped ++ '/' :: name

/-- Where the search for a file ends. -/
inductive Found where
  | file (pathToOpen : Str) (locales : List Str) (size : Int)
  | directory (pathToOpen : Str) (locales : List Str)
  | status (status : Nat) (reason : String)
  | redirect

/-- The loop over the locales: what the first path that is there is. -/
def tryLocales (server : Server) (localPath : Str) (locales : List Str) : Found :=
  match server.gStat (appendLocale localPath locales), locales with
  | .ok st, _ =>
    if st.isDir then .directory (appendLocale localPath locales) locales
    else .file (appendLocale localPath locales) locales st.size
  | .error .eperm, _ => .status 403 "Forbidden"
  | .error .enoent, _ :: rest => tryLocales server localPath rest
  | .error .enoent, [] => .status 404 "Not found"
  | .error .other, _ => .status 500 "Internal server error"

/-- The loop into folders; `fuel` bounds how many. -/
def openPath (server : Server) (path : Str) : Nat → Str → List Str → Option Found
  | 0, _, _ => none
  | fuel + 1, localPath, locales =>
    match tryLocales server localPath locales with
    | .directory pathToOpen locales =>
      if ['/'] <:+ path then
        openPath server path fuel (buildFilename pathToOpen "index.html".toList) locales
      else some .redirect
    | found => some found

/-! ## The answer -/

/-- `g_bytes_new_from_bytes`; the offset and the length are `gsize`s, and a slice that does not lie in
the bytes is no slice. -/
def bytesNewFromBytes (bytes : Str) (offset length : Nat) : Option Str :=
  if offset ≤ bytes.length ∧ offset + length ≤ bytes.length then
    some ((bytes.drop offset).take length)
  else none

/-- The conversion to `gsize`. -/
def gsize (n : Int) : Nat := (n % 2 ^ 64).toNat

/-- `soup_message_headers_set_content_range`. -/
def contentRange (start finish total : Int) : Str :=
  "bytes ".toList ++ CString.printD start ++ '-' :: CString.printD finish ++
    '/' :: CString.printD total

/-- `http_response_set_content_type`. -/
def setContentType (server : Server) (path data : Str) (response : Response) : Response :=
  response.append "Content-Type" <|
    match server.mimeType path data with
    | none => "application/octet-stream".toList
    | some mime =>
      if mime = "application/xml".toList then "text/xml; charset=\"utf-8\"".toList else mime

/-- `http_response_set_content_locale`. -/
def setContentLocale (locale : Str) (response : Response) : Response :=
  response.append "Content-Language" (HttpHeaders.httpLanguageFromLocale locale).1

/-- The language of the file: the locale of its path, or that of the hosted path. -/
def setContentLanguage (request : Request) (data : HostPathData) (locales : List Str)
    (response : Response) : Response :=
  match locales with
  | locale :: _ => setContentLocale locale response
  | [] =>
    if request.acceptLanguage.isSome then response.append "Content-Language" data.defaultLanguage
    else response

/-- The headers of a file, and the status. -/
def finish (server : Server) (request : Request) (data : HostPathData) (pathToOpen contents : Str)
    (locales : List Str) (status : Nat) (response : Response) : Response :=
  let response := setContentType server pathToOpen contents response
  let response := setContentLanguage request data locales response
  { response.append "Accept-Ranges" "bytes".toList with status := status, reason := none }

/-- The part of `host_path_handler` after the file is found. -/
def answerFile (server : Server) (request : Request) (data : HostPathData) (pathToOpen : Str)
    (locales : List Str) (size : Int) (response : Response) : Response :=
  match server.mappedFile pathToOpen with
  | none => response.setStatus 500 "Internal server error"
  | some buffer =>
    let finish := finish server request data pathToOpen buffer locales
    match request.method with
    | .get =>
      match request.ranges size with
      | some range =>
        if size < range.finish ∨ size < 0 ∨ size ≤ range.start ∨ range.finish < range.start then
          response.setStatus 416 "Range not satisfyable"
        else
          let response := { response with body := [] }
          let response :=
            response.replace "Content-Range" (contentRange range.start range.finish buffer.length)
          let rangeBuffer := bytesNewFromBytes buffer (gsize range.start)
            (gsize (range.finish - range.start + 1))
          finish 206 (response.appendBytes rangeBuffer)
      | none => finish 200 (response.appendBytes (some buffer))
    | .head => finish 200 (response.append "Content-Length" (CString.printU (gsize size)))
    | .other => response

/-! ## The handler -/

/-- The headers for clients of HTTP 1.0. -/
def connectionClose (request : Request) (response : Response) : Response :=
  if request.http10 then { response.append "Connection" "close".toList with http11 := true }
  else response

/-- `update_client_cache`. -/
def updateClientCache (server : Server) (host userAgent : Str) (response : Response) : Response :=
  match server.guessUserAgent host with
  | none => { response with cacheEntry := some (host, userAgent) }
  | some _ => response

/-- The user agent the handler goes by: that of the request, or the one gssdp knows. -/
def guessAgent (server : Server) (request : Request) (response : Response) :
    Option Str × Response :=
  match request.userAgent with
  | some userAgent => (some userAgent, updateClientCache server request.host userAgent response)
  | none =>
    match server.guessUserAgent request.host with
    | none => (none, response)
    | some userAgent => (some userAgent, response.append "User-Agent" userAgent)

/-- `redirect_to_folder`. -/
def redirectToFolder (request : Request) (response : Response) : Response :=
  (response.append "Location" (request.uri ++ ['/'])).setStatus 301 "Moved permanently"

/-- `host_path_handler`; there is no answer where `construct_local_path` leaves the string. -/
def hostPathHandler (server : Server) (fuel : Nat) (request : Request) (data : HostPathData) :
    Option Response :=
  if request.method = .other then some (Response.init.setStatus 501 "Not implemented")
  else
    let (userAgent, response) := guessAgent server request (connectionClose request .init)
    match constructLocalPath server.gRegexMatch request.path userAgent data with
    | .null => some (response.setStatus 400 "Bad request")
    | .undefined _ => none
    | .path _ _ localPath =>
      let locales :=
        (HttpHeaders.httpRequestGetAcceptLocales server.atof request.acceptLanguage).map (·.text)
      match openPath server request.path fuel localPath locales with
      | none => none
      | some (.status status reason) => some (response.setStatus status reason)
      | some .redirect => some (redirectToFolder request response)
      | some (.directory _ _) => none
      | some (.file pathToOpen locales size) =>
        some (answerFile server request data pathToOpen locales size response)

end GUPnP.HostPath
