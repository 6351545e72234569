import GUPnP.Base.CString
import GUPnP.Base.Table

/-!
# Hosted paths (`gupnp-context.c`)

A context hosts local files and folders at server paths. It keeps a list of what it hosts
(`hostPathDatas`), and each entry of the list is the user data of a handler of its HTTP server, which
has one handler for a path: a new one takes the place of the old one. An entry is known by its number,
which stands for its address.
-/

set_option autoImplicit false

namespace GUPnP.HostPath

/-! ## Types -/

/-- A local path for the user agents that match a regular expression. -/
structure UserAgent where
  localPath : Str
  regex : Str
  deriving DecidableEq, Repr

structure HostPathData where
  id : Nat
  localPath : Str
  serverPath : Str
  defaultLanguage : Str
  userAgents : List UserAgent
  deriving DecidableEq, Repr

/-- The part of `GUPnPContextPrivate` that hosting uses, and the handlers of the server that serve a
hosted path. -/
structure ContextState where
  hostPathDatas : List HostPathData
  handlers : Table Str Nat
  defaultLanguage : Str
  nextId : Nat

/-- A context right after its construction. -/
def ContextState.init (defaultLanguage : Str) : ContextState := ⟨[], ∅, defaultLanguage, 0⟩

/-- The entry that is the user data of the handler at this path. -/
def ContextState.handler (s : ContextState) (path : Str) : Option HostPathData :=
  (s.handlers.lookup path).bind fun id => s.hostPathDatas.find? fun data => data.id = id

/-! ## Hosting -/

/-- `host_path_data_set_language`. -/
def hostPathDataSetLanguage (data : HostPathData) (language : Str) : HostPathData :=
  if language = data.defaultLanguage then data else { data with defaultLanguage := language }

/-- `gupnp_context_set_default_language`. -/
def setDefaultLanguage (language : Str) (s : ContextState) : ContextState :=
  if language = s.defaultLanguage then s
  else
    { s with
      defaultLanguage := language
      hostPathDatas := s.hostPathDatas.map fun data => hostPathDataSetLanguage data language }

/-- `gupnp_context_host_path`. -/
def hostPath (localPath serverPath : Str) (s : ContextState) : ContextState :=
  let pathData : HostPathData := ⟨s.nextId, localPath, serverPath, s.defaultLanguage, []⟩
  { s with
    handlers := s.handlers.insert serverPath pathData.id
    hostPathDatas := s.hostPathDatas ++ [pathData]
    nextId := s.nextId + 1 }

/-- `g_list_find_custom` with `path_compare_func`. -/
def ContextState.findPath (s : ContextState) (serverPath : Str) : Option HostPathData :=
  s.hostPathDatas.find? fun data => data.serverPath = serverPath

/-- `gupnp_context_host_path_for_agent`. -/
def hostPathForAgent (localPath serverPath regex : Str) (s : ContextState) : Bool × ContextState :=
  match s.findPath serverPath with
  | none => (false, s)
  | some pathData =>
    let agent : UserAgent := ⟨localPath, regex⟩
    (true, { s with hostPathDatas := s.hostPathDatas.map fun data =>
      if data.id = pathData.id then { data with userAgents := data.userAgents ++ [agent] } else data })

/-- `gupnp_context_unhost_path`. -/
def unhostPath (serverPath : Str) (s : ContextState) : ContextState :=
  match s.findPath serverPath with
  | none => s
  | some _ =>
    { s with
      hostPathDatas := s.hostPathDatas.eraseP fun data => data.serverPath = serverPath
      handlers := s.handlers.erase serverPath }

/-! ## Local paths -/

/-- The loop of `construct_local_path` over the agents: the last one that matches counts. -/
def agentPath (gRegexMatch : Str → Str → Bool) (userAgent : Option Str) (data : HostPathData) : Str :=
  match userAgent with
  | none => data.localPath
  | some userAgent =>
    data.userAgents.foldl (fun localPath agent =>
      if gRegexMatch agent.regex userAgent then agent.localPath else localPath) data.localPath

/-- The loop that strips the last slashes of the rest of `path` after `skip` characters, from the
position `skip + len = pos` on: the indices into the rest it looks at, and the `len` it ends with. At
the position 0 it reads before the beginning of the string, and what happens then is not defined. -/
def stripSlashes (path : Str) (skip : Nat) : Nat → List Int × Option Int
  | 0 => ([-(skip : Int) - 1], none)
  | pos + 1 =>
    let index : Int := pos - skip
    if path[pos]? = some '/' then
      let (indices, len) := stripSlashes path skip pos
      (index :: indices, len)
    else ([index], some (index + 1))

/-- `strlen` as an `int`. -/
def intLength (s : Str) : Int := (s.length : Int).bmod (2 ^ 32)

/-- `g_string_append_len`, which appends the whole string for a negative length. -/
def appendLen (s rest : Str) (len : Int) : Str :=
  if len < 0 then s ++ rest else s ++ rest.take len.toNat

/-- `construct_local_path`: the indices it looks at in the rest of the path, and its result. -/
inductive LocalPath where
  /-- A path that is not absolute has none. -/
  | null
  /-- The loop left the string. -/
  | undefined (indices : List Int)
  | path (indices : List Int) (len : Int) (localPath : Str)
  deriving DecidableEq, Repr

/-- `construct_local_path`. -/
def constructLocalPath (gRegexMatch : Str → Str → Bool) (requestedPath : Str)
    (userAgent : Option Str) (data : HostPathData) : LocalPath :=
  let localPath := agentPath gRegexMatch userAgent data
  match requestedPath with
  | [] => .path [] 0 localPath
  | c :: _ =>
    if c ≠ '/' then .null
    else
      let skip := data.serverPath.length
      let rest := requestedPath.drop skip
      let len := intLength rest
      if skip + len < 0 then .undefined [len - 1]
      else
        match stripSlashes requestedPath skip (skip + len).toNat with
        | (indices, none) => .undefined indices
        | (indices, some len) => .path indices len (appendLen localPath rest len)

/-! ## Steps -/

inductive Event where
  | hostPath (localPath serverPath : Str)
  | hostPathForAgent (localPath serverPath regex : Str)
  | unhostPath (serverPath : Str)
  | setDefaultLanguage (language : Str)

def step (s : ContextState) : Event → ContextState
  | .hostPath localPath serverPath => hostPath localPath serverPath s
  | .hostPathForAgent localPath serverPath regex => (hostPathForAgent localPath serverPath regex s).2
  | .unhostPath serverPath => unhostPath serverPath s
  | .setDefaultLanguage language => setDefaultLanguage language s

end GUPnP.HostPath
