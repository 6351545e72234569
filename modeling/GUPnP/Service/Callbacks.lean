import GUPnP.Service.Model

/-!
# The callbacks of a SUBSCRIBE

`Network` is what stands behind `Context.rewriteUriToUri` and `Context.canReach`: the parts of GLib and
gssdp that `gupnp_context_rewrite_uri_to_uri` and `add_subscription_callback` use. `scan` is the loop of
`subscribe` over the buffer of the `Callback` header, which it changes and restores.
-/

set_option autoImplicit false

namespace GUPnP.Service

/-! ## Addresses -/

/-- `GSocketFamily`. -/
inductive SocketFamily where
  | ipv4
  | ipv6
  deriving DecidableEq, Repr

/-- What is asked of a `GInetAddress`. -/
structure InetAddress where
  family : SocketFamily
  linkLocal : Bool
  deriving DecidableEq, Repr

structure Network where
  /-- `g_uri_parse` -/
  uriParse : Str → Option Uri
  /-- `g_uri_get_host` -/
  uriHost : Uri → Str
  /-- `soup_uri_copy` with another host. -/
  uriCopy : Uri → Str → Uri
  /-- `g_inet_address_new_from_string` -/
  inetAddress : Str → Option InetAddress
  /-- `gssdp_client_get_index` -/
  index : Int
  /-- `gssdp_client_get_family` -/
  family : SocketFamily
  /-- `gssdp_client_can_reach` for the `g_inet_socket_address_new_from_string` of a host. -/
  clientCanReach : Str → Bool

/-- `gupnp_context_rewrite_uri_to_uri`. -/
def Network.rewriteUriToUri (n : Network) (uri : Str) : Option Uri :=
  match n.uriParse uri with
  | none => none
  | some soupUri =>
    let host := n.uriHost soupUri
    match n.inetAddress host with
    | none => some soupUri
    | some addr =>
      let soupUri :=
        if addr.linkLocal = true ∧ addr.family = .ipv6 then
          n.uriCopy soupUri (host ++ '%' :: CString.printD n.index)
        else soupUri
      if addr.family ≠ n.family then none else some soupUri

/-- The check of `add_subscription_callback`. -/
def Network.canReach (n : Network) (uri : Uri) : Bool := n.clientCanReach (n.uriHost uri)

/-- A context on this network. -/
def Network.context (n : Network) (ctx : Context) : Context :=
  { ctx with rewriteUriToUri := n.rewriteUriToUri, canReach := n.canReach }

/-! ## The scan -/

/-- The string that begins at a place of a buffer. -/
def cString (buffer : Str) (start : Nat) : Str := (buffer.drop start).takeWhile (· ≠ '\x00')

/-- `strchr`: the place of the character. -/
def strchr (buffer : Str) (start : Nat) (c : Char) : Option Nat :=
  if c ∈ cString buffer start then some (start + (cString buffer start).idxOf c) else none

/-- The loop of `subscribe` for that many callbacks more: the list of callbacks, and the buffer. -/
def scan (ctx : Context) : Nat → Str → Nat → List Uri → List Uri × Str
  | 0, buffer, _, list => (list, buffer)
  | callbacks + 1, buffer, start, list =>
    match strchr buffer start '<' with
    | none => (list, buffer)
    | some start =>
      let start := start + 1
      if cString buffer start = [] then (list, buffer)
      else
        match strchr buffer start '>' with
        | none => (list, buffer)
        | some stop =>
          let buffer := buffer.set stop '\x00'
          let callback := cString buffer start
          let list :=
            if "http://".toList <+: callback ∧ callback.length ≤ 256 then
              addSubscriptionCallback ctx list callback
            else list
          let buffer := buffer.set stop '>'
          scan ctx callbacks buffer stop list

end GUPnP.Service
