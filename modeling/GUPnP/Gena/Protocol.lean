import GUPnP.Base.CString

/-!
# GENA: constants and messages

The methods and timeouts of `gena-protocol.h`, and the data both ends of the event protocol
exchange: HTTP statuses, the XML documents of NOTIFY bodies, and NOTIFY requests with the headers
the receiver reads.
-/

set_option autoImplicit false

namespace GUPnP

namespace Gena

def methodSubscribe : Str := "SUBSCRIBE".toList
def methodUnsubscribe : Str := "UNSUBSCRIBE".toList
def methodNotify : Str := "NOTIFY".toList

/-- `GENA_DEFAULT_TIMEOUT`, in seconds. -/
def defaultTimeout : Int := 1800

/-- The `NT` header of event messages and event subscriptions. -/
def ntEvent : Str := "upnp:event".toList

/-- The `NTS` header of event messages. -/
def ntsPropChange : Str := "upnp:propchange".toList

end Gena

/-- The status of an HTTP answer and the reason phrase given with it. -/
structure Status where
  code : Nat
  reason : Option String
  deriving DecidableEq, Repr

namespace Status

def ok : Status := ⟨200, none⟩
def badRequest (reason : Option String) : Status := ⟨400, reason⟩
def preconditionFailed (reason : Option String) : Status := ⟨412, reason⟩
def internalServerError (reason : Option String) : Status := ⟨500, reason⟩
def notImplemented (reason : Option String) : Status := ⟨501, reason⟩

end Status

/-- `SOUP_STATUS_IS_SUCCESSFUL`. -/
def isSuccessful (code : Nat) : Bool := 200 ≤ code && code < 300

/-- A parsed document: the name of its root element, if it has one, and the variables of the
`property` elements below it. -/
structure XmlDoc where
  root : Option Str
  properties : List (Str × Str)
  deriving DecidableEq, Repr

/-- A NOTIFY as the receiver sees it; `body` is the result of `xmlReadMemory`. -/
structure NotifyRequest where
  method : Str
  nt : Option Str
  nts : Option Str
  seq : Option Str
  sid : Option Str
  body : Option XmlDoc
  deriving DecidableEq, Repr

/-- The NOTIFY for a property set, with the `SEQ` header `seq`. -/
def NotifyRequest.propertySet (sid seq : Str) (properties : List (Str × Str)) : NotifyRequest where
  method := Gena.methodNotify
  nt := some Gena.ntEvent
  nts := some Gena.ntsPropChange
  seq := some seq
  sid := some sid
  body := some ⟨some "propertyset".toList, properties⟩

end GUPnP
