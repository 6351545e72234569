import GUPnP.Base.Records
import GUPnP.LinuxContextManager.Mask
import GUPnP.LinuxContextManager.Model

/-!
# Netlink datagrams (`receive_netlink_message`)

A datagram is a block of messages, and a message about an address or a link has a block of attributes.
The loops over both are those of the macros `NLMSG_OK` and `NLMSG_NEXT` and of `RTA_OK` and `RTA_NEXT`.
The memory has the receive buffer from 0 on and what comes after it. The label of an address and the
name of an interface are strings, which the loops duplicate up to a NUL wherever that is
(`interfaceName`); they decide nothing in the manager, so that its messages do not carry them.
-/

set_option autoImplicit false

namespace GUPnP.LinuxContextManager

open Records

/-! ## Constants and headers -/

def nlmsgDone : Nat := 3
def rtmNewLink : Nat := 16
def rtmDelLink : Nat := 17
def rtmNewAddr : Nat := 20
def rtmDelAddr : Nat := 21
def ifaAddress : Nat := 1
def ifaLabel : Nat := 3
def ifaFlags : Nat := 8
def iflaIfname : Nat := 3
def iflaWireless : Nat := 11

/-- `struct nlmsghdr`. -/
def nlmsghdr : Format := ⟨16, 4, 4, by decide, by decide, by decide⟩

/-- `struct rtattr`. -/
def rtattr : Format := ⟨4, 2, 4, by decide, by decide, by decide⟩

/-- `sizeof (struct ifaddrmsg)` -/
def ifaddrmsgSize : Nat := 8

/-- `sizeof (struct ifinfomsg)` -/
def ifinfomsgSize : Nat := 16

/-- The family of an address, `AF_INET` or `AF_INET6`. -/
def familyOf (family : Nat) : Option Family :=
  if family = 2 then some .inet else if family = 10 then some .inet6 else none

/-- `GINT_TO_POINTER` of an `int`. -/
def indexKey (index : Nat) : Nat := ((BitVec.ofNat 32 index).signExtend 64).toNat

section
variable (order : ByteOrder) (mem : Nat → BitVec 8)

/-- A field of a structure. -/
def field (pos width : Nat) : Nat := order.value (slice mem pos width)

/-- `nlmsg_type` -/
def nlmsgType (header : Nat) : Nat := field order mem (header + 4) 2

/-- `NLMSG_DATA` -/
def nlmsgData (header : Nat) : Nat := header + 16

/-- `rta_type` -/
def rtaType (attr : Nat) : Nat := field order mem (attr + 2) 2

/-- `RTA_DATA` -/
def rtaData (attr : Nat) : Nat := attr + 4

/-- `IFA_PAYLOAD` and `IFLA_PAYLOAD`: what a message has after a structure of this size. -/
def payload (header size : Nat) : Nat := nlmsghdr.length order mem header - (16 + size)

/-- The attributes of a message, which begin after a structure of this size. -/
def attributes (header size : Nat) : List Nat :=
  rtattr.walk order mem (fun _ => false) (payload order mem header size) (nlmsgData header + size)
    (payload order mem header size)

/-! ## The messages -/

/-- The strings that a loop over attributes duplicates: the data of each attribute of this type, up to
its NUL. `none` where one of them goes on behind the end of the memory. -/
def duplicated (limit type header size : Nat) : Option (List (List (BitVec 8))) :=
  ((attributes order mem header size).filter fun attr => rtaType order mem attr = type).mapM
    fun attr => string mem limit (rtaData attr)

/-- The label of `extract_info` and the name of `extract_link_message_info`: the last of the strings. -/
def interfaceName (limit header : Nat) : Option (Option (List (BitVec 8))) :=
  if nlmsgType order mem header = rtmNewAddr ∨ nlmsgType order mem header = rtmDelAddr then
    (duplicated order mem limit ifaLabel header ifaddrmsgSize).map List.getLast?
  else if nlmsgType order mem header = rtmNewLink then
    (duplicated order mem limit iflaIfname header ifinfomsgSize).map List.getLast?
  else some none

/-- The flags of the address and its text; `g_inet_address_to_string` is a parameter. -/
def extractAttribute (inetAddressToString : Address → Str) (family : Option Family)
    (info : Nat × Option Str) (attr : Nat) : Nat × Option Str :=
  if rtaType order mem attr = ifaFlags then (field order mem (rtaData attr) 4, info.2)
  else if rtaType order mem attr = ifaAddress then
    (info.1, family.map fun family =>
      inetAddressToString ⟨family, slice mem (rtaData attr) family.size, length_slice⟩)
  else info

/-- `extract_info` but for the label. Of the flags `IFA_F_TENTATIVE` and `IFA_F_DEPRECATED` are used. -/
def extractInfo (inetAddressToString : Address → Str) (header : Nat) : RtmAddrInfo :=
  let ifa := nlmsgData header
  let family := familyOf (field order mem ifa 1)
  let info := (attributes order mem header ifaddrmsgSize).foldl
    (extractAttribute order mem inetAddressToString family) (field order mem (ifa + 2) 1, none)
  { ifaIndex := field order mem (ifa + 4) 4
    tentative := info.1.testBit 6
    deprecated := info.1.testBit 5
    ipString := info.2 }

/-- `extract_link_message_info` but for the name: whether it is about the wireless status. -/
def extractLinkMessageInfo (header : Nat) : Bool :=
  (attributes order mem header ifinfomsgSize).any fun attr => rtaType order mem attr = iflaWireless

/-- The `struct ifinfomsg` of a message. -/
def ifInfoMsg (header : Nat) : IfInfoMsg :=
  let ifi := nlmsgData header
  let flags := field order mem (ifi + 8) 4
  { ifiIndex := indexKey (field order mem (ifi + 4) 4)
    up := flags.testBit 0
    multicast := flags.testBit 12
    loopback := flags.testBit 3
    pointToPoint := flags.testBit 4 }

/-- What the message at this place is. -/
def messageAt (inetAddressToString : Address → Str) (created : Bool) (header : Nat) : Option Event :=
  if nlmsgType order mem header = rtmNewAddr then
    some (.newAddr (extractInfo order mem inetAddressToString header) created)
  else if nlmsgType order mem header = rtmDelAddr then
    some (.delAddr (extractInfo order mem inetAddressToString header))
  else if nlmsgType order mem header = rtmNewLink then
    some (.newLink (ifInfoMsg order mem header) (extractLinkMessageInfo order mem header))
  else if nlmsgType order mem header = rtmDelLink then
    some (.delLink (ifInfoMsg order mem header).ifiIndex)
  else none

/-- The messages of a datagram, up to the first that is no message or `NLMSG_DONE`. -/
def headers (len : Nat) : List Nat :=
  nlmsghdr.walk order mem (fun header => nlmsgType order mem header = nlmsgDone) len 0 len

/-- `receive_netlink_message` for a datagram of this length. `created` is whether a context can be
created for each of its messages. -/
def receiveNetlinkMessage (inetAddressToString : Address → Str) (created : Nat → Bool) (len : Nat)
    (s : ManagerState) : Option ManagerState :=
  ((headers order mem len).zipIdx.filterMap fun (header, i) =>
    messageAt order mem inetAddressToString (created i) header).foldlM step s

end

/-! ## What the kernel sends -/

structure Attribute where
  type : Nat
  payload : List (BitVec 8)

/-- What a message is about: an address with its `struct ifaddrmsg`, a link with its `struct ifinfomsg`,
or something else. -/
inductive Body where
  | address (isNew : Bool) (family prefixLen flags scope : BitVec 8) (index : BitVec 32)
      (attributes : List Attribute)
  | link (isNew : Bool) (family pad : BitVec 8) (type : BitVec 16) (index flags change : BitVec 32)
      (attributes : List Attribute)
  | other (type : Nat) (payload : List (BitVec 8))

/-- A message. The rest of its header has the flags, the sequence number and the port. -/
structure Message where
  header : List (BitVec 8)
  body : Body

section
variable (order : ByteOrder)

/-- The attribute after its length. -/
def Attribute.content (a : Attribute) : List (BitVec 8) := order.bytes 2 a.type ++ a.payload

def Body.type : Body → Nat
  | .address isNew .. => if isNew then rtmNewAddr else rtmDelAddr
  | .link isNew .. => if isNew then rtmNewLink else rtmDelLink
  | .other type _ => type

def attributeBlock (attributes : List Attribute) : List (BitVec 8) :=
  attributes.flatMap fun a => rtattr.record order (a.content order)

def Body.bytes : Body → List (BitVec 8)
  | .address _ family prefixLen flags scope index attributes =>
    [family, prefixLen, flags, scope] ++ order.bytes 4 index.toNat ++ attributeBlock order attributes
  | .link _ family pad type index flags change attributes =>
    [family, pad] ++ order.bytes 2 type.toNat ++ order.bytes 4 index.toNat ++
      order.bytes 4 flags.toNat ++ order.bytes 4 change.toNat ++ attributeBlock order attributes
  | .other _ payload => payload

/-- The message after its length. -/
def Message.content (m : Message) : List (BitVec 8) :=
  order.bytes 2 m.body.type ++ m.header ++ m.body.bytes order

def datagram (messages : List Message) : List (BitVec 8) :=
  messages.flatMap fun m => nlmsghdr.record order (m.content order)

/-! ## What it means -/

/-- The payload of the last attribute of a type. -/
def lastPayload (type : Nat) (attributes : List Attribute) : Option (List (BitVec 8)) :=
  ((attributes.filter fun a => a.type = type).getLast?).map (·.payload)

/-- The text of an address with these bytes. -/
def addressText (inetAddressToString : Address → Str) (family : Option Family)
    (bytes : List (BitVec 8)) : Option Str :=
  family.bind fun family =>
    if h : bytes.length = family.size then some (inetAddressToString ⟨family, bytes, h⟩) else none

/-- The message for the manager. -/
def Message.event (inetAddressToString : Address → Str) (created : Bool) (m : Message) :
    Option Event :=
  match m.body with
  | .address isNew family _ flags _ index attributes =>
    let flags := ((lastPayload ifaFlags attributes).map order.value).getD flags.toNat
    let info : RtmAddrInfo :=
      { ifaIndex := index.toNat
        tentative := flags.testBit 6
        deprecated := flags.testBit 5
        ipString := (lastPayload ifaAddress attributes).bind
          (addressText inetAddressToString (familyOf family.toNat)) }
    some (if isNew then .newAddr info created else .delAddr info)
  | .link isNew _ _ _ index flags _ attributes =>
    let ifi : IfInfoMsg :=
      { ifiIndex := (index.signExtend 64).toNat
        up := flags.getLsbD 0
        multicast := flags.getLsbD 12
        loopback := flags.getLsbD 3
        pointToPoint := flags.getLsbD 4 }
    some (if isNew then .newLink ifi (attributes.any fun a => a.type = iflaWireless)
      else .delLink ifi.ifiIndex)
  | .other .. => none

end

end GUPnP.LinuxContextManager
