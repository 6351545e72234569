import GUPnP.LinuxContextManager.Netlink

/-!
# What the kernel sends is what the manager does

Every message of a datagram is found at its place with all of its attributes, so that a datagram makes
the manager take the steps of its messages (`datagram_dispatched`). For other blocks of bytes the loops
stay in the datagram, and where the structures and the attributes are complete nothing else is looked at
(`datagram_framed`).
-/

set_option autoImplicit false

namespace GUPnP.LinuxContextManager

open Records

/-! ## Well-formed messages -/

structure Attribute.WellFormed (a : Attribute) : Prop where
  type_lt : a.type < 2 ^ 16
  length_lt : 4 + a.payload.length < 2 ^ 16

/-- The attribute of an address has as many bytes as are read of it. -/
structure Attribute.Complete (family : Option Family) (a : Attribute) : Prop where
  flags : a.type = ifaFlags → a.payload.length = 4
  address : a.type = ifaAddress → ∀ f, family = some f → a.payload.length = f.size

def Body.WellFormed : Body → Prop
  | .address _ family _ _ _ _ attributes =>
    ∀ a ∈ attributes, a.WellFormed ∧ a.Complete (familyOf family.toNat)
  | .link _ _ _ _ _ _ _ attributes => ∀ a ∈ attributes, a.WellFormed
  | .other type _ =>
    type < 2 ^ 16 ∧ type ≠ rtmNewLink ∧ type ≠ rtmDelLink ∧ type ≠ rtmNewAddr ∧ type ≠ rtmDelAddr

structure Message.WellFormed (order : ByteOrder) (m : Message) : Prop where
  header : m.header.length = 10
  length_lt : 16 + (m.body.bytes order).length < 2 ^ 32
  body : m.body.WellFormed

section
variable {order : ByteOrder} {mem mem' : Nat → BitVec 8} {pos p width value : Nat}
  {inetAddressToString : Address → Str} {family : Option Family} {a : Attribute}
  {attrs : List Attribute} {m : Message} {messages : List Message}

/-! ## Fields -/

theorem field_bytes (h : Holds mem pos (order.bytes width value)) (hlt : value < 256 ^ width) :
    field order mem pos width = value := h.value_eq hlt

theorem field_word {n : Nat} {x : BitVec n} (h : Holds mem pos (order.bytes width x.toNat))
    (hn : n = 8 * width) : field order mem pos width = x.toNat := by
  subst hn
  have hlt := x.isLt
  rw [pow_mul] at hlt
  exact field_bytes h hlt

theorem field_byte {b : BitVec 8} {rest : List (BitVec 8)} (h : Holds mem pos (b :: rest)) :
    field order mem pos 1 = b.toNat := by
  have hb : Holds mem pos [b] := (holds_append (a := [b]) (b := rest)).1 h |>.1
  unfold Holds at hb
  unfold field
  rw [show (1 : Nat) = [b].length from rfl, hb]
  cases order <;> simp [ByteOrder.value, ofDigits]

/-! ## Attributes -/

theorem Attribute.WellFormed.fits (h : a.WellFormed) : rtattr.Fits (a.content order) := by
  have hlt := h.length_lt
  constructor
  · unfold Attribute.content rtattr
    rw [List.length_append, length_bytes]
    dsimp only
    omega
  · unfold Attribute.content rtattr
    rw [List.length_append, length_bytes]
    dsimp only
    omega

theorem rtaType_of_holds (h : Holds mem p (rtattr.record order (a.content order)))
    (ha : a.WellFormed) : rtaType order mem p = a.type := by
  have hcontent := Format.content_of_holds h
  rw [Attribute.content, holds_append] at hcontent
  exact field_bytes hcontent.1 ha.type_lt

theorem rtaData_of_holds (h : Holds mem p (rtattr.record order (a.content order))) :
    Holds mem (rtaData p) a.payload := by
  have hcontent := Format.content_of_holds h
  rw [Attribute.content, holds_append, length_bytes] at hcontent
  exact hcontent.2

theorem lastPayload_cons (type : Nat) (a : Attribute) (attrs : List Attribute) :
    lastPayload type (a :: attrs) =
      (lastPayload type attrs).or (if a.type = type then some a.payload else none) := by
  unfold lastPayload
  rw [List.filter_cons]
  by_cases h : a.type = type
  · rw [if_pos (decide_eq_true h), if_pos h, List.getLast?_cons]
    cases (attrs.filter fun a => a.type = type).getLast? <;> rfl
  · rw [if_neg (by rw [decide_eq_false h]; exact Bool.false_ne_true), if_neg h, Option.or_none]

/-- One attribute. -/
theorem extractAttribute_eq (h : Holds mem p (rtattr.record order (a.content order)))
    (ha : a.WellFormed) (hc : a.Complete family) (info : Nat × Option Str) :
    extractAttribute order mem inetAddressToString family info p =
      (if a.type = ifaFlags then order.value a.payload else info.1,
        if a.type = ifaAddress then addressText inetAddressToString family a.payload
        else info.2) := by
  have hdata := rtaData_of_holds h
  unfold Holds at hdata
  unfold extractAttribute
  rw [rtaType_of_holds h ha]
  by_cases hflags : a.type = ifaFlags
  · have hne : a.type ≠ ifaAddress := by
      rw [hflags]
      decide
    rw [if_pos hflags, if_pos hflags, if_neg hne, field, ← hc.flags hflags, hdata]
  rw [if_neg hflags, if_neg hflags]
  by_cases haddress : a.type = ifaAddress
  · rw [if_pos haddress, if_pos haddress]
    cases hfamily : family with
    | none => rfl
    | some f =>
      have hsize := hc.address haddress f hfamily
      have hslice : slice mem (rtaData p) f.size = a.payload := by rw [← hsize, hdata]
      simp only [addressText, Option.map_some, Option.bind_some, dif_pos hsize, hslice]
  · rw [if_neg haddress, if_neg haddress]

/-- The last attribute of a type decides. -/
theorem foldl_extractAttribute {places : List Nat}
    (h : List.Forall₂ (fun p a => Holds mem p (rtattr.record order (a.content order))) places attrs)
    (hwf : ∀ a ∈ attrs, a.WellFormed ∧ a.Complete family) (info : Nat × Option Str) :
    places.foldl (extractAttribute order mem inetAddressToString family) info =
      (((lastPayload ifaFlags attrs).map order.value).getD info.1,
        ((lastPayload ifaAddress attrs).map (addressText inetAddressToString family)).getD
          info.2) := by
  induction h generalizing info with
  | nil => rfl
  | @cons p a places attrs hhere _ ih =>
    obtain ⟨ha, hc⟩ := hwf a List.mem_cons_self
    rw [List.foldl_cons, ih fun b hb => hwf b (List.mem_cons_of_mem a hb),
      extractAttribute_eq hhere ha hc, lastPayload_cons, lastPayload_cons]
    congr 1
    · cases lastPayload ifaFlags attrs with
      | some _ => rfl
      | none => by_cases hflags : a.type = ifaFlags <;> simp [hflags]
    · cases lastPayload ifaAddress attrs with
      | some _ => rfl
      | none => by_cases haddress : a.type = ifaAddress <;> simp [haddress]

theorem any_rtaType {places : List Nat}
    (h : List.Forall₂ (fun p a => Holds mem p (rtattr.record order (a.content order))) places attrs)
    (hwf : ∀ a ∈ attrs, a.WellFormed) (type : Nat) :
    (places.any fun p => rtaType order mem p = type) = attrs.any fun a => a.type = type := by
  induction h with
  | nil => rfl
  | @cons p a places attrs hhere _ ih =>
    rw [List.any_cons, List.any_cons, rtaType_of_holds hhere (hwf a List.mem_cons_self),
      ih fun b hb => hwf b (List.mem_cons_of_mem a hb)]

theorem attributes_of_holds {header size : Nat}
    (hpayload : payload order mem header size = (attributeBlock order attrs).length)
    (h : Holds mem (nlmsgData header + size) (attributeBlock order attrs))
    (hwf : ∀ a ∈ attrs, a.WellFormed) :
    List.Forall₂ (fun p a => Holds mem p (rtattr.record order (a.content order)))
      (attributes order mem header size) attrs := by
  exact Format.walk_all (fun a ha => (hwf a ha).fits) h hpayload (le_refl _)

/-! ## Messages -/

theorem Body.WellFormed.type_lt {b : Body} (h : b.WellFormed) : b.type < 2 ^ 16 := by
  cases b with
  | address isNew _ _ _ _ _ _ =>
    cases isNew
    · exact (show rtmDelAddr < 2 ^ 16 by decide)
    · exact (show rtmNewAddr < 2 ^ 16 by decide)
  | link isNew _ _ _ _ _ _ _ =>
    cases isNew
    · exact (show rtmDelLink < 2 ^ 16 by decide)
    · exact (show rtmNewLink < 2 ^ 16 by decide)
  | other type payload => exact h.1

theorem Message.WellFormed.length_content (h : m.WellFormed order) :
    4 + (m.content order).length = 16 + (m.body.bytes order).length := by
  unfold Message.content
  rw [List.length_append, List.length_append, length_bytes, h.header]
  omega

theorem Message.WellFormed.fits (h : m.WellFormed order) : nlmsghdr.Fits (m.content order) := by
  have hlength := h.length_content
  have hlt := h.length_lt
  constructor
  · show 16 ≤ 4 + (m.content order).length
    omega
  · show 4 + (m.content order).length < 256 ^ 4
    omega

theorem nlmsgType_of_holds (h : Holds mem p (nlmsghdr.record order (m.content order)))
    (hm : m.WellFormed order) : nlmsgType order mem p = m.body.type := by
  have hcontent := Format.content_of_holds h
  rw [Message.content, List.append_assoc, holds_append] at hcontent
  exact field_bytes hcontent.1 hm.body.type_lt

theorem nlmsgData_of_holds (h : Holds mem p (nlmsghdr.record order (m.content order)))
    (hm : m.WellFormed order) : Holds mem (nlmsgData p) (m.body.bytes order) := by
  have hcontent := Format.content_of_holds h
  rw [Message.content, holds_append, List.length_append, length_bytes, hm.header] at hcontent
  exact hcontent.2

theorem payload_of_holds (h : Holds mem p (nlmsghdr.record order (m.content order)))
    (hm : m.WellFormed order) (size : Nat) :
    payload order mem p size = (m.body.bytes order).length - size := by
  have hlength := Format.length_of_holds h hm.fits
  have hcontent := hm.length_content
  unfold payload
  rw [hlength]
  show 4 + (m.content order).length - (16 + size) = _
  omega

theorem extractInfo_of_holds {isNew : Bool} {family prefixLen flags scope : BitVec 8}
    {index : BitVec 32}
    (hdata : Holds mem (nlmsgData p)
      ((Body.address isNew family prefixLen flags scope index attrs).bytes order))
    (hpayload : payload order mem p ifaddrmsgSize = (attributeBlock order attrs).length)
    (hwf : ∀ a ∈ attrs, a.WellFormed ∧ a.Complete (familyOf family.toNat)) :
    extractInfo order mem inetAddressToString p =
      { ifaIndex := index.toNat
        tentative := (((lastPayload ifaFlags attrs).map order.value).getD flags.toNat).testBit 6
        deprecated := (((lastPayload ifaFlags attrs).map order.value).getD flags.toNat).testBit 5
        ipString := (lastPayload ifaAddress attrs).bind
          (addressText inetAddressToString (familyOf family.toNat)) } := by
  rw [Body.bytes, List.append_assoc, holds_append, holds_append, length_bytes] at hdata
  obtain ⟨hhead, hindex, hattrs⟩ := hdata
  have hflags : Holds mem (nlmsgData p + 2) [flags, scope] :=
    ((holds_append (a := [family, prefixLen]) (b := [flags, scope])).1 hhead).2
  have hindex : field order mem (nlmsgData p + 4) 4 = index.toNat := field_word hindex rfl
  have hfold : (attributes order mem p ifaddrmsgSize).foldl
      (extractAttribute order mem inetAddressToString (familyOf family.toNat)) (flags.toNat, none) = _ :=
    foldl_extractAttribute (attributes_of_holds hpayload hattrs fun a ha => (hwf a ha).1) hwf _
  have hbind : ((lastPayload ifaAddress attrs).map (addressText inetAddressToString
      (familyOf family.toNat))).getD none = (lastPayload ifaAddress attrs).bind
        (addressText inetAddressToString (familyOf family.toNat)) := by
    cases lastPayload ifaAddress attrs <;> rfl
  unfold extractInfo
  simp only [field_byte hhead, field_byte hflags, hindex, hfold, hbind]

theorem ifInfoMsg_of_holds {isNew : Bool} {family pad : BitVec 8} {type : BitVec 16}
    {index flags change : BitVec 32}
    (hdata : Holds mem (nlmsgData p)
      ((Body.link isNew family pad type index flags change attrs).bytes order)) :
    ifInfoMsg order mem p =
      { ifiIndex := (index.signExtend 64).toNat
        up := flags.getLsbD 0
        multicast := flags.getLsbD 12
        loopback := flags.getLsbD 3
        pointToPoint := flags.getLsbD 4 } := by
  simp only [Body.bytes, List.append_assoc, holds_append, length_bytes] at hdata
  obtain ⟨-, -, hindex, hflags, -⟩ := hdata
  have hkey : indexKey index.toNat = (index.signExtend 64).toNat := by
    rw [indexKey, BitVec.ofNat_toNat, BitVec.setWidth_eq]
  have hindex : field order mem (nlmsgData p + 4) 4 = index.toNat := field_word hindex rfl
  have hflags : field order mem (nlmsgData p + 8) 4 = flags.toNat := field_word hflags rfl
  unfold ifInfoMsg
  simp only [hindex, hflags, hkey]
  rfl

theorem extractLinkMessageInfo_of_holds {isNew : Bool} {family pad : BitVec 8} {type : BitVec 16}
    {index flags change : BitVec 32}
    (hdata : Holds mem (nlmsgData p)
      ((Body.link isNew family pad type index flags change attrs).bytes order))
    (hpayload : payload order mem p ifinfomsgSize = (attributeBlock order attrs).length)
    (hwf : ∀ a ∈ attrs, a.WellFormed) :
    extractLinkMessageInfo order mem p = attrs.any fun a => a.type = iflaWireless := by
  simp only [Body.bytes, List.append_assoc, holds_append, length_bytes] at hdata
  obtain ⟨-, -, -, -, -, hattrs⟩ := hdata
  have hplaces : List.Forall₂ (fun p a => Holds mem p (rtattr.record order (a.content order)))
      (attributes order mem p ifinfomsgSize) attrs := attributes_of_holds hpayload hattrs hwf
  exact any_rtaType hplaces hwf iflaWireless

/-- The message at its place is the one that was sent. -/
theorem messageAt_of_holds (h : Holds mem p (nlmsghdr.record order (m.content order)))
    (hm : m.WellFormed order) (created : Bool) :
    messageAt order mem inetAddressToString created p =
      m.event order inetAddressToString created := by
  have htype := nlmsgType_of_holds h hm
  have hdata := nlmsgData_of_holds h hm
  have hpayload := payload_of_holds h hm
  have hbody := hm.body
  unfold Message.event
  cases hb : m.body with
  | other type bytes =>
    rw [hb] at htype hbody
    obtain ⟨-, hnewLink, hdelLink, hnewAddr, hdelAddr⟩ := hbody
    unfold messageAt
    rw [htype]
    simp only [Body.type, hnewLink, hdelLink, hnewAddr, hdelAddr, if_false]
  | address isNew family prefixLen flags scope index attrs =>
    rw [hb] at htype hbody hdata hpayload
    have hlength : payload order mem p ifaddrmsgSize = (attributeBlock order attrs).length := by
      rw [hpayload, Body.bytes, List.length_append, List.length_append, length_bytes]
      exact Nat.add_sub_cancel_left ..
    unfold messageAt
    rw [htype, extractInfo_of_holds hdata hlength hbody]
    cases isNew <;> rfl
  | link isNew family pad type index flags change attrs =>
    rw [hb] at htype hbody hdata hpayload
    have hlength : payload order mem p ifinfomsgSize = (attributeBlock order attrs).length := by
      simp only [hpayload, Body.bytes, List.length_append, length_bytes]
      exact Nat.add_sub_cancel_left ..
    unfold messageAt
    rw [htype, ifInfoMsg_of_holds hdata, extractLinkMessageInfo_of_holds hdata hlength hbody]
    cases isNew <;> rfl

/-! ## Datagrams -/

/-- Related lists have the same results where related elements have. -/
theorem filterMap_zipIdx {α β γ : Type} {R : α → β → Prop} {as : List α} {bs : List β}
    {f : α × Nat → Option γ} {g : β × Nat → Option γ} (h : List.Forall₂ R as bs)
    (heq : ∀ a b n, b ∈ bs → R a b → f (a, n) = g (b, n)) (n : Nat) :
    (as.zipIdx n).filterMap f = (bs.zipIdx n).filterMap g := by
  induction h generalizing n with
  | nil => rfl
  | @cons a b as bs hab _ ih =>
    rw [List.zipIdx_cons, List.zipIdx_cons, List.filterMap_cons, List.filterMap_cons,
      heq a b n List.mem_cons_self hab,
      ih (fun a' b' n' hb' => heq a' b' n' (List.mem_cons_of_mem b hb'))]

theorem headers_of_holds (hwf : ∀ m ∈ messages, m.WellFormed order)
    (h : Holds mem 0 (datagram order messages)) :
    List.Forall₂ (fun p m => Holds mem p (nlmsghdr.record order (m.content order)))
      (headers order mem (datagram order messages).length)
      (messages.takeWhile fun m => !decide (m.body.type = nlmsgDone)) := by
  refine Format.walk_records (fun m hm => (hwf m hm).fits) h (fun m hm p hp => ?_) rfl (le_refl _)
  rw [nlmsgType_of_holds hp (hwf m hm)]

/-- A datagram makes the manager take the steps of its messages, up to the one that ends a dump, in
their order and with what their attributes say. -/
theorem datagram_dispatched (hwf : ∀ m ∈ messages, m.WellFormed order)
    (h : Holds mem 0 (datagram order messages)) (created : Nat → Bool) (s : ManagerState) :
    receiveNetlinkMessage order mem inetAddressToString created (datagram order messages).length s =
      ((messages.takeWhile fun m => !decide (m.body.type = nlmsgDone)).zipIdx.filterMap
        fun (m, i) => m.event order inetAddressToString (created i)).foldlM step s := by
  unfold receiveNetlinkMessage
  rw [filterMap_zipIdx (headers_of_holds hwf h) fun p m i hm hp => ?_]
  exact messageAt_of_holds hp (hwf m ((List.takeWhile_sublist _).subset hm)) (created i)

/-- `inet_ntop` of an IPv4 address. -/
def dotted (address : Address) : Str :=
  ['.'].intercalate (address.bytes.map fun byte => Nat.toDigits 10 byte.toNat)

/-- The interface comes with an address, whose first flags are replaced. -/
def sampleDatagram : List Message :=
  let header := List.replicate 10 0
  [⟨header, .link true 0 0 1 2 0x1043 0 [⟨3, [101, 116, 104, 48, 0]⟩]⟩,
    ⟨header, .address true 2 24 0xc0 0 2 [⟨ifaAddress, [10, 0, 0, 2]⟩, ⟨ifaFlags, [128, 0, 0, 0]⟩]⟩,
    ⟨header, .other nlmsgDone [0, 0, 0, 0]⟩]

theorem wellFormed_sampleDatagram : ∀ m ∈ sampleDatagram, m.WellFormed .little := by
  unfold sampleDatagram
  simp only [List.forall_mem_cons, List.not_mem_nil, false_imp_iff, implies_true, and_true]
  refine ⟨⟨by decide, by decide, ?_⟩, ⟨by decide, by decide, ?_⟩, ⟨by decide, by decide, ?_⟩⟩
  · simp only [Body.WellFormed, List.forall_mem_singleton]
    exact ⟨by decide, by decide⟩
  · simp only [Body.WellFormed, List.forall_mem_cons, List.not_mem_nil, false_imp_iff, implies_true,
      and_true]
    refine ⟨⟨⟨by decide, by decide⟩, ⟨by decide, fun _ f hf => ?_⟩⟩,
      ⟨⟨by decide, by decide⟩, ⟨by decide, fun h => absurd h (by decide)⟩⟩⟩
    obtain rfl := Option.some.inj (show some Family.inet = some f from hf)
    rfl
  · simp only [Body.WellFormed]
    decide

/-- The address is not tentative any more, and its context is announced. -/
theorem datagram_dispatched_sample :
    (receiveNetlinkMessage .little (fun i => (datagram .little sampleDatagram).getD i 0xff) dotted
      (fun _ => true) (datagram .little sampleDatagram).length .init).map (fun s => s.log) =
        some [(0, true)] := by
  rw [datagram_dispatched wellFormed_sampleDatagram (holds_getD _ _)]
  decide +kernel

/-! ## Arbitrary bytes -/

/-- Every attribute of this type has a NUL, in which its string ends. -/
def Terminated (order : ByteOrder) (mem : Nat → BitVec 8) (type header size : Nat) : Prop :=
  ∀ attr ∈ attributes order mem header size, rtaType order mem attr = type →
    0 ∈ slice mem (rtaData attr) (rtattr.length order mem attr - 4)

instance (order : ByteOrder) (mem : Nat → BitVec 8) (type header size : Nat) :
    Decidable (Terminated order mem type header size) :=
  inferInstanceAs (Decidable (∀ attr ∈ _, _ → _))

/-- The structure of the message and what is read of its attributes are in the message. -/
structure CompleteAt (order : ByteOrder) (mem : Nat → BitVec 8) (header : Nat) : Prop where
  address : nlmsgType order mem header = rtmNewAddr ∨ nlmsgType order mem header = rtmDelAddr →
    16 + ifaddrmsgSize ≤ nlmsghdr.length order mem header ∧
      ∀ attr ∈ attributes order mem header ifaddrmsgSize,
        (rtaType order mem attr = ifaFlags → 8 ≤ rtattr.length order mem attr) ∧
        (rtaType order mem attr = ifaAddress →
          ∀ f ∈ familyOf (field order mem (nlmsgData header) 1),
            4 + f.size ≤ rtattr.length order mem attr)
  label : nlmsgType order mem header = rtmNewAddr ∨ nlmsgType order mem header = rtmDelAddr →
    Terminated order mem ifaLabel header ifaddrmsgSize
  link : nlmsgType order mem header = rtmNewLink ∨ nlmsgType order mem header = rtmDelLink →
    16 + ifinfomsgSize ≤ nlmsghdr.length order mem header
  ifname : nlmsgType order mem header = rtmNewLink →
    Terminated order mem iflaIfname header ifinfomsgSize

instance (order : ByteOrder) (mem : Nat → BitVec 8) (header : Nat) :
    Decidable (CompleteAt order mem header) :=
  decidable_of_iff (_ ∧ _ ∧ _ ∧ _) ⟨fun ⟨haddress, hlabel, hlink, hifname⟩ =>
    ⟨haddress, hlabel, hlink, hifname⟩, fun h => ⟨h.address, h.label, h.link, h.ifname⟩⟩

theorem headers_bounds {len : Nat} (h : p ∈ headers order mem len) :
    16 ≤ nlmsghdr.length order mem p ∧ p + nlmsghdr.length order mem p ≤ len := by
  obtain ⟨-, hheader, hin, -⟩ := Format.walk_bounds h
  exact ⟨hheader, by omega⟩

theorem attributes_bounds {header size attr : Nat} (h : attr ∈ attributes order mem header size) :
    header + 16 + size ≤ attr ∧ 4 ≤ rtattr.length order mem attr ∧
      attr + rtattr.length order mem attr ≤ header + nlmsghdr.length order mem header := by
  obtain ⟨hle, hheader, hin, -⟩ := Format.walk_bounds h
  replace hheader : 4 ≤ rtattr.length order mem attr := hheader
  unfold payload nlmsgData at hin
  unfold nlmsgData at hle
  refine ⟨hle, hheader, ?_⟩
  omega

/-! ## Equal bytes -/

theorem mapM_eq_some {α β : Type} {f : α → Option β} {g : α → β} {l : List α}
    (h : ∀ a ∈ l, f a = some (g a)) : l.mapM f = some (l.map g) := by
  induction l with
  | nil => rfl
  | cons a l ih =>
    rw [List.mapM_cons, h a List.mem_cons_self, ih fun b hb => h b (List.mem_cons_of_mem a hb)]
    rfl

section
variable {len header size attr : Nat} (hsame : ∀ i < len, mem i = mem' i)
include hsame

theorem slice_same (h : pos + width ≤ len) : slice mem pos width = slice mem' pos width :=
  slice_congr fun i _ hlt => hsame i (by omega)

theorem field_same (h : pos + width ≤ len) : field order mem pos width = field order mem' pos width :=
  congrArg order.value (slice_same hsame h)

theorem headers_same : headers order mem len = headers order mem' len := by
  refine Format.walk_congr (fun i _ hlt => hsame i (by omega)) fun p _ hlt => ?_
  replace hlt : p + 16 ≤ 0 + len := hlt
  unfold nlmsgType
  rw [field_same hsame (by omega)]

theorem attributes_same (hheader : header + nlmsghdr.length order mem header ≤ len)
    (hlength : nlmsghdr.length order mem header = nlmsghdr.length order mem' header) :
    attributes order mem header size = attributes order mem' header size := by
  unfold attributes payload
  rw [← hlength]
  refine Format.walk_congr (fun i hle hlt => hsame i ?_) fun _ _ _ => rfl
  unfold nlmsgData at hle hlt
  omega

theorem extractAttribute_same (hattr : attr + rtattr.length order mem attr ≤ len)
    (hheader : 4 ≤ rtattr.length order mem attr)
    (hflags : rtaType order mem attr = ifaFlags → 8 ≤ rtattr.length order mem attr)
    (haddress : rtaType order mem attr = ifaAddress → ∀ f ∈ family,
      4 + f.size ≤ rtattr.length order mem attr) (info : Nat × Option Str) :
    extractAttribute order mem inetAddressToString family info attr =
      extractAttribute order mem' inetAddressToString family info attr := by
  have htype : rtaType order mem attr = rtaType order mem' attr := field_same hsame (by omega)
  unfold extractAttribute
  rw [← htype]
  by_cases hf : rtaType order mem attr = ifaFlags
  · have hlen := hflags hf
    rw [if_pos hf, if_pos hf, field_same hsame (by unfold rtaData; omega)]
  rw [if_neg hf, if_neg hf]
  by_cases ha : rtaType order mem attr = ifaAddress
  · rw [if_pos ha, if_pos ha]
    cases hfamily : family with
    | none => rfl
    | some f =>
      have hlen := haddress ha f hfamily
      have hslice : slice mem (rtaData attr) f.size = slice mem' (rtaData attr) f.size :=
        slice_same hsame (by unfold rtaData; omega)
      simp only [Option.map_some, hslice]
  · rw [if_neg ha, if_neg ha]

theorem extractInfo_same (hlen : header + nlmsghdr.length order mem header ≤ len)
    (hlength : nlmsghdr.length order mem header = nlmsghdr.length order mem' header)
    (hsize : 16 + ifaddrmsgSize ≤ nlmsghdr.length order mem header)
    (hattrs : ∀ attr ∈ attributes order mem header ifaddrmsgSize,
      (rtaType order mem attr = ifaFlags → 8 ≤ rtattr.length order mem attr) ∧
      (rtaType order mem attr = ifaAddress →
        ∀ f ∈ familyOf (field order mem (nlmsgData header) 1),
          4 + f.size ≤ rtattr.length order mem attr)) :
    extractInfo order mem inetAddressToString header =
      extractInfo order mem' inetAddressToString header := by
  unfold ifaddrmsgSize at hsize
  have hfield : ∀ offset width, offset + width ≤ 8 →
      field order mem (nlmsgData header + offset) width =
        field order mem' (nlmsgData header + offset) width := by
    intro offset width hle
    exact field_same hsame (by unfold nlmsgData; omega)
  have hfold : ∀ info, (attributes order mem header ifaddrmsgSize).foldl
      (extractAttribute order mem inetAddressToString
        (familyOf (field order mem (nlmsgData header) 1))) info =
      (attributes order mem' header ifaddrmsgSize).foldl
        (extractAttribute order mem' inetAddressToString
          (familyOf (field order mem (nlmsgData header) 1))) info := by
    intro info
    rw [← attributes_same hsame hlen hlength]
    refine List.foldl_ext _ _ _ fun info attr hattr => ?_
    obtain ⟨-, hheader, hin⟩ := attributes_bounds hattr
    obtain ⟨hflags, haddress⟩ := hattrs attr hattr
    exact extractAttribute_same hsame (by omega) hheader hflags haddress info
  unfold extractInfo
  simp only [hfold]
  rw [hfield 2 1 (by decide), hfield 4 4 (by decide),
    show field order mem (nlmsgData header) 1 = field order mem' (nlmsgData header) 1 from
      hfield 0 1 (by decide)]

theorem ifInfoMsg_same (hlen : header + nlmsghdr.length order mem header ≤ len)
    (hsize : 16 + ifinfomsgSize ≤ nlmsghdr.length order mem header) :
    ifInfoMsg order mem header = ifInfoMsg order mem' header := by
  unfold ifinfomsgSize at hsize
  have hindex : field order mem (nlmsgData header + 4) 4 = field order mem' (nlmsgData header + 4) 4 :=
    field_same hsame (by unfold nlmsgData; omega)
  have hflags : field order mem (nlmsgData header + 8) 4 = field order mem' (nlmsgData header + 8) 4 :=
    field_same hsame (by unfold nlmsgData; omega)
  unfold ifInfoMsg
  simp only [hindex, hflags]

theorem extractLinkMessageInfo_same (hlen : header + nlmsghdr.length order mem header ≤ len)
    (hlength : nlmsghdr.length order mem header = nlmsghdr.length order mem' header) :
    extractLinkMessageInfo order mem header = extractLinkMessageInfo order mem' header := by
  unfold extractLinkMessageInfo
  rw [← attributes_same hsame hlen hlength, Bool.eq_iff_iff, List.any_eq_true, List.any_eq_true]
  have htype : ∀ attr ∈ attributes order mem header ifinfomsgSize,
      rtaType order mem attr = rtaType order mem' attr := by
    intro attr hattr
    obtain ⟨-, hheader, hin⟩ := attributes_bounds hattr
    exact field_same hsame (by omega)
  constructor
  · rintro ⟨attr, hattr, h⟩
    exact ⟨attr, hattr, htype attr hattr ▸ h⟩
  · rintro ⟨attr, hattr, h⟩
    exact ⟨attr, hattr, (htype attr hattr).symm ▸ h⟩

/-- Strings that end in their attributes are the same in both memories, wherever these end. -/
theorem duplicated_same {limit limit' type : Nat} (hlen : header + nlmsghdr.length order mem header ≤ len)
    (hlength : nlmsghdr.length order mem header = nlmsghdr.length order mem' header)
    (hends : Terminated order mem type header size) (hlimit : len ≤ limit) (hlimit' : len ≤ limit') :
    ∃ strings, duplicated order mem limit type header size = some strings ∧
      duplicated order mem' limit' type header size = some strings := by
  let places := (attributes order mem header size).filter fun attr => rtaType order mem attr = type
  have hplaces : ((attributes order mem' header size).filter fun attr =>
      rtaType order mem' attr = type) = places := by
    rw [← attributes_same hsame hlen hlength]
    refine List.filter_congr fun attr hattr => ?_
    obtain ⟨-, hheader, hin⟩ := attributes_bounds hattr
    have htype : rtaType order mem attr = rtaType order mem' attr := field_same hsame (by omega)
    rw [htype]
  refine ⟨places.map fun attr => (slice mem (rtaData attr)
    (rtattr.length order mem attr - 4)).takeWhile (· ≠ 0), ?_, ?_⟩
  · refine mapM_eq_some fun attr hattr => ?_
    obtain ⟨hmem, htype⟩ := List.mem_filter.1 hattr
    obtain ⟨-, hheader, hin⟩ := attributes_bounds hmem
    exact string_of_mem (hends attr hmem (of_decide_eq_true htype)) (by unfold rtaData; omega)
  · unfold duplicated
    rw [hplaces]
    refine mapM_eq_some fun attr hattr => ?_
    obtain ⟨hmem, htype⟩ := List.mem_filter.1 hattr
    obtain ⟨-, hheader, hin⟩ := attributes_bounds hmem
    have hslice : slice mem (rtaData attr) (rtattr.length order mem attr - 4) =
        slice mem' (rtaData attr) (rtattr.length order mem attr - 4) :=
      slice_same hsame (by unfold rtaData; omega)
    have hend := hends attr hmem (of_decide_eq_true htype)
    rw [hslice] at hend ⊢
    exact string_of_mem hend (by unfold rtaData; omega)

/-- The name in a complete message is the same in both memories. -/
theorem interfaceName_same {limit limit' : Nat} (hheader : header ∈ headers order mem len)
    (hcomplete : CompleteAt order mem header) (hlimit : len ≤ limit) (hlimit' : len ≤ limit') :
    ∃ name, interfaceName order mem limit header = some name ∧
      interfaceName order mem' limit' header = some name := by
  obtain ⟨hmin, hlen⟩ := headers_bounds hheader
  have htype : nlmsgType order mem header = nlmsgType order mem' header :=
    field_same hsame (by omega)
  have hlength : nlmsghdr.length order mem header = nlmsghdr.length order mem' header :=
    field_same hsame (show header + 4 ≤ len by omega)
  unfold interfaceName
  rw [← htype]
  by_cases haddress : nlmsgType order mem header = rtmNewAddr ∨ nlmsgType order mem header = rtmDelAddr
  · obtain ⟨strings, hstrings, hstrings'⟩ :=
      duplicated_same hsame hlen hlength (hcomplete.label haddress) hlimit hlimit'
    rw [if_pos haddress, if_pos haddress, hstrings, hstrings']
    exact ⟨_, rfl, rfl⟩
  rw [if_neg haddress, if_neg haddress]
  by_cases hlink : nlmsgType order mem header = rtmNewLink
  · obtain ⟨strings, hstrings, hstrings'⟩ :=
      duplicated_same hsame hlen hlength (hcomplete.ifname hlink) hlimit hlimit'
    rw [if_pos hlink, if_pos hlink, hstrings, hstrings']
    exact ⟨_, rfl, rfl⟩
  · rw [if_neg hlink, if_neg hlink]
    exact ⟨_, rfl, rfl⟩

/-- A complete message of the datagram is the same in both memories. -/
theorem messageAt_same (hheader : header ∈ headers order mem len)
    (hcomplete : CompleteAt order mem header) (created : Bool) :
    messageAt order mem inetAddressToString created header =
      messageAt order mem' inetAddressToString created header := by
  obtain ⟨hmin, hlen⟩ := headers_bounds hheader
  have htype : nlmsgType order mem header = nlmsgType order mem' header :=
    field_same hsame (by omega)
  have hlength : nlmsghdr.length order mem header = nlmsghdr.length order mem' header :=
    field_same hsame (show header + 4 ≤ len by omega)
  have hinfo : nlmsgType order mem header = rtmNewAddr ∨ nlmsgType order mem header = rtmDelAddr →
      extractInfo order mem inetAddressToString header =
        extractInfo order mem' inetAddressToString header := by
    intro ht
    obtain ⟨hsize, hattrs⟩ := hcomplete.address ht
    exact extractInfo_same hsame hlen hlength hsize hattrs
  have hlink : nlmsgType order mem header = rtmNewLink ∨ nlmsgType order mem header = rtmDelLink →
      ifInfoMsg order mem header = ifInfoMsg order mem' header := fun ht =>
    ifInfoMsg_same hsame hlen (hcomplete.link ht)
  unfold messageAt
  rw [← htype, ← extractLinkMessageInfo_same hsame hlen hlength]
  split
  · rename_i ht
    rw [hinfo (.inl ht)]
  split
  · rename_i ht
    rw [hinfo (.inr ht)]
  split
  · rename_i ht
    rw [hlink (.inl ht)]
  split
  · rename_i ht
    rw [hlink (.inr ht)]
  · rfl

end

/-- Whatever bytes arrive: every message that is looked at is in the datagram, and every attribute in its
message, each after the one before; and where the structures and attributes are complete and the strings
end, what comes after the datagram does not matter, neither to the manager nor to the names. -/
theorem datagram_framed (order : ByteOrder) (mem : Nat → BitVec 8) (len : Nat) :
    ((headers order mem len).Pairwise fun p q => p + nlmsghdr.length order mem p ≤ q) ∧
    (∀ p ∈ headers order mem len, p + nlmsghdr.length order mem p ≤ len ∧
      ∀ size, ((attributes order mem p size).Pairwise fun a b => a + rtattr.length order mem a ≤ b) ∧
        ∀ a ∈ attributes order mem p size, p + 16 + size ≤ a ∧
          a + rtattr.length order mem a ≤ p + nlmsghdr.length order mem p) ∧
    ((∀ p ∈ headers order mem len, CompleteAt order mem p) →
      ∀ mem', (∀ i < len, mem i = mem' i) →
        (∀ inetAddressToString created s,
          receiveNetlinkMessage order mem inetAddressToString created len s =
            receiveNetlinkMessage order mem' inetAddressToString created len s) ∧
        ∀ limit limit', len ≤ limit → len ≤ limit' → ∀ p ∈ headers order mem len,
          ∃ name, interfaceName order mem limit p = some name ∧
            interfaceName order mem' limit' p = some name) := by
  refine ⟨Format.walk_pairwise .., fun p hp => ⟨(headers_bounds hp).2, fun size =>
    ⟨Format.walk_pairwise .., fun a ha => ?_⟩⟩, fun hcomplete mem' hsame =>
    ⟨fun inetAddressToString created s => ?_, fun limit limit' hlimit hlimit' p hp =>
      interfaceName_same hsame hp (hcomplete p hp) hlimit hlimit'⟩⟩
  · obtain ⟨hle, -, hin⟩ := attributes_bounds ha
    exact ⟨hle, hin⟩
  · unfold receiveNetlinkMessage
    rw [← headers_same hsame]
    congr 1
    refine List.filterMap_congr fun x hx => ?_
    obtain ⟨header, i⟩ := x
    have hheader := List.fst_mem_of_mem_zipIdx hx
    exact messageAt_same hsame hheader (hcomplete header hheader) (created i)

end

/-- It does not matter what is left in the buffer from another datagram. -/
theorem datagram_framed_sample :
    receiveNetlinkMessage .little (fun i => (datagram .little sampleDatagram).getD i 0xff) dotted
        (fun _ => true) (datagram .little sampleDatagram).length .init =
      receiveNetlinkMessage .little (fun i => (datagram .little sampleDatagram).getD i 0) dotted
        (fun _ => true) (datagram .little sampleDatagram).length .init ∧
      ∃ name,
        interfaceName .little (fun i => (datagram .little sampleDatagram).getD i 0xff) 120 0 =
          some name ∧
        interfaceName .little (fun i => (datagram .little sampleDatagram).getD i 0) 8192 0 =
          some name := by
  have hsame : ∀ i < (datagram .little sampleDatagram).length,
      (datagram .little sampleDatagram).getD i 0xff = (datagram .little sampleDatagram).getD i 0 := by
    intro i hi
    rw [List.getD_eq_getElem _ _ hi, List.getD_eq_getElem _ _ hi]
  obtain ⟨hmanager, hnames⟩ := (datagram_framed .little
    (fun i => (datagram .little sampleDatagram).getD i 0xff) _).2.2 (by decide +kernel) _ hsame
  exact ⟨hmanager _ _ _, hnames 120 8192 (by decide +kernel) (by decide +kernel) 0 (by decide +kernel)⟩

end GUPnP.LinuxContextManager
