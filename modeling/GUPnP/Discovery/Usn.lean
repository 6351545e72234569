import GUPnP.ControlPoint.Model

/-!
# USNs that come apart again

`parse_usn` takes a USN apart at `::`, so a USN is read as it was meant where neither the UDN nor the
type brings a `::` of its own. A UDN that ends in a colon does, and so does an empty field of a type
(`Udn`, `TypeOf`).
-/

set_option autoImplicit false

namespace GUPnP.Discovery

open ControlPoint

/-! ## UDNs and types -/

/-- A UDN: it starts with `uuid:` and has no `::`. -/
structure Udn (udn : Str) : Prop where
  uuid : "uuid:".toList <+: udn
  separator : ¬ "::".toList <:+: udn

/-- A positive decimal number of 32 bits. -/
structure Version (v : Str) : Prop where
  ne_nil : v ≠ []
  digits : ∀ c ∈ v, c.isDigit = true
  pos : 0 < Nat.ofDigitChars 10 v 0
  lt : Nat.ofDigitChars 10 v 0 < 2 ^ 32

/-- The type of a device or a service: `urn:domain:kind:type:v`. -/
structure TypeOf (kind domain type v s : Str) : Prop where
  eq : s = "urn".toList ++ ':' :: (domain ++ ':' :: (kind ++ ':' :: (type ++ ':' :: v)))
  domain : ':' ∉ domain
  type : ':' ∉ type
  version : Version v

/-! ## No `::` -/

variable {domain kind type udn v s : Str}

theorem Version.not_mem (h : Version v) : ':' ∉ v := fun hm => absurd (h.digits _ hm) (by decide)

/-- A UDN that ends in no colon stays apart from what follows its `::`. -/
theorem Udn.not_colons (h : Udn udn) (hlast : udn.getLast? ≠ some ':') :
    ¬ "::".toList <:+: udn ++ ("::".toList).dropLast := by
  have hdrop : ("::".toList).dropLast = [':'] := by decide
  rw [hdrop]
  intro hi
  rw [← List.reverse_infix, List.reverse_append] at hi
  have hi : [':', ':'] <:+: ':' :: udn.reverse := hi
  rcases List.infix_cons_iff.1 hi with hp | hi
  · obtain ⟨rest, hrest⟩ := hp
    have hc : udn.reverse.head? = some ':' := by
      have htail : ':' :: rest = udn.reverse := by simpa using hrest
      rw [← htail]
      rfl
    exact hlast (by simpa using hc)
  · have hi : "::".toList.reverse <:+: udn.reverse := hi
    exact h.separator (List.reverse_infix.1 hi)

/-! ## Parsing -/

theorem parseUsn_udn (h : Udn udn) : parseUsn udn = some (udn, none) := by
  have hne : udn ≠ [] := by
    rintro rfl
    exact absurd h.uuid.length_le (by decide)
  unfold parseUsn
  rw [if_neg (not_not.2 h.uuid), CString.strsplit_of_not_infix hne h.separator]

/-- What is before and after the `::`. -/
theorem parseUsn_append (h : Udn udn) (hlast : udn.getLast? ≠ some ':') (hs : s ≠ [])
    (hsep : ¬ "::".toList <:+: s) :
    parseUsn (udn ++ "::".toList ++ s) =
      let secondBits := CString.strsplit ":".toList s
      if secondBits[0]? = some "upnp".toList ∧ secondBits[1]? = some "rootdevice".toList then
        some (udn, none)
      else if 3 ≤ secondBits.length ∧ secondBits[0]? = some "urn".toList then
        if secondBits[2]? = some "device".toList then some (udn, none)
        else if secondBits[2]? = some "service".toList then some (udn, some s)
        else none
      else none := by
  have hpre : "uuid:".toList <+: udn ++ "::".toList ++ s := by
    rw [List.append_assoc]
    exact h.uuid.trans (List.prefix_append _ _)
  have hsplit : CString.strsplit "::".toList (udn ++ "::".toList ++ s) = [udn, s] := by
    rw [CString.strsplit_append (by decide) hs (h.not_colons hlast),
      CString.strsplit_of_not_infix hs hsep]
  unfold parseUsn
  rw [if_neg (not_not.2 hpre), hsplit]

theorem parseUsn_rootdevice (h : Udn udn) (hlast : udn.getLast? ≠ some ':') :
    parseUsn (udn ++ "::upnp:rootdevice".toList) = some (udn, none) := by
  have hcut : udn ++ "::upnp:rootdevice".toList =
      udn ++ "::".toList ++ "upnp:rootdevice".toList := by
    rw [List.append_assoc]
    rfl
  rw [hcut, parseUsn_append h hlast (by decide) (by decide)]
  have hbits : CString.strsplit ":".toList "upnp:rootdevice".toList =
      ["upnp".toList, "rootdevice".toList] := by decide
  rw [hbits]
  rfl

theorem TypeOf.ne_nil (h : TypeOf kind domain type v s) : s ≠ [] := by
  rw [h.eq]
  nofun

/-- The fields of a type; the last two are not looked at. -/
theorem TypeOf.strsplit (h : TypeOf kind domain type v s) (hk : ':' ∉ kind) :
    ∃ rest, CString.strsplit ":".toList s = "urn".toList :: domain :: kind :: rest := by
  refine ⟨CString.strsplit ":".toList (type ++ ':' :: v), ?_⟩
  have hcolon : ":".toList = [':'] := by decide
  rw [h.eq, hcolon, CString.strsplit_char (by simp) (by decide),
    CString.strsplit_char (by simp) h.domain, CString.strsplit_char (by simp) hk]

/-- The USN of a type of a device. -/
theorem parseUsn_device (h : Udn udn) (hlast : udn.getLast? ≠ some ':')
    (ht : TypeOf "device".toList domain type v s) (hsep : ¬ "::".toList <:+: s) :
    parseUsn (udn ++ "::".toList ++ s) = some (udn, none) := by
  obtain ⟨rest, hbits⟩ := ht.strsplit (by decide)
  rw [parseUsn_append h hlast ht.ne_nil hsep, hbits]
  simp

/-- The USN of a service. -/
theorem parseUsn_service (h : Udn udn) (hlast : udn.getLast? ≠ some ':')
    (ht : TypeOf "service".toList domain type v s) (hsep : ¬ "::".toList <:+: s) :
    parseUsn (udn ++ "::".toList ++ s) = some (udn, some s) := by
  obtain ⟨rest, hbits⟩ := ht.strsplit (by decide)
  rw [parseUsn_append h hlast ht.ne_nil hsep, hbits]
  simp

/-! ## Versions -/

/-- The number of a version survives `atol` and the conversion to `guint`. -/
theorem Version.versionOf (h : Version v) : versionOf v = Nat.ofDigitChars 10 v 0 := by
  have hpos := h.pos
  have hlt := h.lt
  unfold ControlPoint.versionOf CString.strtol
  rw [CString.numeral_of_digits h.ne_nil h.digits]
  simp only [Bool.false_eq_true, if_false]
  omega

/-- A type matches itself. -/
theorem TypeOf.compare_self (h : TypeOf kind domain type v s) :
    compareServiceTypesVersioned s s = true := by
  have hs : s = ("urn".toList ++ ':' :: (domain ++ ':' :: (kind ++ ':' :: type))) ++ ':' :: v := by
    rw [h.eq]
    simp only [List.append_assoc, List.cons_append]
  have hcut := CString.strrchr_append
    (a := "urn".toList ++ ':' :: (domain ++ ':' :: (kind ++ ':' :: type))) h.version.not_mem
  rw [← hs] at hcut
  have hpos := h.version.pos
  have hne : ¬ ControlPoint.versionOf v = 0 := by
    rw [h.version.versionOf]
    omega
  simp only [compareServiceTypesVersioned, hcut]
  simp [hne, CString.strncmpEq]

end GUPnP.Discovery
