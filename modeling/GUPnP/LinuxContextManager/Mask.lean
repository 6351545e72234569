import Mathlib.Tactic.IntervalCases

/-!
# The host mask of an address (`generate_mask`)

The netlink message of an address says how many of its first bits are those of its network.
`generate_mask` copies these bits: byte by byte, and in the last one a half byte and the rest by a
table. The table holds masks of the lower half of a byte, so that the rest is right when the upper half
was copied before (`lastByte_eq_iff`); `generate_mask_iff` says for which addresses the mask is that of
the network.
-/

set_option autoImplicit false

namespace GUPnP.LinuxContextManager

/-! ## The code -/

/-- `AF_INET` and `AF_INET6`. -/
inductive Family where
  | inet
  | inet6
  deriving DecidableEq, Repr

/-- The length of an address. -/
def Family.size : Family → Nat
  | .inet => 4
  | .inet6 => 16

/-- The bytes of an `IFA_ADDRESS` attribute that are read. -/
structure Address where
  family : Family
  bytes : List (BitVec 8)
  size : bytes.length = family.size

/-- `bits_a`. -/
def bitsA : List (BitVec 8) := [0x00, 0x08, 0x0C, 0x0E, 0x0F]

/-- The part of the loop for the last bits. -/
def lastByte (bits : Nat) (inByte : BitVec 8) : BitVec 8 :=
  let (outByte, bits) := if 4 ≤ bits then (inByte &&& 0xf0, bits - 4) else (0, bits)
  outByte ||| (inByte &&& bitsA.getD bits 0)

/-- The loop; the bytes after the last bits stay 0. -/
def maskBytes (bits : Nat) : List (BitVec 8) → List (BitVec 8)
  | [] => []
  | inByte :: inBuf =>
    if 8 < bits then (inByte &&& 0xff) :: maskBytes (bits - 8) inBuf
    else lastByte bits inByte :: inBuf.map fun _ => 0

/-- `generate_mask`. -/
def generateMask {β : Type} (inetAddressMaskNew : List (BitVec 8) → Nat → Option β)
    (prefixLen : Nat) (address : Address) : Option β :=
  inetAddressMaskNew (maskBytes prefixLen address.bytes) prefixLen

/-! ## The network -/

/-- A bit of an address, the first bit of a byte being its highest. -/
def bitAt (bytes : List (BitVec 8)) (k : Nat) : Bool := (bytes.getD (k / 8) 0).getMsbD (k % 8)

/-- The address with all bits after the first `prefixLen` cleared. -/
def IsNetwork (prefixLen : Nat) (bytes out : List (BitVec 8)) : Prop :=
  out.length = bytes.length ∧
    ∀ k < 8 * bytes.length, bitAt out k = (decide (k < prefixLen) && bitAt bytes k)

/-- The bits of a byte that `lastByte` keeps by mistake or does not keep. -/
def wrongBits (bits : Nat) : BitVec 8 :=
  match bits % 8 with
  | 1 => 0x88
  | 2 => 0xCC
  | 3 => 0xEE
  | _ => 0

/-- The byte in which the prefix ends has none of these bits. -/
def CopiedRight (prefixLen : Nat) (bytes : List (BitVec 8)) : Prop :=
  bytes.getD (prefixLen / 8) 0 &&& wrongBits prefixLen = 0

instance (prefixLen : Nat) (bytes : List (BitVec 8)) : Decidable (CopiedRight prefixLen bytes) :=
  inferInstanceAs (Decidable (_ = _))

/-! ## The last byte -/

/-- The first bits of a byte. -/
def firstBits (bits : Nat) : BitVec 8 := ~~~ (0xff#8 >>> bits)

theorem and_ff (x : BitVec 8) : x &&& 0xff = x := BitVec.and_allOnes

theorem ff_and (x : BitVec 8) : 0xff &&& x = x := BitVec.allOnes_and

/-- What is kept of a byte does not depend on the byte. -/
theorem lastByte_eq_and (bits : Nat) (inByte : BitVec 8) :
    lastByte bits inByte = inByte &&& lastByte bits 0xff := by
  by_cases h : 4 ≤ bits
  · simp only [lastByte, if_pos h, ff_and, BitVec.and_or_distrib_left]
  · simp only [lastByte, if_neg h, ff_and]
    exact (BitVec.zero_or).trans (congrArg _ BitVec.zero_or.symm)

theorem getMsbD_firstBits {bits k : Nat} (hbits : bits ≤ 8) (hk : k < 8) :
    (firstBits bits).getMsbD k = decide (k < bits) := by
  revert k
  interval_cases bits <;> decide

theorem lastByte_xor {bits : Nat} (hbits : bits ≤ 8) :
    lastByte bits 0xff ^^^ firstBits bits = wrongBits bits := by
  interval_cases bits <;> decide

theorem and_eq_and_iff (x y z : BitVec 8) : x &&& y = x &&& z ↔ x &&& (y ^^^ z) = 0 := by
  have hdistrib : x &&& (y ^^^ z) = (x &&& y) ^^^ (x &&& z) := by
    apply BitVec.eq_of_getLsbD_eq
    intro i _
    simp [Bool.and_xor_distrib_left]
  rw [hdistrib]
  exact BitVec.xor_eq_zero_iff.symm

/-- The last byte is right if and only if it has no wrong bits. -/
theorem lastByte_iff {bits : Nat} (hbits : bits ≤ 8) (inByte : BitVec 8) :
    (∀ k < 8, (lastByte bits inByte).getMsbD k = (decide (k < bits) && inByte.getMsbD k)) ↔
      inByte &&& wrongBits bits = 0 := by
  rw [← lastByte_xor hbits, ← and_eq_and_iff, ← lastByte_eq_and]
  constructor
  · intro h
    refine BitVec.eq_of_getMsbD_eq fun k hk => ?_
    rw [h k hk, BitVec.getMsbD_and, getMsbD_firstBits hbits hk, Bool.and_comm]
  · intro h k hk
    rw [h, BitVec.getMsbD_and, getMsbD_firstBits hbits hk, Bool.and_comm]

/-! ## The mask -/

section
variable {prefixLen : Nat} {bytes : List (BitVec 8)}

theorem bitAt_cons_of_lt {byte : BitVec 8} {k : Nat} (hk : k < 8) :
    bitAt (byte :: bytes) k = byte.getMsbD k := by
  have hdiv : k / 8 = 0 := by omega
  have hmod : k % 8 = k := by omega
  simp [bitAt, hdiv, hmod]

theorem bitAt_cons_add (byte : BitVec 8) (k : Nat) : bitAt (byte :: bytes) (k + 8) = bitAt bytes k := by
  have hdiv : (k + 8) / 8 = k / 8 + 1 := by omega
  have hmod : (k + 8) % 8 = k % 8 := by omega
  simp [bitAt, hdiv, hmod]

/-- The first byte and the others. -/
theorem isNetwork_cons_iff {byte byte' : BitVec 8} {out : List (BitVec 8)} :
    IsNetwork prefixLen (byte :: bytes) (byte' :: out) ↔
      (∀ k < 8, byte'.getMsbD k = (decide (k < prefixLen) && byte.getMsbD k)) ∧
        IsNetwork (prefixLen - 8) bytes out := by
  constructor
  · rintro ⟨hlen, hbits⟩
    refine ⟨fun k hk => ?_, by simpa using hlen, fun k hk => ?_⟩
    · have := hbits k (by simp; omega)
      rwa [bitAt_cons_of_lt hk, bitAt_cons_of_lt hk] at this
    · have := hbits (k + 8) (by simp; omega)
      rw [bitAt_cons_add, bitAt_cons_add] at this
      rw [this]
      congr 2
      simp
      omega
  · rintro ⟨hfirst, hlen, hrest⟩
    refine ⟨by simpa using hlen, fun k hk => ?_⟩
    by_cases hk8 : k < 8
    · rw [bitAt_cons_of_lt hk8, bitAt_cons_of_lt hk8]
      exact hfirst k hk8
    · obtain ⟨j, rfl⟩ : ∃ j, k = j + 8 := ⟨k - 8, by omega⟩
      rw [bitAt_cons_add, bitAt_cons_add, hrest j (by simp at hk; omega)]
      congr 2
      simp
      omega

theorem isNetwork_zero : IsNetwork 0 bytes (bytes.map fun _ => 0) := by
  refine ⟨by simp, fun k hk => ?_⟩
  have hk8 : k / 8 < bytes.length := by omega
  simp [bitAt, hk8]

theorem copiedRight_of_mod {n m : Nat} (hmod : n % 8 = m % 8) : wrongBits n = wrongBits m := by
  rw [wrongBits, hmod, wrongBits]

theorem maskBytes_iff (h : prefixLen ≤ 8 * bytes.length) :
    IsNetwork prefixLen bytes (maskBytes prefixLen bytes) ↔ CopiedRight prefixLen bytes := by
  induction bytes generalizing prefixLen with
  | nil =>
    obtain rfl : prefixLen = 0 := by simpa using h
    exact iff_of_true isNetwork_zero rfl
  | cons byte bytes ih =>
    rw [maskBytes]
    split
    · rename_i hlong
      have hdiv : prefixLen / 8 = (prefixLen - 8) / 8 + 1 := by omega
      rw [isNetwork_cons_iff, ih (by simp at h; omega), and_ff, CopiedRight, CopiedRight, hdiv,
        List.getD_cons_succ, copiedRight_of_mod (show (prefixLen - 8) % 8 = prefixLen % 8 by omega)]
      refine and_iff_right fun k hk => ?_
      have hkp : k < prefixLen := by omega
      simp [hkp]
    · rename_i hshort
      have hzero : prefixLen - 8 = 0 := by omega
      rw [isNetwork_cons_iff, hzero, and_iff_left isNetwork_zero, lastByte_iff (by omega), CopiedRight]
      by_cases hlt : prefixLen < 8
      · rw [Nat.div_eq_of_lt hlt, List.getD_cons_zero]
      · obtain rfl : prefixLen = 8 := by omega
        simp [wrongBits]

end

/-! ## Networks and other addresses -/

/-- The mask is the network of the address, and `g_inet_address_mask_new` takes it, if and only if the
prefix ends in a byte that the table does not spoil. -/
theorem generate_mask_iff {β : Type} (inetAddressMaskNew : List (BitVec 8) → Nat → Option β)
    (hnew : ∀ bytes n, n ≤ 8 * bytes.length →
      (∀ k, n ≤ k → k < 8 * bytes.length → bitAt bytes k = false) →
        (inetAddressMaskNew bytes n).isSome = true)
    (address : Address) {prefixLen : Nat} (h : prefixLen ≤ 8 * address.family.size) :
    IsNetwork prefixLen address.bytes (maskBytes prefixLen address.bytes) ∧
        (generateMask inetAddressMaskNew prefixLen address).isSome = true ↔
      CopiedRight prefixLen address.bytes := by
  rw [← address.size] at h
  rw [← maskBytes_iff h]
  refine and_iff_left_of_imp fun hnetwork => hnew _ _ ?_ fun k hk hlt => ?_
  · rw [hnetwork.1]
    exact h
  · rw [hnetwork.1] at hlt
    have hout : ¬ k < prefixLen := by omega
    rw [hnetwork.2 k hlt, decide_eq_false hout, Bool.false_and]

/-- `g_inet_address_mask_new`, which takes no address with bits after the prefix. -/
def sampleMaskNew (bytes : List (BitVec 8)) (n : Nat) : Option (List (BitVec 8) × Nat) :=
  if n ≤ 8 * bytes.length ∧ ∀ k < 8 * bytes.length, n ≤ k → bitAt bytes k = false then some (bytes, n)
  else none

/-- 192.168.77.5 in a network of 22 bits, and in one of 18. -/
theorem generate_mask_iff_sample :
    IsNetwork 22 [192, 168, 77, 5] (maskBytes 22 [192, 168, 77, 5]) ∧
      ¬ (IsNetwork 18 [192, 168, 77, 5] (maskBytes 18 [192, 168, 77, 5]) ∧
        (generateMask sampleMaskNew 18 ⟨.inet, [192, 168, 77, 5], rfl⟩).isSome = true) := by
  have hnew : ∀ bytes n, n ≤ 8 * bytes.length →
      (∀ k, n ≤ k → k < 8 * bytes.length → bitAt bytes k = false) →
        (sampleMaskNew bytes n).isSome = true := by
    intro bytes n hn hbits
    rw [sampleMaskNew, if_pos ⟨hn, fun k hk hnk => hbits k hnk hk⟩]
    rfl
  have hright := generate_mask_iff sampleMaskNew hnew ⟨.inet, [192, 168, 77, 5], rfl⟩
    (show 22 ≤ 8 * 4 by decide)
  have hwrong := generate_mask_iff sampleMaskNew hnew ⟨.inet, [192, 168, 77, 5], rfl⟩
    (show 18 ≤ 8 * 4 by decide)
  exact ⟨(hright.2 (by decide)).1, fun h => absurd (hwrong.1 h) (by decide)⟩

/-- In a network of 17 bits the last of them is lost. -/
theorem generate_mask_lost : maskBytes 17 [10, 0, 128, 1] = [10, 0, 0, 0] ∧
    ¬ IsNetwork 17 [10, 0, 128, 1] (maskBytes 17 [10, 0, 128, 1]) := by
  refine ⟨by decide, fun h => ?_⟩
  exact absurd (h.2 16 (by decide)) (by decide)

end GUPnP.LinuxContextManager
