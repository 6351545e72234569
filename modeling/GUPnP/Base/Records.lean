import Mathlib.Algebra.Group.Nat.Defs
import Mathlib.Algebra.Order.Group.Nat
import Mathlib.Data.List.Forall2
import Mathlib.Data.List.GetD
import Mathlib.Data.List.TakeWhile

/-!
# Records in a memory

A block of memory that holds one record after the other: each begins with its length, and the next one
begins at an aligned place after it. A loop that goes from record to record stays in the block
(`Format.walk_bounds`), sees nothing outside of it (`Format.walk_congr`), and comes by exactly the
records that were put there (`Format.walk_records`).
-/

set_option autoImplicit false

namespace GUPnP.Records

/-! ## Numbers in a memory -/

/-- The bytes at a place. -/
def slice (mem : Nat → BitVec 8) (pos n : Nat) : List (BitVec 8) := (List.range' pos n).map mem

/-- The string at a place, its bytes up to the first NUL. The memory ends at `limit`; where no NUL comes
before there is no string. -/
def string (mem : Nat → BitVec 8) (limit pos : Nat) : Option (List (BitVec 8)) :=
  let bytes := slice mem pos (limit - pos)
  if 0 ∈ bytes then some (bytes.takeWhile (· ≠ 0)) else none

/-- The number with these digits, the lowest first. -/
def ofDigits : List (BitVec 8) → Nat
  | [] => 0
  | digit :: digits => digit.toNat + 256 * ofDigits digits

def toDigits : Nat → Nat → List (BitVec 8)
  | 0, _ => []
  | width + 1, value => BitVec.ofNat 8 value :: toDigits width (value / 256)

inductive ByteOrder where
  | little
  | big
  deriving DecidableEq, Repr

namespace ByteOrder

def value : ByteOrder → List (BitVec 8) → Nat
  | .little, bytes => ofDigits bytes
  | .big, bytes => ofDigits bytes.reverse

def bytes : ByteOrder → Nat → Nat → List (BitVec 8)
  | .little, width, value => toDigits width value
  | .big, width, value => (toDigits width value).reverse

end ByteOrder

/-- The memory has these bytes at a place. -/
def Holds (mem : Nat → BitVec 8) (pos : Nat) (bytes : List (BitVec 8)) : Prop :=
  slice mem pos bytes.length = bytes

section
variable {order : ByteOrder} {mem mem' : Nat → BitVec 8} {pos m n width value : Nat}
  {a b bytes : List (BitVec 8)}

@[simp] theorem length_slice : (slice mem pos n).length = n := by
  rw [slice, List.length_map, List.length_range']

theorem slice_add (mem : Nat → BitVec 8) (pos m n : Nat) :
    slice mem pos (m + n) = slice mem pos m ++ slice mem (pos + m) n := by
  unfold slice
  rw [← List.map_append, ← List.range'_append_1]

theorem slice_congr (h : ∀ i, pos ≤ i → i < pos + n → mem i = mem' i) :
    slice mem pos n = slice mem' pos n := by
  unfold slice
  refine List.map_congr_left fun i hi => ?_
  obtain ⟨hle, hlt⟩ := List.mem_range'_1.1 hi
  exact h i hle hlt

/-- A string that ends in a block is read in it. -/
theorem string_of_mem {limit : Nat} (h : 0 ∈ slice mem pos n) (hle : pos + n ≤ limit) :
    string mem limit pos = some ((slice mem pos n).takeWhile (· ≠ 0)) := by
  obtain ⟨rest, hrest⟩ := Nat.exists_eq_add_of_le (Nat.le_sub_of_add_le' hle)
  have hbytes : slice mem pos (limit - pos) = slice mem pos n ++ slice mem (pos + n) rest := by
    rw [hrest, slice_add]
  have hends : ((slice mem pos n).takeWhile (· ≠ 0)).length ≠ (slice mem pos n).length := by
    intro hlength
    have hall := (List.takeWhile_sublist (l := slice mem pos n) (· ≠ 0)).eq_of_length hlength
    have hzero := List.takeWhile_eq_self_iff.1 hall 0 h
    exact absurd hzero (by decide)
  unfold string
  rw [hbytes]
  dsimp only
  rw [if_pos (List.mem_append_left _ h), List.takeWhile_append, if_neg hends]

@[simp] theorem length_toDigits (width value : Nat) : (toDigits width value).length = width := by
  induction width generalizing value with
  | zero => rfl
  | succ width ih => rw [toDigits, List.length_cons, ih]

theorem ofDigits_toDigits (h : value < 256 ^ width) : ofDigits (toDigits width value) = value := by
  induction width generalizing value with
  | zero =>
    rw [pow_zero] at h
    rw [toDigits, ofDigits]
    omega
  | succ width ih =>
    rw [pow_succ] at h
    have hrest : value / 256 < 256 ^ width := by omega
    rw [toDigits, ofDigits, ih hrest, BitVec.toNat_ofNat]
    exact Nat.mod_add_div value 256

@[simp] theorem length_bytes (order : ByteOrder) (width value : Nat) :
    (order.bytes width value).length = width := by
  cases order with
  | little => exact length_toDigits width value
  | big => exact (List.length_reverse).trans (length_toDigits width value)

theorem value_bytes (order : ByteOrder) (h : value < 256 ^ width) :
    order.value (order.bytes width value) = value := by
  cases order with
  | little => exact ofDigits_toDigits h
  | big =>
    rw [ByteOrder.bytes, ByteOrder.value, List.reverse_reverse]
    exact ofDigits_toDigits h

theorem holds_append :
    Holds mem pos (a ++ b) ↔ Holds mem pos a ∧ Holds mem (pos + a.length) b := by
  unfold Holds
  rw [List.length_append, slice_add]
  constructor
  · intro h
    exact List.append_inj h length_slice
  · rintro ⟨ha, hb⟩
    rw [ha, hb]

theorem holds_getD (bytes : List (BitVec 8)) (rest : BitVec 8) :
    Holds (fun i => bytes.getD i rest) 0 bytes := by
  unfold Holds slice
  refine List.ext_getElem (by rw [List.length_map, List.length_range']) fun i _ hi => ?_
  rw [List.getElem_map, List.getElem_range', Nat.zero_add, Nat.one_mul,
    List.getD_eq_getElem bytes rest hi]

theorem Holds.value_eq (h : Holds mem pos (order.bytes width value)) (hlt : value < 256 ^ width) :
    order.value (slice mem pos width) = value := by
  unfold Holds at h
  rw [length_bytes] at h
  rw [h, value_bytes order hlt]

end

/-! ## Records -/

/-- The size of the header of a record, of the length with which it begins, and the alignment. -/
structure Format where
  header : Nat
  lengthField : Nat
  align : Nat
  header_pos : 0 < header
  lengthField_le : lengthField ≤ header
  align_pos : 0 < align

namespace Format

section
variable (f : Format) (order : ByteOrder) (mem : Nat → BitVec 8)

def aligned (n : Nat) : Nat := (n + f.align - 1) / f.align * f.align

/-- The length that the record at a place says it has. -/
def length (pos : Nat) : Nat := order.value (slice mem pos f.lengthField)

/-- Whether there is a record at a place, with so many bytes left. -/
def ok (pos len : Nat) : Bool :=
  decide (f.header ≤ len) && decide (f.header ≤ f.length order mem pos) &&
    decide (f.length order mem pos ≤ len)

/-- The places of the records, up to the first one that is an end. When the last record ends before it
is aligned nothing is left. -/
def walk (isEnd : Nat → Bool) : Nat → Nat → Nat → List Nat
  | 0, _, _ => []
  | fuel + 1, pos, len =>
    if f.ok order mem pos len && !isEnd pos then
      pos :: walk isEnd fuel (pos + f.aligned (f.length order mem pos))
        (len - f.aligned (f.length order mem pos))
    else []

/-- A record with this content after its length. -/
def record (content : List (BitVec 8)) : List (BitVec 8) :=
  let n := f.lengthField + content.length
  order.bytes f.lengthField n ++ content ++ List.replicate (f.aligned n - n) 0

/-- The content has the rest of a header, and the length can be written down. -/
structure Fits (content : List (BitVec 8)) : Prop where
  header_le : f.header ≤ f.lengthField + content.length
  lt : f.lengthField + content.length < 256 ^ f.lengthField

end

section
variable {f : Format} {order : ByteOrder} {mem mem' : Nat → BitVec 8} {isEnd isEnd' : Nat → Bool}
  {fuel pos p len n : Nat} {content : List (BitVec 8)}

theorem le_aligned (f : Format) (n : Nat) : n ≤ f.aligned n := by
  unfold aligned
  have hpos := f.align_pos
  have hmod := Nat.mod_lt (n + f.align - 1) hpos
  have hdiv := Nat.div_add_mod (n + f.align - 1) f.align
  rw [Nat.mul_comm] at hdiv
  omega

theorem ok_iff : f.ok order mem pos len = true ↔
    f.header ≤ f.length order mem pos ∧ f.length order mem pos ≤ len := by
  unfold ok
  rw [Bool.and_eq_true, Bool.and_eq_true, decide_eq_true_iff, decide_eq_true_iff, decide_eq_true_iff]
  constructor
  · exact fun h => ⟨h.1.2, h.2⟩
  · exact fun h => ⟨⟨h.1.trans h.2, h.1⟩, h.2⟩

/-! ## The loop stays in the block -/

/-- The records that the loop comes by are in the block, and none is an end. -/
theorem walk_bounds (h : p ∈ f.walk order mem isEnd fuel pos len) :
    pos ≤ p ∧ f.header ≤ f.length order mem p ∧ p + f.length order mem p ≤ pos + len ∧
      isEnd p = false := by
  induction fuel generalizing pos len with
  | zero => cases h
  | succ fuel ih =>
    rw [walk] at h
    split at h
    · rename_i hok
      rw [Bool.and_eq_true, ok_iff, Bool.not_eq_true'] at hok
      obtain ⟨⟨hheader, hlen⟩, hend⟩ := hok
      rcases List.mem_cons.1 h with rfl | h
      · exact ⟨le_refl _, hheader, by omega, hend⟩
      · obtain ⟨hle, hheader', hin, hend'⟩ := ih h
        have hpos := f.header_pos
        refine ⟨by omega, hheader', ?_, hend'⟩
        omega
    · cases h

/-- Each record ends before the next one begins. -/
theorem walk_pairwise (f : Format) (order : ByteOrder) (mem : Nat → BitVec 8) (isEnd : Nat → Bool)
    (fuel pos len : Nat) : (f.walk order mem isEnd fuel pos len).Pairwise
      fun p q => p + f.length order mem p ≤ q := by
  induction fuel generalizing pos len with
  | zero => exact .nil
  | succ fuel ih =>
    rw [walk]
    split
    · refine List.pairwise_cons.2 ⟨fun q hq => ?_, ih _ _⟩
      have hle := f.le_aligned (f.length order mem pos)
      have hq := (walk_bounds hq).1
      omega
    · exact .nil

/-- The loop sees nothing of what is outside of the block. -/
theorem walk_congr (h : ∀ i, pos ≤ i → i < pos + len → mem i = mem' i)
    (hend : ∀ p, pos ≤ p → p + f.header ≤ pos + len → isEnd p = isEnd' p) :
    f.walk order mem isEnd fuel pos len = f.walk order mem' isEnd' fuel pos len := by
  induction fuel generalizing pos len with
  | zero => rfl
  | succ fuel ih =>
    rw [walk, walk]
    by_cases hlen : f.header ≤ len
    · have hfield := f.lengthField_le
      have hlength : f.length order mem pos = f.length order mem' pos :=
        congrArg order.value (slice_congr fun i hle hlt => h i hle (by omega))
      have hok : f.ok order mem pos len = f.ok order mem' pos len := by
        unfold ok
        rw [hlength]
      rw [hok, hend pos (le_refl _) (by omega), hlength]
      split
      · rename_i hvalid
        have hpos := f.header_pos
        have hle := f.le_aligned (f.length order mem' pos)
        rw [Bool.and_eq_true, ok_iff] at hvalid
        rw [ih (fun i hi hlt => h i (by omega) (by omega)) fun p hp hlt => hend p (by omega) (by omega)]
      · rfl
    · have hok : ∀ mem, f.ok order mem pos len = false := by
        intro mem
        unfold ok
        rw [decide_eq_false hlen, Bool.false_and, Bool.false_and]
      rw [hok, hok, Bool.false_and, Bool.false_and]
      rfl

/-! ## The loop comes by the records -/

@[simp] theorem length_record (f : Format) (order : ByteOrder) (content : List (BitVec 8)) :
    (f.record order content).length = f.aligned (f.lengthField + content.length) := by
  have hle := f.le_aligned (f.lengthField + content.length)
  rw [record, List.length_append, List.length_append, length_bytes, List.length_replicate]
  omega

theorem length_of_holds (h : Holds mem pos (f.record order content)) (hfits : f.Fits content) :
    f.length order mem pos = f.lengthField + content.length := by
  rw [record, List.append_assoc, holds_append] at h
  exact h.1.value_eq hfits.lt

/-- The content of a record. -/
theorem content_of_holds (h : Holds mem pos (f.record order content)) :
    Holds mem (pos + f.lengthField) content := by
  rw [record, List.append_assoc, holds_append, holds_append, length_bytes] at h
  exact h.2.1

/-- The loop comes by the records that are there, up to the first one that is an end. -/
theorem walk_records {α : Type} {items : List α} {content : α → List (BitVec 8)}
    {last : α → Bool} (hfits : ∀ x ∈ items, f.Fits (content x))
    (h : Holds mem pos (items.flatMap fun x => f.record order (content x)))
    (hend : ∀ x ∈ items, ∀ p, Holds mem p (f.record order (content x)) → isEnd p = last x)
    (hlen : len = (items.flatMap fun x => f.record order (content x)).length) (hfuel : len ≤ fuel) :
    List.Forall₂ (fun p x => Holds mem p (f.record order (content x)))
      (f.walk order mem isEnd fuel pos len) (items.takeWhile fun x => !last x) := by
  subst hlen
  induction items generalizing fuel pos with
  | nil =>
    have hnot : f.ok order mem pos 0 = false := by
      have hpos := f.header_pos
      unfold ok
      rw [decide_eq_false (by omega), Bool.false_and, Bool.false_and]
    rw [List.flatMap_nil, List.length_nil, List.takeWhile_nil]
    cases fuel with
    | zero => exact .nil
    | succ fuel =>
      rw [walk, hnot, Bool.false_and]
      exact .nil
  | cons x items ih =>
    rw [List.flatMap_cons, holds_append] at h
    obtain ⟨hhere, hrest⟩ := h
    have hfit := hfits x List.mem_cons_self
    have hlength := length_of_holds hhere hfit
    have hpos := f.header_pos
    have hle := f.le_aligned (f.lengthField + (content x).length)
    have hheader := hfit.header_le
    rw [List.flatMap_cons, List.length_append, length_record] at hfuel ⊢
    rw [length_record] at hrest
    cases fuel with
    | zero => omega
    | succ fuel =>
      have hok : f.ok order mem pos (f.aligned (f.lengthField + (content x).length) +
          (items.flatMap fun x => f.record order (content x)).length) = true := by
        rw [ok_iff, hlength]
        exact ⟨hheader, by omega⟩
      rw [walk, hok, Bool.true_and, hend x List.mem_cons_self pos hhere, List.takeWhile_cons]
      cases hlast : last x with
      | true => exact .nil
      | false =>
        rw [hlength, Nat.add_sub_cancel_left]
        refine .cons hhere (ih (fun y hy => hfits y (List.mem_cons_of_mem x hy)) hrest
          (fun y hy => hend y (List.mem_cons_of_mem x hy)) ?_)
        omega

/-- Where no record is an end the loop comes by all of them. -/
theorem walk_all {α : Type} {items : List α} {content : α → List (BitVec 8)}
    (hfits : ∀ x ∈ items, f.Fits (content x))
    (h : Holds mem pos (items.flatMap fun x => f.record order (content x)))
    (hlen : len = (items.flatMap fun x => f.record order (content x)).length) (hfuel : len ≤ fuel) :
    List.Forall₂ (fun p x => Holds mem p (f.record order (content x)))
      (f.walk order mem (fun _ => false) fuel pos len) items := by
  have hwalk : List.Forall₂ (fun p x => Holds mem p (f.record order (content x)))
      (f.walk order mem (fun _ => false) fuel pos len) (items.takeWhile fun _ => !false) :=
    walk_records hfits h (fun _ _ _ _ => rfl) hlen hfuel
  have hitems : (items.takeWhile fun _ => !false) = items :=
    List.takeWhile_eq_self_iff.2 fun _ _ => rfl
  rw [hitems] at hwalk
  exact hwalk

end

end Format

end GUPnP.Records
