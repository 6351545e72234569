import GUPnP.Base.AsciiCase
import GUPnP.Base.CString
import GUPnP.Base.Memory

/-!
# Names of handlers (`strip_camel_case`)

The handlers that are connected automatically have the names of the actions and variables in lower
case, with underscores. An underscore is inserted neither before the first character nor before the
last one, so twice the length of the name has room for all of them and the terminator, unless the name
is empty. The counters have 32 bits and do not reach the end of longer strings (`stripped_iff`).
-/

set_option autoImplicit false

namespace GUPnP.Service.CamelCase

/-! ## The function -/

/-- A byte of the result. -/
structure Cell where
  char : Char
  /-- It is an underscore that is not in the name. -/
  inserted : Bool
  deriving DecidableEq, Repr

/-- The character at the index, or the terminator. -/
def charAt (camelStr : Str) (i : UInt32) : Char := camelStr.getD i.toNat '\x00'

/-- What the body of the loop writes. -/
def round (camelStr : Str) (i : UInt32) : List Cell :=
  if (charAt camelStr i).isUpper then
    (if i ≠ 0 ∧ charAt camelStr (i + 1) ≠ '\x00' ∧ charAt camelStr (i - 1) ≠ '_' ∧
        ¬ (charAt camelStr (i - 1)).isUpper then [⟨'_', true⟩] else []) ++
      [⟨(charAt camelStr i).toLower, false⟩]
  else [⟨charAt camelStr i, false⟩]

/-- The loop of `strip_camel_case`; `fuel` bounds its rounds. -/
def loop (camelStr : Str) : Nat → UInt32 → UInt32 → Option (List (Write Cell))
  | 0, _, _ => none
  | fuel + 1, i, j =>
    if i.toNat ≤ camelStr.length then
      (loop camelStr fuel (i + 1) (j + UInt32.ofNat (round camelStr i).length)).map
        (consecutive j (round camelStr i) ++ ·)
    else some []

/-- `strip_camel_case`: what it writes to the memory it allocates. -/
def stripCamelCase (fuel : Nat) (camelStr : Str) : Option (List (Write Cell)) :=
  loop camelStr fuel 0 0

/-! ## The statement -/

variable {s : Str}

/-- The writes stay in the memory that is allocated, and leave a string there that is the name but for
the inserted underscores and the case. -/
structure Stripped (s : Str) (writes : List (Write Cell)) : Prop where
  count : writes.length ≤ 2 * s.length
  inside : ∀ w ∈ writes, w.index.toNat < 2 * s.length
  restores : ∃ result, ReadsUntil (fun cell => cell.char = '\x00') (memory writes) result ∧
    (result.filter fun cell => !cell.inserted).map (fun cell => cell.char.toLower) =
      s.map Char.toLower

/-- An upper case letter, not the first and not the last one, behind neither an underscore nor another
upper case letter. -/
def StartsWord (s : Str) (i : Nat) : Prop :=
  i ≠ 0 ∧ i + 1 < s.length ∧ (s.getD i '\x00').isUpper ∧ s.getD (i - 1) '\x00' ≠ '_' ∧
    ¬ (s.getD (i - 1) '\x00').isUpper

instance (s : Str) : DecidablePred (StartsWord s) := fun i =>
  inferInstanceAs (Decidable (i ≠ 0 ∧ i + 1 < s.length ∧ (s.getD i '\x00').isUpper ∧
    s.getD (i - 1) '\x00' ≠ '_' ∧ ¬ (s.getD (i - 1) '\x00').isUpper))

/-- How many of these there are. -/
def words (s : Str) : Nat := (List.range s.length).countP fun i => StartsWord s i

/-! ## What is written -/

/-- What is written for a character. -/
def cells (s : Str) (i : Nat) : List Cell :=
  if (s.getD i '\x00').isUpper then
    (if StartsWord s i then [⟨'_', true⟩] else []) ++ [⟨(s.getD i '\x00').toLower, false⟩]
  else [⟨s.getD i '\x00', false⟩]

def terminator : Cell := ⟨'\x00', false⟩

/-- What is written before the terminator. -/
def body (s : Str) : List Cell := (List.range s.length).flatMap (cells s)

theorem charAt_ofNat {i : Nat} (h : i < 2 ^ 32) : charAt s (UInt32.ofNat i) = s.getD i '\x00' := by
  rw [charAt, UInt32.toNat_ofNat_of_lt' h]

/-- There is no terminator in the string itself. -/
theorem getD_eq_nul_iff (hs : '\x00' ∉ s) (i : Nat) : s.getD i '\x00' = '\x00' ↔ s.length ≤ i := by
  by_cases h : i < s.length
  · rw [List.getD_eq_getElem _ _ h]
    refine iff_of_false (fun heq => hs (heq ▸ List.getElem_mem h)) (by omega)
  · rw [List.getD_eq_default _ _ (by omega)]
    exact iff_of_true rfl (by omega)

theorem round_eq (hs : '\x00' ∉ s) {i : Nat} (hi : i ≤ s.length) (hlength : s.length + 1 < 2 ^ 32) :
    round s (UInt32.ofNat i) = cells s i := by
  have hnext : UInt32.ofNat i + 1 = UInt32.ofNat (i + 1) := (UInt32.ofNat_add i 1).symm
  have hzero : UInt32.ofNat i = 0 ↔ i = 0 := by
    rw [← UInt32.toNat_inj, UInt32.toNat_ofNat_of_lt' (by omega : i < 2 ^ 32)]
    rfl
  have hlast : s.getD (i + 1) '\x00' ≠ '\x00' ↔ i + 1 < s.length := by
    rw [ne_eq, getD_eq_nul_iff hs]
    omega
  have hbefore : i ≠ 0 → charAt s (UInt32.ofNat i - 1) = s.getD (i - 1) '\x00' := by
    intro hne
    obtain ⟨k, rfl⟩ := Nat.exists_eq_succ_of_ne_zero hne
    have hsub : UInt32.ofNat (k + 1) - 1 = UInt32.ofNat k := by
      rw [UInt32.ofNat_add]
      exact UInt32.add_sub_cancel _ _
    rw [Nat.succ_eq_add_one, hsub, charAt_ofNat (by omega)]
    rfl
  unfold round cells
  rw [charAt_ofNat (by omega), hnext, charAt_ofNat (by omega)]
  by_cases hupper : (s.getD i '\x00').isUpper
  · rw [if_pos hupper, if_pos hupper]
    congr 1
    by_cases hfirst : i = 0
    · rw [if_neg fun h => h.1 (hzero.2 hfirst), if_neg fun h => h.1 hfirst]
    · rw [hbefore hfirst]
      refine if_congr ?_ rfl rfl
      rw [StartsWord, ne_eq, hzero, hlast]
      simp only [hupper, true_and, ne_eq]
  · rw [if_neg hupper, if_neg hupper]

theorem cells_end (s : Str) : cells s s.length = [terminator] := by
  have hend : s.getD s.length '\x00' = '\x00' := List.getD_eq_default _ _ (Nat.le_refl _)
  rw [cells, hend]
  rfl

theorem output_eq (s : Str) :
    (List.range (s.length + 1)).flatMap (cells s) = body s ++ [terminator] := by
  rw [List.range_succ, List.flatMap_append, List.flatMap_singleton, cells_end]
  rfl

/-! ## The number of the underscores -/

theorem length_cells (s : Str) (i : Nat) :
    (cells s i).length = 1 + if StartsWord s i then 1 else 0 := by
  unfold cells
  by_cases hupper : (s.getD i '\x00').isUpper
  · rw [if_pos hupper]
    split <;> rfl
  · rw [if_neg hupper, if_neg fun h => hupper h.2.2.1]
    rfl

theorem length_body (s : Str) : (body s).length = s.length + words s := by
  have hprefix : ∀ n, ((List.range n).flatMap (cells s)).length =
      n + (List.range n).countP fun i => StartsWord s i := by
    intro n
    induction n with
    | zero => rfl
    | succ n ih =>
      rw [List.range_succ, List.flatMap_append, List.flatMap_singleton, List.length_append, ih,
        length_cells, List.countP_append, List.countP_singleton]
      simp only [decide_eq_true_eq]
      omega
  exact hprefix s.length

/-- Before the first character there is no underscore. -/
theorem words_lt (h : s ≠ []) : words s < s.length := by
  have hprefix : ∀ n, (List.range (n + 1)).countP (fun i => StartsWord s i) ≤ n := by
    intro n
    induction n with
    | zero =>
      have hfirst : ¬ StartsWord s 0 := fun hstarts => hstarts.1 rfl
      rw [List.range_succ, List.countP_append, List.countP_singleton]
      simp [hfirst]
    | succ n ih =>
      rw [List.range_succ, List.countP_append, List.countP_singleton]
      split <;> omega
  obtain ⟨n, hn⟩ := Nat.exists_eq_succ_of_ne_zero (mt List.length_eq_zero_iff.1 h)
  have := hprefix n
  unfold words
  rw [hn, Nat.succ_eq_add_one]
  omega

/-! ## The string -/

theorem cells_restore (s : Str) (i : Nat) :
    ((cells s i).filter fun cell => !cell.inserted).map (fun cell => cell.char.toLower) =
      [(s.getD i '\x00').toLower] := by
  unfold cells
  split
  · rw [List.filter_append, List.map_append]
    have hlower : (s.getD i '\x00').toLower.toLower = (s.getD i '\x00').toLower :=
      Char.toLower_toLower_eq_toLower _
    split
    · exact congrArg (fun c => [c]) hlower
    · exact congrArg (fun c => [c]) hlower
  · rfl

/-- Without the underscores it is the name, but for the case. -/
theorem body_restores (s : Str) :
    ((body s).filter fun cell => !cell.inserted).map (fun cell => cell.char.toLower) =
      s.map Char.toLower := by
  have hprefix : ∀ n ≤ s.length, (((List.range n).flatMap (cells s)).filter fun cell =>
      !cell.inserted).map (fun cell => cell.char.toLower) = (s.take n).map Char.toLower := by
    intro n hn
    induction n with
    | zero => rfl
    | succ n ih =>
      have hget : s.getD n '\x00' = s[n] := List.getD_eq_getElem _ _ hn
      rw [List.range_succ, List.flatMap_append, List.filter_append, List.map_append, ih (by omega),
        List.flatMap_singleton, cells_restore, hget, ← List.take_append_getElem hn, List.map_append]
      rfl
  have hall := hprefix s.length (Nat.le_refl _)
  rw [List.take_length] at hall
  exact hall

theorem body_ne_nul (hs : '\x00' ∉ s) : ∀ cell ∈ body s, ¬ cell.char = '\x00' := by
  intro cell hcell
  obtain ⟨i, hi, hcell⟩ := List.mem_flatMap.1 hcell
  have hne : s.getD i '\x00' ≠ '\x00' := by
    rw [ne_eq, getD_eq_nul_iff hs]
    exact Nat.not_le_of_lt (List.mem_range.1 hi)
  unfold cells at hcell
  split at hcell
  · rcases List.mem_append.1 hcell with hcell | hcell
    · split at hcell
      · obtain rfl := List.mem_singleton.1 hcell
        decide
      · cases hcell
    · obtain rfl := List.mem_singleton.1 hcell
      exact toLower_ne rfl hne
  · obtain rfl := List.mem_singleton.1 hcell
    exact hne

/-! ## The loop -/

/-- The loop writes for every character and the terminator, if the counter comes behind them. -/
theorem loop_eq (hs : '\x00' ∉ s) (hlength : s.length + 1 < 2 ^ 32) (fuel : Nat) {k : Nat}
    (hk : k ≤ s.length + 1) (j : UInt32) :
    loop s fuel (UInt32.ofNat k) j =
      if s.length + 1 - k < fuel then
        some (consecutive j ((List.range' k (s.length + 1 - k)).flatMap (cells s)))
      else none := by
  induction fuel generalizing k j with
  | zero => rfl
  | succ fuel ih =>
    have hindex : (UInt32.ofNat k).toNat = k :=
      UInt32.toNat_ofNat_of_lt' (by omega : k < 2 ^ 32)
    have hnext : UInt32.ofNat k + 1 = UInt32.ofNat (k + 1) := (UInt32.ofNat_add k 1).symm
    rw [loop, hindex]
    by_cases hend : k ≤ s.length
    · have hleft : s.length + 1 - k = s.length + 1 - (k + 1) + 1 := by omega
      rw [if_pos hend, round_eq hs hend hlength, hnext, ih (by omega), hleft, List.range'_succ,
        List.flatMap_cons, consecutive_append]
      by_cases hfuel : s.length + 1 - (k + 1) < fuel
      · rw [if_pos hfuel, if_pos (by omega)]
        rfl
      · rw [if_neg hfuel, if_neg (by omega)]
        rfl
    · have hleft : s.length + 1 - k = 0 := by omega
      rw [if_neg hend, hleft, if_pos (by omega)]
      rfl

/-- The counter does not come behind the end of a string that is as long as it can count. -/
theorem loop_endless (h : 2 ^ 32 ≤ s.length + 1) (fuel : Nat) (i j : UInt32) :
    loop s fuel i j = none := by
  induction fuel generalizing i j with
  | zero => rfl
  | succ fuel ih =>
    have hindex := i.toNat_lt
    rw [loop, if_pos (by omega), ih]
    rfl

theorem stripCamelCase_eq (hs : '\x00' ∉ s) (hlength : s.length + 1 < 2 ^ 32) (fuel : Nat) :
    stripCamelCase fuel s =
      if s.length + 1 < fuel then some (consecutive 0 (body s ++ [terminator])) else none := by
  have hloop := loop_eq hs hlength fuel (Nat.zero_le _) 0
  rw [Nat.sub_zero, ← List.range_eq_range', output_eq] at hloop
  exact hloop

/-! ## The main result -/

/-- The result fits if the index does not wrap. -/
theorem stripped_of_fits (hs : '\x00' ∉ s) (hne : s ≠ []) (hfits : s.length + words s < 2 ^ 32) :
    Stripped s (consecutive 0 (body s ++ [terminator])) := by
  have hwords := words_lt hne
  have hlength : (body s ++ [terminator]).length = s.length + words s + 1 := by
    rw [List.length_append, length_body]
    rfl
  refine ⟨?_, fun w hw => ?_, body s, ?_, body_restores s⟩
  · rw [length_consecutive, hlength]
    omega
  · have := index_le hw
    omega
  · refine readsUntil_consecutive ?_ rfl (body_ne_nul hs)
    rw [length_body]
    exact hfits

/-- If it wraps, the terminator comes before the end of the name. -/
theorem not_stripped_of_wraps (hlength : s.length + 1 < 2 ^ 32) (hne : s ≠ [])
    (hwraps : 2 ^ 32 ≤ s.length + words s) :
    ¬ Stripped s (consecutive 0 (body s ++ [terminator])) := by
  intro h
  have hwords := words_lt hne
  obtain ⟨result, hreads, hrestores⟩ := h.restores
  have hlast : memory (consecutive 0 (body s ++ [terminator])) ((body s).length % 2 ^ 32) =
      some terminator := by
    rw [memory_append_last, Function.update_self]
  have hshort := hreads.length_le hlast rfl
  have hfilter : (result.filter fun cell => !cell.inserted).length ≤ result.length :=
    List.length_filter_le ..
  have hsame := congrArg List.length hrestores
  rw [List.length_map, List.length_map] at hsame
  rw [length_body] at hshort
  omega

/-- **The name is stripped in its memory exactly if it is not empty, and if the counters of 32 bits
come to the end of it and of the result.** -/
theorem stripped_iff (hs : '\x00' ∉ s) :
    (∃ fuel writes, stripCamelCase fuel s = some writes ∧ Stripped s writes) ↔
      s ≠ [] ∧ s.length + 1 < 2 ^ 32 ∧ s.length + words s < 2 ^ 32 := by
  constructor
  · rintro ⟨fuel, writes, hwrites, hstripped⟩
    have hlength : s.length + 1 < 2 ^ 32 := by
      by_contra hlong
      rw [stripCamelCase, loop_endless (by omega)] at hwrites
      cases hwrites
    rw [stripCamelCase_eq hs hlength] at hwrites
    split at hwrites
    · obtain rfl := Option.some.inj hwrites
      have hne : s ≠ [] := by
        rintro rfl
        exact absurd hstripped.count (by decide)
      refine ⟨hne, hlength, ?_⟩
      by_contra hwraps
      exact not_stripped_of_wraps hlength hne (by omega) hstripped
    · cases hwrites
  · rintro ⟨hne, hlength, hfits⟩
    refine ⟨s.length + 2, _, ?_, stripped_of_fits hs hne hfits⟩
    rw [stripCamelCase_eq hs hlength, if_pos (by omega)]

theorem stripped_iff_sample :
    ∃ fuel writes, stripCamelCase fuel "GetDMSName".toList = some writes ∧
      Stripped "GetDMSName".toList writes :=
  (stripped_iff (by decide)).2 ⟨by decide, by decide, by decide⟩

/-- For the empty name nothing is allocated, and the terminator is written. -/
theorem empty_overflows :
    stripCamelCase 2 [] = some [⟨0, ⟨'\x00', false⟩⟩] ∧
      ¬ ∃ fuel writes, stripCamelCase fuel [] = some writes ∧ Stripped [] writes := by
  refine ⟨rfl, ?_⟩
  rintro ⟨fuel, writes, hwrites, hstripped⟩
  rw [stripCamelCase_eq List.not_mem_nil (by decide)] at hwrites
  split at hwrites
  · obtain rfl := Option.some.inj hwrites
    exact absurd hstripped.count (by decide)
  · cases hwrites

end GUPnP.Service.CamelCase
