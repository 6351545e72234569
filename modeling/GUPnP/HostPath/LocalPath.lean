import GUPnP.HostPath.Model
import Mathlib.Data.List.DropRight

/-!
# The local path of a request

`construct_local_path` strips the last slashes of what a request path has after the server path. Its
loop has no end of its own at the beginning of that rest: `construct_local_path_iff` says that it stays
in the rest, with the path it should make, as long as something else than slashes is in there. The length
of the rest is an `int`, so that the loop begins elsewhere in a rest of 2 GiB or more.
-/

set_option autoImplicit false

namespace GUPnP.HostPath

/-- The string without its last slashes. -/
def withoutSlashes (s : Str) : Str := s.rdropWhile fun c => c = '/'

/-- The loop looks at characters of the rest only, and the result is the base path with the rest. -/
def InBounds (base rest : Str) : LocalPath → Prop
  | .path indices len localPath =>
    (∀ i ∈ indices, 0 ≤ i ∧ i < rest.length) ∧ 0 ≤ len ∧ localPath = base ++ withoutSlashes rest
  | _ => False

/-- Something else than slashes is among the characters of the rest that an `int` counts, and only
slashes are behind them. -/
def Strippable (rest : Str) : Prop :=
  (∃ c ∈ rest.take (intLength rest).toNat, c ≠ '/') ∧
    ∀ c ∈ rest.drop (intLength rest).toNat, c = '/'

section
variable {path rest : Str} {skip k pos : Nat}

theorem intLength_of_lt (h : rest.length < 2 ^ 31) : intLength rest = rest.length :=
  Int.bmod_eq_of_le (by omega) (by omega)

theorem toNat_intLength_le (rest : Str) : (intLength rest).toNat ≤ rest.length := by
  have hle : intLength rest ≤ rest.length := by
    unfold intLength
    rw [Int.bmod_def]
    split <;> omega
  omega

theorem strippable_iff (h : rest.length < 2 ^ 31) : Strippable rest ↔ ∃ c ∈ rest, c ≠ '/' := by
  unfold Strippable
  rw [intLength_of_lt h, Int.toNat_natCast, List.take_length, List.drop_length]
  simp

/-- Slashes at the end do not matter. -/
theorem withoutSlashes_take_iff (hk : k ≤ rest.length) :
    withoutSlashes (rest.take k) = withoutSlashes rest ↔ ∀ c ∈ rest.drop k, c = '/' := by
  induction rest using List.reverseRecOn generalizing k with
  | nil => simp
  | append_singleton rest c ih =>
    rw [List.length_append, List.length_singleton] at hk
    rcases Nat.lt_or_ge rest.length k with hlt | hle
    · obtain rfl : k = rest.length + 1 := by omega
      have hlength : (rest ++ [c]).length = rest.length + 1 := by simp
      rw [← hlength, List.take_length, List.drop_length]
      simp
    rw [List.take_append_of_le_length hle, List.drop_append_of_le_length hle]
    by_cases hc : c = '/'
    · have hconcat : withoutSlashes (rest ++ [c]) = withoutSlashes rest := by
        rw [withoutSlashes, List.rdropWhile_concat_pos _ _ _ (by simpa using hc), withoutSlashes]
      rw [hconcat, ih hle]
      simp only [hc, List.mem_append, List.mem_singleton, or_imp, forall_and, forall_eq, and_true]
    · have hconcat : withoutSlashes (rest ++ [c]) = rest ++ [c] := by
        rw [withoutSlashes, List.rdropWhile_concat_neg _ _ _ (by simpa using hc)]
      refine iff_of_false (fun heq => ?_) fun hall => hc (hall c (by simp))
      have hlength : (withoutSlashes (rest.take k)).length ≤ rest.length :=
        ((List.rdropWhile_prefix _ _).length_le.trans (List.length_take_le' k rest))
      rw [heq, hconcat, List.length_append, List.length_singleton] at hlength
      omega

theorem withoutSlashes_take_succ (hk : k < rest.length) :
    withoutSlashes (rest.take (k + 1)) =
      if rest[k] = '/' then withoutSlashes (rest.take k) else rest.take (k + 1) := by
  rw [withoutSlashes, withoutSlashes, ← List.take_append_getElem hk, List.rdropWhile_concat]
  simp

/-- The loop stops at the last character that is no slash. -/
theorem stripSlashes_of_exists (hrest : rest = path.drop skip) (hk : k ≤ rest.length)
    (h : ∃ c ∈ rest.take k, c ≠ '/') :
    (stripSlashes path skip (skip + k)).2 = some ((withoutSlashes (rest.take k)).length : Int) ∧
      ∀ i ∈ (stripSlashes path skip (skip + k)).1, 0 ≤ i ∧ i < (k : Int) := by
  induction k with
  | zero => simp at h
  | succ k ih =>
    have hget : path[skip + k]? = some rest[k] := by
      rw [← List.getElem?_drop, ← hrest, List.getElem?_eq_getElem]
    rw [withoutSlashes_take_succ hk, ← Nat.add_assoc, stripSlashes, hget]
    by_cases hslash : rest[k] = '/'
    · have hbefore : ∃ c ∈ rest.take k, c ≠ '/' := by
        obtain ⟨c, hc, hne⟩ := h
        rw [← List.take_append_getElem hk, List.mem_append, List.mem_singleton] at hc
        rcases hc with hc | rfl
        · exact ⟨c, hc, hne⟩
        · exact absurd hslash hne
      obtain ⟨hlen, hindices⟩ := ih (by omega) hbefore
      simp only [hslash, ↓reduceIte, List.mem_cons, forall_eq_or_imp]
      refine ⟨hlen, by omega, fun i hi => ?_⟩
      have := hindices i hi
      omega
    · have hsome : ¬ some rest[k] = some '/' := by simpa using hslash
      simp only [hslash, hsome, ↓reduceIte, List.mem_singleton, forall_eq, List.length_take]
      refine ⟨?_, by omega⟩
      rw [Nat.min_eq_left hk]
      exact congrArg some (by omega)

/-- A loop that begins before the rest looks at what is there. -/
theorem stripSlashes_of_le (path : Str) (h : pos ≤ skip) :
    ∃ i ∈ (stripSlashes path skip pos).1, i < 0 := by
  cases pos with
  | zero => exact ⟨-(skip : Int) - 1, by rw [stripSlashes]; exact List.mem_singleton_self _, by omega⟩
  | succ pos =>
    refine ⟨(pos : Int) - skip, ?_, by omega⟩
    rw [stripSlashes]
    split
    · exact List.mem_cons_self
    · exact List.mem_singleton_self _

/-- Where only slashes are, the loop looks at the character before the rest. -/
theorem stripSlashes_of_forall (hrest : rest = path.drop skip) (hk : k ≤ rest.length)
    (h : ∀ c ∈ rest.take k, c = '/') : -1 ∈ (stripSlashes path skip (skip + k)).1 := by
  induction k with
  | zero =>
    cases skip with
    | zero => simp [stripSlashes]
    | succ skip =>
      have hindex : (skip : Int) - (skip + 1 : Nat) = -1 := by omega
      rw [Nat.add_zero, stripSlashes, hindex]
      split <;> simp
  | succ k ih =>
    have hget : path[skip + k]? = some rest[k] := by
      rw [← List.getElem?_drop, ← hrest, List.getElem?_eq_getElem]
    have hslash : rest[k] = '/' := by
      have hmem : rest[k] ∈ rest.take k ++ [rest[k]] :=
        List.mem_append_right _ (List.mem_singleton.2 rfl)
      rw [List.take_append_getElem hk] at hmem
      exact h _ hmem
    have hmem := ih (by omega) fun c hc => h c (List.take_subset_take_left _ (by omega) hc)
    rw [← Nat.add_assoc, stripSlashes, hget, if_pos (congrArg some hslash)]
    exact List.mem_cons_of_mem _ hmem

end

/-- A loop that looks at something before the rest is out of bounds. -/
theorem not_inBounds {base base' rest : Str} (result : List Int × Option Int) :
    (∃ i ∈ result.1, i < 0) →
    ¬ InBounds base rest (match result with
      | (indices, none) => .undefined indices
      | (indices, some len) => .path indices len (appendLen base' rest len)) := by
  obtain ⟨indices, len⟩ := result
  rintro ⟨i, hi, hneg⟩
  cases len with
  | none => exact id
  | some len =>
    rintro ⟨hindices, -⟩
    exact absurd (hindices i hi).1 (by omega)

/-- What the loop keeps of the rest is appended. -/
theorem appendLen_withoutSlashes (base rest : Str) (k : Nat) :
    appendLen base rest ((withoutSlashes (rest.take k)).length : Int) =
      base ++ withoutSlashes (rest.take k) := by
  have hbegins : withoutSlashes (rest.take k) <+: rest.take k := List.rdropWhile_prefix _ _
  have htake : rest.take (withoutSlashes (rest.take k)).length = withoutSlashes (rest.take k) :=
    (List.prefix_iff_eq_take.1 (hbegins.trans (List.take_prefix k rest))).symm
  rw [appendLen, if_neg (Int.not_lt.2 (Int.natCast_nonneg _)), Int.toNat_natCast, htake]

/-- `construct_local_path` for an absolute path below the server path. -/
theorem constructLocalPath_eq (gRegexMatch : Str → Str → Bool) (userAgent : Option Str)
    (data : HostPathData) {rest : Str} (habsolute : (data.serverPath ++ rest).head? = some '/') :
    constructLocalPath gRegexMatch (data.serverPath ++ rest) userAgent data =
      if data.serverPath.length + intLength rest < 0 then .undefined [intLength rest - 1]
      else
        match stripSlashes (data.serverPath ++ rest) data.serverPath.length
          (data.serverPath.length + intLength rest).toNat with
        | (indices, none) => .undefined indices
        | (indices, some len) =>
          .path indices len (appendLen (agentPath gRegexMatch userAgent data) rest len) := by
  have hrest : (data.serverPath ++ rest).drop data.serverPath.length = rest := List.drop_left
  unfold constructLocalPath
  generalize data.serverPath ++ rest = path at *
  obtain ⟨tail, rfl⟩ := List.head?_eq_some_iff.1 habsolute
  subst hrest
  dsimp only
  generalize intLength _ = len
  exact if_neg (not_not.2 rfl)

theorem constructLocalPath_inBounds_iff (gRegexMatch : Str → Str → Bool) (userAgent : Option Str)
    (data : HostPathData) {rest : Str} (habsolute : (data.serverPath ++ rest).head? = some '/') :
    InBounds (agentPath gRegexMatch userAgent data) rest
        (constructLocalPath gRegexMatch (data.serverPath ++ rest) userAgent data) ↔
      Strippable rest := by
  have hrest : (data.serverPath ++ rest).drop data.serverPath.length = rest := List.drop_left
  rw [constructLocalPath_eq gRegexMatch userAgent data habsolute]
  generalize data.serverPath ++ rest = path at *
  generalize agentPath gRegexMatch userAgent data = base
  have hle := toNat_intLength_le rest
  unfold Strippable
  rcases Int.lt_or_le 0 (intLength rest) with hpos | hnonpos
  · -- The loop goes over the first `k` characters of the rest.
    obtain ⟨k, hk⟩ := Int.eq_ofNat_of_zero_le (Int.le_of_lt hpos)
    rw [hk, Int.toNat_natCast] at hle ⊢
    rw [if_neg (by omega), show ((data.serverPath.length : Int) + k).toNat =
      data.serverPath.length + k by omega]
    by_cases h : ∃ c ∈ rest.take k, c ≠ '/'
    · obtain ⟨hlen, hindices⟩ := stripSlashes_of_exists hrest.symm hle h
      generalize stripSlashes path data.serverPath.length _ = result at *
      obtain ⟨indices, len⟩ := result
      obtain rfl : len = _ := hlen
      have hpath := appendLen_withoutSlashes base rest k
      rw [and_iff_right h, ← withoutSlashes_take_iff hle]
      constructor
      · rintro ⟨-, -, heq⟩
        exact List.append_cancel_left (hpath.symm.trans heq)
      · intro heq
        refine ⟨fun i hi => ?_, by omega, hpath.trans (heq ▸ rfl)⟩
        have := hindices i hi
        omega
    · have hslashes : ∀ c ∈ rest.take k, c = '/' := fun c hc => by_contra fun hne => h ⟨c, hc, hne⟩
      have hmem := stripSlashes_of_forall hrest.symm hle hslashes
      exact iff_of_false (not_inBounds _ ⟨-1, hmem, by decide⟩) fun hx => h hx.1
  · have hnone : ¬ ∃ c ∈ rest.take (intLength rest).toNat, c ≠ '/' := by
      rw [Int.toNat_eq_zero.2 hnonpos]
      simp
    refine iff_of_false ?_ fun hx => hnone hx.1
    split
    · exact id
    · have hbefore : ∃ i ∈ (stripSlashes path data.serverPath.length
          (data.serverPath.length + intLength rest).toNat).1, i < 0 :=
        stripSlashes_of_le path (by omega)
      generalize stripSlashes path data.serverPath.length _ = result at *
      exact not_inBounds result hbefore

/-- For a request below the server path: the local path is the base path with the rest of the request
without its last slashes, found inside the rest, if and only if the rest is not made of slashes only; in
a rest of 2 GiB or more it counts which characters the cut length leaves. -/
theorem construct_local_path_iff (gRegexMatch : Str → Str → Bool) (userAgent : Option Str)
    (data : HostPathData) {requestedPath : Str} (habsolute : requestedPath.head? = some '/')
    (hserver : data.serverPath <+: requestedPath) :
    (InBounds (agentPath gRegexMatch userAgent data) (requestedPath.drop data.serverPath.length)
        (constructLocalPath gRegexMatch requestedPath userAgent data) ↔
      Strippable (requestedPath.drop data.serverPath.length)) ∧
    ((requestedPath.drop data.serverPath.length).length < 2 ^ 31 →
      (InBounds (agentPath gRegexMatch userAgent data) (requestedPath.drop data.serverPath.length)
          (constructLocalPath gRegexMatch requestedPath userAgent data) ↔
        ∃ c ∈ requestedPath.drop data.serverPath.length, c ≠ '/')) := by
  obtain ⟨rest, rfl⟩ := hserver
  rw [List.drop_left]
  have hiff := constructLocalPath_inBounds_iff gRegexMatch userAgent data habsolute
  exact ⟨hiff, fun hlt => hiff.trans (strippable_iff hlt)⟩

/-- The folder of the descriptions is hosted at the empty path. -/
theorem construct_local_path_iff_sample : InBounds "/srv".toList "/a//".toList
    (constructLocalPath (fun _ _ => false) "/a//".toList none ⟨0, "/srv".toList, [], [], []⟩) :=
  ((construct_local_path_iff (fun _ _ => false) none ⟨0, "/srv".toList, [], [], []⟩ rfl
    List.nil_prefix).2 (by decide)).2 ⟨'a', by decide, by decide⟩

/-- A request for that folder itself: the loop reads before the beginning of the path. -/
theorem construct_local_path_root :
    constructLocalPath (fun _ _ => false) "/".toList none ⟨0, "/srv".toList, [], [], []⟩ =
      .undefined [0, -1] ∧
    ¬ InBounds "/srv".toList "/".toList
      (constructLocalPath (fun _ _ => false) "/".toList none ⟨0, "/srv".toList, [], [], []⟩) := by
  have heq : constructLocalPath (fun _ _ => false) "/".toList none ⟨0, "/srv".toList, [], [], []⟩ =
      .undefined [0, -1] := by decide +kernel
  rw [heq]
  exact ⟨rfl, id⟩

end GUPnP.HostPath
