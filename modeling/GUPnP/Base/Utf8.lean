import GUPnP.Base.CString

/-!
# UTF-8

The bytes of a text, as a C string. ASCII characters stand for themselves and all other bytes are
larger, so what looks for ASCII characters may go by bytes.
-/

set_option autoImplicit false

namespace GUPnP

/-- The bytes of a character. -/
def utf8Char (c : Char) : Str := (String.utf8EncodeChar c).map fun b => Char.ofNat b.toNat

/-- The bytes of a text. -/
def utf8 (s : List Char) : Str := s.flatMap utf8Char

/-- A byte written as a character. -/
theorem toNat_ofNat_byte (x : UInt8) : (Char.ofNat x.toNat).toNat = x.toNat := by
  have hx := x.toNat_lt
  have hvalid : x.toNat.isValidChar := .inl (by omega)
  unfold Char.ofNat
  rw [dif_pos hvalid]
  rfl

section
variable {c b : Char} {s t : List Char}

@[simp] theorem utf8_nil : utf8 [] = [] := rfl

@[simp] theorem utf8_cons : utf8 (c :: s) = utf8Char c ++ utf8 s := rfl

@[simp] theorem utf8_append : utf8 (s ++ t) = utf8 s ++ utf8 t := List.flatMap_append

theorem utf8Char_of_ascii (h : c.toNat < 128) : utf8Char c = [c] := by
  have hv : c.val.toNat ≤ 0x7f := Nat.le_of_lt_succ h
  have hmod : c.val.toNat % 256 = c.val.toNat := Nat.mod_eq_of_lt (by omega)
  unfold utf8Char String.utf8EncodeChar
  rw [if_pos hv, List.map_singleton, UInt8.toNat_ofNat', hmod]
  exact congrArg (fun x => [x]) (Char.ofNat_toNat c)

theorem utf8_of_ascii (h : ∀ c ∈ s, c.toNat < 128) : utf8 s = s := by
  induction s with
  | nil => rfl
  | cons c s ih =>
    rw [utf8_cons, utf8Char_of_ascii (h c List.mem_cons_self),
      ih fun d hd => h d (List.mem_cons_of_mem c hd)]
    rfl

/-- For the texts of a program, which can be evaluated. -/
theorem ascii_of_all (h : s.all (fun c => decide (c.toNat < 128)) = true) : ∀ c ∈ s, c.toNat < 128 :=
  fun c hc => of_decide_eq_true (List.all_eq_true.1 h c hc)

theorem utf8_of_all (h : s.all (fun c => decide (c.toNat < 128)) = true) : utf8 s = s :=
  utf8_of_ascii (ascii_of_all h)

/-- The bytes of a character that is not ASCII are not ASCII. -/
theorem le_of_mem_utf8Char (h : 128 ≤ c.toNat) (hb : b ∈ utf8Char c) : 128 ≤ b.toNat := by
  have hv : ¬ c.val.toNat ≤ 0x7f := Nat.not_le_of_lt h
  obtain ⟨x, hx, rfl⟩ := List.mem_map.1 hb
  rw [toNat_ofNat_byte]
  unfold String.utf8EncodeChar at hx
  rw [if_neg hv] at hx
  split at hx
  · simp only [List.mem_cons, List.not_mem_nil, or_false] at hx
    rcases hx with rfl | rfl <;> simp only [UInt8.toNat_ofNat'] <;> omega
  split at hx
  · simp only [List.mem_cons, List.not_mem_nil, or_false] at hx
    rcases hx with rfl | rfl | rfl <;> simp only [UInt8.toNat_ofNat'] <;> omega
  · simp only [List.mem_cons, List.not_mem_nil, or_false] at hx
    rcases hx with rfl | rfl | rfl | rfl <;> simp only [UInt8.toNat_ofNat'] <;> omega

/-- A byte of a text is one of its ASCII characters, or not ASCII. -/
theorem mem_utf8 (h : b ∈ utf8 s) : b ∈ s ∨ 128 ≤ b.toNat := by
  obtain ⟨c, hc, hb⟩ := List.mem_flatMap.1 h
  by_cases hascii : c.toNat < 128
  · rw [utf8Char_of_ascii hascii, List.mem_singleton] at hb
    subst hb
    exact .inl hc
  · exact .inr (le_of_mem_utf8Char (by omega) hb)

theorem utf8Char_ne_nil (c : Char) : utf8Char c ≠ [] := by
  unfold utf8Char
  rw [Ne, List.map_eq_nil_iff]
  exact String.utf8EncodeChar_ne_nil

@[simp] theorem utf8_eq_nil : utf8 s = [] ↔ s = [] := by
  cases s with
  | nil => exact ⟨fun _ => rfl, fun _ => rfl⟩
  | cons c s =>
    rw [utf8_cons, List.append_eq_nil_iff]
    exact ⟨fun h => absurd h.1 (utf8Char_ne_nil c), fun h => absurd h (List.cons_ne_nil c s)⟩

/-- Only an ASCII text has these bytes. -/
theorem eq_of_utf8_eq (ht : ∀ c ∈ t, c.toNat < 128) (h : utf8 s = t) : s = t := by
  rw [← h]
  refine (utf8_of_ascii fun c hc => ?_).symm
  by_contra hhigh
  obtain ⟨b, hb⟩ := List.exists_mem_of_ne_nil _ (utf8Char_ne_nil c)
  have hmem : b ∈ t := h ▸ List.mem_flatMap.2 ⟨c, hc, hb⟩
  have hlow := ht b hmem
  have := le_of_mem_utf8Char (Nat.le_of_not_lt hhigh) hb
  omega

/-- A text is known by its bytes. -/
theorem utf8_injective (h : utf8 s = utf8 t) : s = t := by
  have hbyte : ∀ x y : UInt8, Char.ofNat x.toNat = Char.ofNat y.toNat → x = y := by
    intro x y hxy
    apply UInt8.toNat_inj.1
    rw [← toNat_ofNat_byte x, hxy, toNat_ofNat_byte]
  have hmap : ∀ s : List Char, utf8 s =
      (s.flatMap String.utf8EncodeChar).map fun b => Char.ofNat b.toNat := by
    intro s
    rw [List.map_flatMap]
    rfl
  rw [hmap, hmap] at h
  have hbytes : s.flatMap String.utf8EncodeChar = t.flatMap String.utf8EncodeChar :=
    (List.map_inj_right hbyte).1 h
  have hencode : s.utf8Encode = t.utf8Encode := congrArg List.toByteArray hbytes
  have hdecode := congrArg ByteArray.utf8Decode? hencode
  rw [List.utf8Decode?_utf8Encode, List.utf8Decode?_utf8Encode] at hdecode
  exact Array.toList_inj.2 (Option.some.inj hdecode)

end

end GUPnP
