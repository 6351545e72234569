import GUPnP.GValue.Model
import GUPnP.Xml.Syntax
import Mathlib.Data.List.Basic

/-!
# Values in XML

What `valueAppendToXmlString` writes for an integer, a boolean or a string is a well-formed text, and
`setValueFromString` reads the value back from it (`exists_items`). The characters that
`xml_util_add_content` escapes become references (`addContent_utf8`).
-/

set_option autoImplicit false

namespace GUPnP

open Xml

namespace Xml

/-! ## Escaping -/

/-- How a character is written. -/
def escape : Char → TextItem
  | '&' => .reference .amp
  | '<' => .reference .lt
  | '>' => .reference .gt
  | '"' => .reference .quot
  | c => .data c

@[simp] theorem char_escape (c : Char) : (escape c).char = c := by
  unfold escape
  split <;> rfl

theorem addContentChar_of_ne {c : Char} (hamp : c ≠ '&') (hlt : c ≠ '<') (hgt : c ≠ '>')
    (hquot : c ≠ '"') : addContentChar c = [c] := by
  unfold addContentChar
  split
  · exact absurd rfl hamp
  · exact absurd rfl hlt
  · exact absurd rfl hgt
  · exact absurd rfl hquot
  · rfl

theorem render_escape (c : Char) : (escape c).render = addContentChar c := by
  unfold escape
  split
  · rfl
  · rfl
  · rfl
  · rfl
  · rename_i hamp hlt hgt hquot
    exact (addContentChar_of_ne hamp hlt hgt hquot).symm

theorem escape_wellFormed {c : Char} (h : IsXmlChar c) (hcr : c ≠ '\r') : (escape c).WellFormed := by
  unfold escape
  split
  · trivial
  · trivial
  · trivial
  · trivial
  · rename_i hamp hlt hgt _
    exact ⟨h, hlt, hamp, hgt, hcr⟩

theorem addContentChar_of_high {c : Char} (h : 128 ≤ c.toNat) : addContentChar c = [c] := by
  apply addContentChar_of_ne
  all_goals
    intro hc
    subst hc
    exact absurd h (by decide)

theorem ascii_addContentChar {c b : Char} (hc : c.toNat < 128) (hb : b ∈ addContentChar c) :
    b.toNat < 128 := by
  have hall : (addContentChar c).all (fun b => decide (b.toNat < 128)) = true := by
    unfold addContentChar
    split
    · decide
    · decide
    · decide
    · decide
    · rw [List.all_cons, List.all_nil, Bool.and_true, decide_eq_true_eq]
      exact hc
  exact of_decide_eq_true (List.all_eq_true.1 hall b hb)

/-- The bytes of a character are escaped as the character is. -/
theorem addContent_utf8Char (c : Char) : addContent (utf8Char c) = utf8 (addContentChar c) := by
  by_cases hascii : c.toNat < 128
  · rw [utf8Char_of_ascii hascii, utf8_of_ascii fun b hb => ascii_addContentChar hascii hb]
    exact List.flatMap_singleton ..
  · have hhigh : 128 ≤ c.toNat := Nat.le_of_not_lt hascii
    rw [addContentChar_of_high hhigh, utf8_cons, utf8_nil, List.append_nil]
    have hbytes : ∀ b ∈ utf8Char c, addContentChar b = [b] := fun b hb =>
      addContentChar_of_high (le_of_mem_utf8Char hhigh hb)
    calc addContent (utf8Char c) = (utf8Char c).flatMap fun b => [b] := List.flatMap_congr hbytes
      _ = utf8Char c := List.flatMap_singleton' _

theorem addContent_utf8 (s : List Char) :
    addContent (utf8 s) = utf8 ((s.map escape).flatMap TextItem.render) := by
  induction s with
  | nil => rfl
  | cons c s ih =>
    rw [List.map_cons, List.flatMap_cons, utf8_append, render_escape, ← addContent_utf8Char, ← ih]
    exact List.flatMap_append

end Xml

/-! ## Reading back -/

namespace GValue

/-- Integers, booleans, and strings of XML characters other than carriage returns. -/
def Carried : GValue → Prop
  | int _ => True
  | uint _ => True
  | int64 _ => True
  | uint64 _ => True
  | long _ => True
  | ulong _ => True
  | boolean _ => True
  | string (some v) => ∃ text : List Char, (∀ c ∈ text, IsXmlChar c ∧ c ≠ '\r') ∧ v = utf8 text
  | _ => False

/-- The characters of a value before they are escaped. -/
def text : GValue → Str
  | int v => CString.printD v.toInt
  | uint v => CString.printU v.toNat
  | int64 v => CString.printD v.toInt
  | uint64 v => CString.printU v.toNat
  | long v => CString.printD v.toInt
  | ulong v => CString.printU v.toNat
  | boolean v => if v then ['1'] else ['0']
  | string (some v) => v
  | _ => []

/-- A value of the same type takes over what a carried value was printed as. -/
theorem setValueFromString_text (glib : GLib) {value v : GValue} (h : v.Carried)
    (htype : value.type = v.type) : setValueFromString glib value v.text = (v, true) := by
  cases v with
  | int v =>
    have hread : CString.strtol (CString.printD v.toInt) = v.toInt :=
      CString.strtol_printD (by have := v.le_toInt; omega) (by have := v.toInt_lt; omega)
    cases value <;> cases htype
    simp only [setValueFromString, text, hread, Int32.ofInt_toInt]
  | int64 v =>
    have hread : CString.strtoll (CString.printD v.toInt) = v.toInt :=
      CString.strtol_printD v.le_toInt v.toInt_lt
    cases value <;> cases htype
    simp only [setValueFromString, text, hread, Int64.ofInt_toInt]
  | long v =>
    have hread : CString.strtol (CString.printD v.toInt) = v.toInt :=
      CString.strtol_printD v.le_toInt v.toInt_lt
    cases value <;> cases htype
    simp only [setValueFromString, text, hread, Int64.ofInt_toInt]
  | uint v =>
    have hread : CString.strtoul (CString.printU v.toNat) = (v.toNat, false) :=
      CString.strtoul_printU (by have := v.toNat_lt; omega)
    cases value <;> cases htype
    simp only [setValueFromString, text, hread, UInt32.ofNat_toNat]
  | uint64 v =>
    have hread : CString.strtoull (CString.printU v.toNat) = v.toNat :=
      congrArg Prod.fst (CString.strtoul_printU v.toNat_lt)
    cases value <;> cases htype
    simp only [setValueFromString, text, hread, UInt64.ofNat_toNat]
  | ulong v =>
    have hread : CString.strtoul (CString.printU v.toNat) = (v.toNat, false) :=
      CString.strtoul_printU v.toNat_lt
    cases value <;> cases htype
    simp only [setValueFromString, text, hread, UInt64.ofNat_toNat]
  | boolean v =>
    have htrue : booleanOf ['1'] = true := by decide
    have hfalse : booleanOf ['0'] = false := by decide
    cases value <;> cases htype
    cases v with
    | true => simp only [setValueFromString, text, ↓reduceIte, htrue]
    | false => simp only [setValueFromString, text, Bool.false_eq_true, ↓reduceIte, hfalse]
  | string v =>
    cases v with
    | none => exact h.elim
    | some v =>
      cases value <;> cases htype
      rfl
  | _ => exact h.elim

theorem toNat_of_printed {c : Char} (h : c = '-' ∨ c.isDigit = true) :
    45 ≤ c.toNat ∧ c.toNat ≤ 57 := by
  rcases h with rfl | h
  · decide
  · simp only [Char.isDigit, Bool.and_eq_true, decide_eq_true_eq, ge_iff_le,
      UInt32.le_iff_toNat_le] at h
    have hlow : 48 ≤ c.toNat := h.1
    have hhigh : c.toNat ≤ 57 := h.2
    omega

theorem data_wellFormed {c : Char} (h : c = '-' ∨ c.isDigit = true) :
    (TextItem.data c).WellFormed := by
  obtain ⟨hlow, hhigh⟩ := toNat_of_printed h
  have hne : ∀ d : Char, d.toNat < 45 ∨ 57 < d.toNat → c ≠ d := by
    intro d hd hcd
    subst hcd
    omega
  exact ⟨.inr (.inr (.inr (by omega))), hne '<' (by decide), hne '&' (by decide), hne '>' (by decide),
    hne '\r' (by decide)⟩

/-- A printed number is written as it is. -/
theorem exists_items_of_digits {s : Str} (h : ∀ c ∈ s, c = '-' ∨ c.isDigit = true) :
    ∃ items : List TextItem, (∀ item ∈ items, item.WellFormed) ∧
      s = utf8 (items.flatMap TextItem.render) ∧ s = utf8 (items.map TextItem.char) := by
  have hascii : utf8 s = s := utf8_of_ascii fun c hc => by
    have := toNat_of_printed (h c hc)
    omega
  refine ⟨s.map .data, ?_, ?_, ?_⟩
  · intro item hitem
    obtain ⟨c, hc, rfl⟩ := List.mem_map.1 hitem
    exact data_wellFormed (h c hc)
  · rw [List.flatMap_map]
    exact hascii.symm.trans (congrArg utf8 (List.flatMap_singleton' s).symm)
  · rw [List.map_map]
    exact hascii.symm.trans (congrArg utf8 (List.map_id' s).symm)

/-- A carried value is written as a well-formed text. -/
theorem exists_items (glib : GLib) {v : GValue} (h : v.Carried) :
    ∃ items : List TextItem, (∀ item ∈ items, item.WellFormed) ∧
      (valueAppendToXmlString glib v).1 = utf8 (items.flatMap TextItem.render) ∧
      v.text = utf8 (items.map TextItem.char) := by
  cases v with
  | int v => exact exists_items_of_digits fun c hc => CString.mem_printD hc
  | int64 v => exact exists_items_of_digits fun c hc => CString.mem_printD hc
  | long v => exact exists_items_of_digits fun c hc => CString.mem_printD hc
  | uint v => exact exists_items_of_digits fun c hc => .inr (CString.mem_printU hc)
  | uint64 v => exact exists_items_of_digits fun c hc => .inr (CString.mem_printU hc)
  | ulong v => exact exists_items_of_digits fun c hc => .inr (CString.mem_printU hc)
  | boolean v =>
    have hdigit : ∀ c ∈ (boolean v).text, c = '-' ∨ c.isDigit = true := by
      intro c hc
      cases v with
      | true => obtain rfl := List.mem_singleton.1 hc; exact .inr (by decide)
      | false => obtain rfl := List.mem_singleton.1 hc; exact .inr (by decide)
    exact exists_items_of_digits hdigit
  | string v =>
    cases v with
    | none => exact h.elim
    | some v =>
      obtain ⟨text, hchars, rfl⟩ := h
      refine ⟨text.map escape, ?_, addContent_utf8 text, ?_⟩
      · intro item hitem
        obtain ⟨c, hc, rfl⟩ := List.mem_map.1 hitem
        exact escape_wellFormed (hchars c hc).1 (hchars c hc).2
      · rw [List.map_map]
        exact congrArg utf8 (List.map_id'' char_escape text).symm
  | _ => exact h.elim

end GValue

end GUPnP
