import GUPnP.GValue.RoundTrip
import GUPnP.Xml.CharData

/-!
# Values as the content of an element

Which values `setValueFromString` reads back from the character data `valueAppendToXmlString` writes
(`survives_iff`). Strings are escaped, but a carriage return is written as it is and read as a line
feed; characters are written as they are.
-/

set_option autoImplicit false

namespace GUPnP.GValue

open Xml

/-! ## The statement -/

/-- The content that is written for the value is well-formed and a value of the same type takes the
value over from it. -/
def Survives (glib : GLib) (v : GValue) : Prop :=
  ∃ raw text, valueAppendToXmlString glib v = (utf8 raw, true) ∧ readCharData raw = some text ∧
    ∀ value : GValue, value.type = v.type → setValueFromString glib value (utf8 text) = (v, true)

/-- Strings of XML characters, ASCII characters that are XML characters, integers and booleans. -/
def IsTyped : GValue → Prop
  | string (some v) => ∃ text : List Char, (∀ c ∈ text, IsXmlChar c) ∧ v = utf8 text
  | char v => v.toUInt8.toNat < 128 ∧ IsXmlChar (Char.ofNat v.toUInt8.toNat)
  | uchar v => v.toNat < 128 ∧ IsXmlChar (Char.ofNat v.toNat)
  | int _ => True
  | uint _ => True
  | int64 _ => True
  | uint64 _ => True
  | long _ => True
  | ulong _ => True
  | boolean _ => True
  | _ => False

/-- No carriage return, and no single character that XML gives a meaning. -/
def IsPlain : GValue → Prop
  | string (some v) => '\r' ∉ v
  | char v => Char.ofNat v.toUInt8.toNat ∉ ['<', '&', '\r']
  | uchar v => Char.ofNat v.toNat ∉ ['<', '&', '\r']
  | _ => True

/-! ## Strings -/

/-- A character that no reference has is not written for another character. -/
theorem not_mem_addContentChar {c d : Char} (hd : ∀ entity : Entity, d ∉ '&' :: entity.name ++ [';'])
    (hne : d ≠ c ∨ d = '>') : d ∉ addContentChar c := by
  rw [← render_escape]
  unfold escape
  split
  · exact hd .amp
  · exact hd .lt
  · exact hd .gt
  · exact hd .quot
  · rename_i hgt _
    intro hmem
    obtain rfl := List.mem_singleton.1 hmem
    exact hne.elim (fun h => h rfl) hgt

theorem addContentChar_ne_nil (c : Char) : addContentChar c ≠ [] := by
  rw [← render_escape]
  cases escape c with
  | data d => exact List.cons_ne_nil d []
  | reference entity => exact List.cons_ne_nil '&' _

/-- Escaping leaves line ends alone. -/
theorem normalizeLineEnds_addContent (b : Bool) (text : List Char) :
    normalizeLineEnds b (text.flatMap addContentChar) =
      (normalizeLineEnds b text).flatMap addContentChar := by
  induction text generalizing b with
  | nil => rfl
  | cons c text ih =>
    rw [List.flatMap_cons, normalizeLineEnds]
    by_cases hreturn : c = '\r'
    · subst hreturn
      show '\n' :: normalizeLineEnds true (text.flatMap addContentChar) = _
      rw [ih true]
      rfl
    · by_cases hfeed : c = '\n'
      · subst hfeed
        cases b with
        | true =>
          show normalizeLineEnds false (text.flatMap addContentChar) = _
          rw [ih false]
          rfl
        | false =>
          show '\n' :: normalizeLineEnds false (text.flatMap addContentChar) = _
          rw [ih false]
          rfl
      · have hreturn' : '\r' ∉ addContentChar c :=
          not_mem_addContentChar (by intro entity; cases entity <;> decide) (.inl (Ne.symm hreturn))
        have hfeed' : '\n' ∉ addContentChar c :=
          not_mem_addContentChar (by intro entity; cases entity <;> decide) (.inl (Ne.symm hfeed))
        rw [normalizeLineEnds_append hreturn' hfeed' (addContentChar_ne_nil c), ih false,
          if_neg hreturn, if_neg fun hc => hfeed hc.1, List.flatMap_cons]

/-- What is written for a string of XML characters is read as the string with its line ends
normalised. -/
theorem readCharData_addContent {text : List Char} (h : ∀ c ∈ text, IsXmlChar c) :
    readCharData (text.flatMap addContentChar) = some (normalizeLineEnds false text) := by
  have hgt : '>' ∉ text.flatMap addContentChar := by
    intro hmem
    obtain ⟨c, -, hmem⟩ := List.mem_flatMap.1 hmem
    exact not_mem_addContentChar (by intro entity; cases entity <;> decide) (.inr rfl) hmem
  have hitems : ∀ item ∈ (normalizeLineEnds false text).map escape, item.WellFormed := by
    intro item hitem
    obtain ⟨c, hc, rfl⟩ := List.mem_map.1 hitem
    apply escape_wellFormed
    · rcases mem_normalizeLineEnds hc with rfl | hc
      · exact .inr (.inl rfl)
      · exact h c hc
    · rintro rfl
      exact not_mem_normalizeLineEnds false text hc
  have hrender : (normalizeLineEnds false text).flatMap addContentChar =
      ((normalizeLineEnds false text).map escape).flatMap TextItem.render := by
    rw [List.flatMap_map]
    exact List.flatMap_congr fun c _ => (render_escape c).symm
  rw [readCharData_of_not_mem hgt, normalizeLineEnds_addContent, hrender,
    expandReferences_items hitems, List.map_map]
  exact congrArg some (List.map_id'' char_escape _)

variable (glib : GLib)

/-- A string survives if it has no carriage return. -/
theorem survives_string {text : List Char} (h : ∀ c ∈ text, IsXmlChar c) :
    Survives glib (string (some (utf8 text))) ↔ '\r' ∉ utf8 text := by
  have hwritten : addContent (utf8 text) = utf8 (text.flatMap addContentChar) := by
    rw [addContent_utf8, List.flatMap_map]
    exact congrArg utf8 (List.flatMap_congr fun c _ => render_escape c)
  constructor
  · rintro ⟨raw, text', hraw, hread, hset⟩ hreturn
    have hraw' : utf8 raw = utf8 (text.flatMap addContentChar) :=
      (congrArg Prod.fst hraw).symm.trans hwritten
    rw [utf8_injective hraw', readCharData_addContent h] at hread
    obtain rfl := Option.some.inj hread
    have hsame := hset (string none) rfl
    simp only [setValueFromString, Prod.mk.injEq, string.injEq, Option.some.injEq, and_true] at hsame
    rw [← hsame] at hreturn
    rcases mem_utf8 hreturn with hmem | hhigh
    · exact not_mem_normalizeLineEnds false text hmem
    · exact absurd hhigh (by decide)
  · intro hreturn
    have hreturn' : '\r' ∉ text := by
      intro hmem
      apply hreturn
      have hbyte : '\r' ∈ utf8Char '\r' := by
        rw [utf8Char_of_ascii (by decide)]
        exact List.mem_singleton_self _
      exact List.mem_flatMap.2 ⟨'\r', hmem, hbyte⟩
    refine ⟨text.flatMap addContentChar, text, ?_, ?_, ?_⟩
    · exact congrArg (·, true) hwritten
    · rw [readCharData_addContent h, normalizeLineEnds_of_not_mem hreturn']
    · intro value htype
      cases value <;> cases htype
      rfl

/-! ## Characters -/

/-- A single ASCII character is read as itself if XML gives it no meaning. -/
theorem readCharData_single {c : Char} (hchar : IsXmlChar c) :
    readCharData [c] = some [c] ↔ c ∉ ['<', '&', '\r'] := by
  constructor
  · intro h hmem
    simp only [List.mem_cons, List.not_mem_nil, or_false] at hmem
    rcases hmem with rfl | rfl | rfl
    · exact absurd h (by decide)
    · exact absurd h (by decide)
    · exact absurd h (by decide)
  · intro h
    simp only [List.mem_cons, List.not_mem_nil, or_false, not_or] at h
    obtain ⟨hlt, hamp, hreturn⟩ := h
    have hshort : ¬ "]]>".toList <:+: [c] := by
      intro hinfix
      have hlen : 3 ≤ 1 := hinfix.length_le
      omega
    have hplain : '\r' ∉ [c] := fun hmem => hreturn (List.mem_singleton.1 hmem).symm
    rw [readCharData, if_neg hshort, normalizeLineEnds_of_not_mem hplain,
      expandReferences_data hchar hlt hamp]
    rfl

/-- A value that is written as one character, and read from that character only. -/
theorem survives_single {v : GValue} {c : Char} (hascii : c.toNat < 128) (hchar : IsXmlChar c)
    (hwritten : valueAppendToXmlString glib v = ([c], true))
    (hread : ∀ d : Char, d.toNat < 128 →
      ((∀ value : GValue, value.type = v.type → setValueFromString glib value [d] = (v, true)) ↔
        d = c)) :
    Survives glib v ↔ c ∉ ['<', '&', '\r'] := by
  have hbytes : utf8 [c] = [c] := by
    apply utf8_of_ascii
    intro d hd
    obtain rfl := List.mem_singleton.1 hd
    exact hascii
  constructor
  · rintro ⟨raw, text, hraw, hdata, hset⟩ hmem
    have hraw' : utf8 raw = [c] := (congrArg Prod.fst hraw).symm.trans (congrArg Prod.fst hwritten)
    obtain rfl := utf8_injective (hraw'.trans hbytes.symm)
    simp only [List.mem_cons, List.not_mem_nil, or_false] at hmem
    rcases hmem with rfl | rfl | rfl
    · have hnone : readCharData ['<'] = none := by decide
      exact absurd (hnone.symm.trans hdata) (Option.some_ne_none text).symm
    · have hnone : readCharData ['&'] = none := by decide
      exact absurd (hnone.symm.trans hdata) (Option.some_ne_none text).symm
    · have hfeed : some ['\n'] = some text := hdata
      obtain rfl := Option.some.inj hfeed
      exact absurd ((hread '\n' (by decide)).1 hset) (by decide)
  · intro hmem
    refine ⟨[c], [c], ?_, (readCharData_single hchar).2 hmem, ?_⟩
    · rw [hwritten, hbytes]
    · rw [hbytes]
      exact (hread c hascii).2 rfl

theorem ofNat_eq_iff {d : Char} {x : UInt8} (hd : d.toNat < 128) :
    UInt8.ofNat d.toNat = x ↔ d = Char.ofNat x.toNat := by
  constructor
  · rintro rfl
    have hmod : (UInt8.ofNat d.toNat).toNat = d.toNat := by
      rw [UInt8.toNat_ofNat']
      omega
    rw [hmod, Char.ofNat_toNat]
  · rintro rfl
    rw [toNat_ofNat_byte, UInt8.ofNat_toNat]

theorem survives_char {v : Int8} (hascii : v.toUInt8.toNat < 128)
    (hchar : IsXmlChar (Char.ofNat v.toUInt8.toNat)) :
    Survives glib (char v) ↔ Char.ofNat v.toUInt8.toNat ∉ ['<', '&', '\r'] := by
  refine survives_single glib ?_ hchar rfl fun d hd => ?_
  · rw [toNat_ofNat_byte]
    exact hascii
  · rw [← ofNat_eq_iff hd]
    constructor
    · intro hset
      exact congrArg Int8.toUInt8 (GValue.char.inj (congrArg Prod.fst (hset (char 0) rfl)))
    · intro heq value htype
      cases value <;> cases htype
      have hsame : Int8.ofNat d.toNat = v := congrArg UInt8.toInt8 heq
      rw [← hsame]
      rfl

theorem survives_uchar {v : UInt8} (hascii : v.toNat < 128)
    (hchar : IsXmlChar (Char.ofNat v.toNat)) :
    Survives glib (uchar v) ↔ Char.ofNat v.toNat ∉ ['<', '&', '\r'] := by
  refine survives_single glib ?_ hchar rfl fun d hd => ?_
  · rw [toNat_ofNat_byte]
    exact hascii
  · rw [← ofNat_eq_iff hd]
    constructor
    · intro hset
      exact GValue.uchar.inj (congrArg Prod.fst (hset (uchar 0) rfl))
    · intro heq value htype
      cases value <;> cases htype
      rw [← heq]
      rfl

/-- Every value that is carried is written. -/
theorem written_of_carried {v : GValue} (h : v.Carried) :
    (valueAppendToXmlString glib v).2 = true := by
  cases v with
  | string v =>
    cases v with
    | none => exact h.elim
    | some v => rfl
  | other id contents => exact h.elim
  | _ => rfl

/-! ## The main result -/

/-- **A value survives exactly if it is a string without carriage returns, or a character that is no
markup and no carriage return, or an integer or a boolean.** -/
theorem survives_iff {v : GValue} (h : v.IsTyped) : Survives glib v ↔ v.IsPlain := by
  have hcarried : v.Carried → Survives glib v := by
    intro hcarried
    obtain ⟨items, hitems, hwritten, htext⟩ := exists_items glib hcarried
    refine ⟨items.flatMap TextItem.render, items.map TextItem.char, ?_, readCharData_items hitems, ?_⟩
    · exact Prod.ext hwritten (written_of_carried glib hcarried)
    · rw [← htext]
      intro value htype
      exact setValueFromString_text glib hcarried htype
  cases v with
  | string v =>
    cases v with
    | none => exact h.elim
    | some v =>
      obtain ⟨text, hchars, rfl⟩ := h
      exact survives_string glib hchars
  | char v => exact survives_char glib h.1 h.2
  | uchar v => exact survives_uchar glib h.1 h.2
  | int v => exact iff_of_true (hcarried trivial) trivial
  | uint v => exact iff_of_true (hcarried trivial) trivial
  | int64 v => exact iff_of_true (hcarried trivial) trivial
  | uint64 v => exact iff_of_true (hcarried trivial) trivial
  | long v => exact iff_of_true (hcarried trivial) trivial
  | ulong v => exact iff_of_true (hcarried trivial) trivial
  | boolean v => exact iff_of_true (hcarried trivial) trivial
  | float bits => exact h.elim
  | double bits => exact h.elim
  | other id contents => exact h.elim

theorem survives_sample : Survives GLib.plain (char 62) := by
  have htyped : (char 62).IsTyped := ⟨by decide, by decide⟩
  have hplain : (char 62).IsPlain := by
    show Char.ofNat 62 ∉ ['<', '&', '\r']
    decide
  exact (survives_iff GLib.plain htyped).2 hplain

/-- The character `<` is written as it is, and a carriage return comes back as a line feed. -/
theorem markup_lost :
    ((char 60).IsTyped ∧ ¬ Survives GLib.plain (char 60)) ∧
      (string (some ['a', '\r'])).IsTyped ∧ ¬ Survives GLib.plain (string (some ['a', '\r'])) := by
  have hmarkup : (char 60).IsTyped := ⟨by decide, by decide⟩
  have hbytes : utf8 ['a', '\r'] = ['a', '\r'] := utf8_of_all (by decide)
  have hchars : ∀ c ∈ ['a', '\r'], IsXmlChar c := by
    intro c hc
    simp only [List.mem_cons, List.not_mem_nil, or_false] at hc
    rcases hc with rfl | rfl
    · decide
    · decide
  have hstring := survives_string GLib.plain hchars
  rw [hbytes] at hstring
  refine ⟨⟨hmarkup, fun h => ?_⟩, ⟨_, hchars, hbytes.symm⟩, fun h => ?_⟩
  · exact absurd ((survives_char GLib.plain hmarkup.1 hmarkup.2).1 h) (by decide)
  · exact absurd (hstring.1 h) (by decide)

end GUPnP.GValue
