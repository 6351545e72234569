import GUPnP.GValue.RoundTrip
import Mathlib.Data.List.Infix

/-!
# Escaping content (`xml_util_add_content`)

The loop tests single bytes and goes on by whole characters, whose length it takes from their first
bytes. In a text in UTF-8 no other byte of a character is one it looks for, so the loop escapes the
bytes one by one (`addContentLoop_utf8`). What it appends is text without markup that stands for the
content (`isEscape_addContent`, `escaped_content`).
-/

set_option autoImplicit false

namespace GUPnP.Xml

/-! ## The loop -/

/-- The table behind `g_utf8_next_char`. -/
def utf8Skip (c : Char) : Nat :=
  if c.toNat < 0xC0 then 1
  else if c.toNat < 0xE0 then 2
  else if c.toNat < 0xF0 then 3
  else if c.toNat < 0xF8 then 4
  else if c.toNat < 0xFC then 5
  else if c.toNat < 0xFE then 6
  else 1

/-- The switch of `xml_util_add_content`: what it appends for a byte and the others up to the next
character. -/
def appended (c : Char) (bytes : Str) : Str :=
  match c with
  | '&' => "&amp;".toList
  | '<' => "&lt;".toList
  | '>' => "&gt;".toList
  | '"' => "&quot;".toList
  | _ => bytes

/-- The loop of `xml_util_add_content`; `fuel` bounds its rounds, and there is no result where it goes
on behind the terminator of the content. -/
def addContentLoop : Nat → Str → Str → Option Str
  | _, xmlStr, [] => some xmlStr
  | 0, _, _ :: _ => none
  | fuel + 1, xmlStr, c :: rest =>
    if rest.length + 1 < utf8Skip c then none
    else
      addContentLoop fuel (xmlStr ++ appended c ((c :: rest).take (utf8Skip c)))
        ((c :: rest).drop (utf8Skip c))

/-- `xml_util_add_content` -/
def xmlUtilAddContent (xmlStr content : Str) : Option Str :=
  addContentLoop content.length xmlStr content

/-! ## The statement -/

/-- The entities it emits. -/
def emitted : List Entity := [.amp, .lt, .gt, .quot]

/-- A text with these entities replaced. -/
def replaceEntities : Str → Str
  | [] => []
  | '&' :: 'a' :: 'm' :: 'p' :: ';' :: rest => '&' :: replaceEntities rest
  | '&' :: 'l' :: 't' :: ';' :: rest => '<' :: replaceEntities rest
  | '&' :: 'g' :: 't' :: ';' :: rest => '>' :: replaceEntities rest
  | '&' :: 'q' :: 'u' :: 'o' :: 't' :: ';' :: rest => '"' :: replaceEntities rest
  | c :: rest => c :: replaceEntities rest

/-- Text without markup that stands for the content. -/
structure IsEscape (content out : Str) : Prop where
  noMarkup : '<' ∉ out ∧ '>' ∉ out ∧ '"' ∉ out
  ampersands : ∀ after, '&' :: after <:+ out → ∃ e ∈ emitted, e.name ++ [';'] <+: after
  replaced : replaceEntities out = content

variable {content rest : Str} {c : Char} {text : List Char}

/-! ## Escaped bytes -/

/-- A byte becomes an entity, or it stays and is none that could be markup. -/
theorem addContentChar_cases (c : Char) :
    (∃ e ∈ emitted, e.char = c ∧ addContentChar c = '&' :: e.name ++ [';']) ∨
      (c ∉ emitted.map Entity.char ∧ addContentChar c = [c]) := by
  unfold addContentChar
  split
  · exact .inl ⟨.amp, by decide, rfl, rfl⟩
  · exact .inl ⟨.lt, by decide, rfl, rfl⟩
  · exact .inl ⟨.gt, by decide, rfl, rfl⟩
  · exact .inl ⟨.quot, by decide, rfl, rfl⟩
  · rename_i hamp hlt hgt hquot
    refine .inr ⟨?_, rfl⟩
    simp only [emitted, List.map_cons, List.map_nil, Entity.char, List.mem_cons, List.not_mem_nil,
      or_false, not_or]
    exact ⟨hamp, hlt, hgt, hquot⟩

theorem addContent_cons (c : Char) (content : Str) :
    addContent (c :: content) = addContentChar c ++ addContent content := List.flatMap_cons

/-- What could be markup does not come out. -/
theorem not_mem_addContent {d : Char} (hd : d = '<' ∨ d = '>' ∨ d = '"') (content : Str) :
    d ∉ addContent content := by
  intro hmem
  obtain ⟨c, -, hc⟩ := List.mem_flatMap.1 hmem
  rcases addContentChar_cases c with ⟨e, -, -, heq⟩ | ⟨hnot, heq⟩
  · rw [heq] at hc
    rcases hd with rfl | rfl | rfl <;> cases e <;> exact absurd hc (by decide)
  · rw [heq, List.mem_singleton] at hc
    subst hc
    rcases hd with rfl | rfl | rfl <;> exact hnot (by decide)

theorem replaceEntities_of_ne (h : c ≠ '&') (rest : Str) :
    replaceEntities (c :: rest) = c :: replaceEntities rest := by
  rw [replaceEntities] <;> simp_all

theorem replaceEntities_entity {e : Entity} (he : e ∈ emitted) (rest : Str) :
    replaceEntities ('&' :: e.name ++ [';'] ++ rest) = e.char :: replaceEntities rest := by
  cases e with
  | apos => exact absurd he (by decide)
  | _ => rfl

/-- A suffix that begins with a character lies behind what does not have that character. -/
theorem suffix_of_not_mem {d : Char} {front after : Str} (h : d ∉ front)
    (hsuffix : d :: after <:+ front ++ rest) : d :: after <:+ rest := by
  induction front with
  | nil => exact hsuffix
  | cons x front ih =>
    rw [List.mem_cons, not_or] at h
    rw [List.cons_append] at hsuffix
    rcases List.suffix_cons_iff.1 hsuffix with heq | hsuffix
    · exact absurd (List.cons.inj heq).1 h.1
    · exact ih h.2 hsuffix

theorem ampersand_not_mem_name (e : Entity) : '&' ∉ e.name ++ [';'] := by cases e <;> decide

/-- Where an ampersand comes out an entity begins. -/
theorem entity_of_ampersand (content : Str) {after : Str}
    (h : '&' :: after <:+ addContent content) : ∃ e ∈ emitted, e.name ++ [';'] <+: after := by
  induction content with
  | nil => exact absurd (List.suffix_nil.1 h) (List.cons_ne_nil _ _)
  | cons c content ih =>
    rw [addContent_cons] at h
    rcases addContentChar_cases c with ⟨e, he, -, heq⟩ | ⟨hnot, heq⟩
    · rw [heq, List.cons_append, List.cons_append] at h
      rcases List.suffix_cons_iff.1 h with hstart | hlater
      · refine ⟨e, he, ?_⟩
        rw [(List.cons.inj hstart).2]
        exact List.prefix_append _ _
      · exact ih (suffix_of_not_mem (ampersand_not_mem_name e) hlater)
    · have hamp : '&' ∉ [c] := by
        intro hmem
        obtain rfl := List.mem_singleton.1 hmem
        exact hnot (by decide)
      rw [heq] at h
      exact ih (suffix_of_not_mem hamp h)

theorem replaceEntities_addContent (content : Str) :
    replaceEntities (addContent content) = content := by
  induction content with
  | nil => rfl
  | cons c content ih =>
    rw [addContent_cons]
    rcases addContentChar_cases c with ⟨e, he, rfl, heq⟩ | ⟨hnot, heq⟩
    · rw [heq, replaceEntities_entity he, ih]
    · have hamp : c ≠ '&' := by
        rintro rfl
        exact hnot (by decide)
      rw [heq, List.singleton_append, replaceEntities_of_ne hamp, ih]

/-- What the bytes are escaped to stands for them. -/
theorem isEscape_addContent (content : Str) : IsEscape content (addContent content) where
  noMarkup := ⟨not_mem_addContent (.inl rfl) content, not_mem_addContent (.inr (.inl rfl)) content,
    not_mem_addContent (.inr (.inr rfl)) content⟩
  ampersands _ h := entity_of_ampersand content h
  replaced := replaceEntities_addContent content

/-! ## Texts in UTF-8 -/

/-- The first byte of a character that is not ASCII tells how many there are. -/
theorem utf8Skip_of_high (h : 128 ≤ c.toNat) :
    ∃ b rest, utf8Char c = b :: rest ∧ utf8Skip b = rest.length + 1 := by
  have hv : ¬ c.val.toNat ≤ 0x7f := Nat.not_le_of_lt h
  unfold utf8Char String.utf8EncodeChar
  rw [if_neg hv]
  split
  · refine ⟨_, _, rfl, ?_⟩
    unfold utf8Skip
    rw [toNat_ofNat_byte, UInt8.toNat_ofNat', if_neg (by omega), if_pos (by omega)]
    rfl
  split
  · refine ⟨_, _, rfl, ?_⟩
    unfold utf8Skip
    rw [toNat_ofNat_byte, UInt8.toNat_ofNat', if_neg (by omega), if_neg (by omega),
      if_pos (by omega)]
    rfl
  · refine ⟨_, _, rfl, ?_⟩
    unfold utf8Skip
    rw [toNat_ofNat_byte, UInt8.toNat_ofNat', if_neg (by omega), if_neg (by omega),
      if_neg (by omega), if_pos (by omega)]
    rfl

theorem appended_single (c : Char) : appended c [c] = addContentChar c := by
  unfold appended
  split
  · rfl
  · rfl
  · rfl
  · rfl
  · rename_i hamp hlt hgt hquot
    exact (addContentChar_of_ne hamp hlt hgt hquot).symm

theorem appended_of_high (h : 128 ≤ c.toNat) (bytes : Str) : appended c bytes = bytes := by
  unfold appended
  split
  all_goals first
    | rfl
    | exact absurd h (by decide)

/-- A round of the loop goes by one character and escapes its bytes. -/
theorem addContentLoop_utf8Char (fuel : Nat) (xmlStr : Str) (c : Char) (rest : Str) :
    addContentLoop (fuel + 1) xmlStr (utf8Char c ++ rest) =
      addContentLoop fuel (xmlStr ++ addContent (utf8Char c)) rest := by
  by_cases hascii : c.toNat < 128
  · have hskip : utf8Skip c = 1 := if_pos (by omega)
    have hone : addContent [c] = addContentChar c := List.flatMap_singleton ..
    rw [utf8Char_of_ascii hascii, List.singleton_append, addContentLoop, hskip, if_neg (by omega),
      hone, ← appended_single]
    rfl
  · have hhigh : 128 ≤ c.toNat := Nat.le_of_not_lt hascii
    obtain ⟨b, more, hchar, hskip⟩ := utf8Skip_of_high hhigh
    have hb : 128 ≤ b.toNat := le_of_mem_utf8Char hhigh (hchar ▸ List.mem_cons_self)
    have hsame : addContent (b :: more) = b :: more := by
      rw [← hchar, addContent_utf8Char, addContentChar_of_high hhigh, utf8_cons, utf8_nil,
        List.append_nil]
    have hlength : utf8Skip b = (b :: more).length := hskip
    have hfits : ¬ (more ++ rest).length + 1 < utf8Skip b := by
      rw [hskip, List.length_append]
      omega
    rw [hchar, List.cons_append, addContentLoop, if_neg hfits, appended_of_high hb, hlength,
      ← List.cons_append, List.take_left, List.drop_left, hsame]

/-- The loop escapes the bytes one by one. -/
theorem addContentLoop_utf8 {fuel : Nat} (text : List Char) (hfuel : text.length ≤ fuel)
    (xmlStr : Str) :
    addContentLoop fuel xmlStr (utf8 text) = some (xmlStr ++ addContent (utf8 text)) := by
  induction text generalizing fuel xmlStr with
  | nil =>
    have hend : addContentLoop fuel xmlStr [] = some xmlStr := by cases fuel <;> rfl
    rw [utf8_nil, hend]
    exact congrArg some (List.append_nil xmlStr).symm
  | cons c text ih =>
    obtain ⟨rounds, rfl⟩ : ∃ rounds, fuel = rounds + 1 := ⟨fuel - 1, by
      rw [List.length_cons] at hfuel
      omega⟩
    have hboth : addContent (utf8Char c ++ utf8 text) =
        addContent (utf8Char c) ++ addContent (utf8 text) := List.flatMap_append
    rw [utf8_cons, addContentLoop_utf8Char, ih (Nat.le_of_succ_le_succ hfuel), hboth,
      List.append_assoc]

theorem length_le_utf8 (text : List Char) : text.length ≤ (utf8 text).length := by
  induction text with
  | nil => exact Nat.le_refl 0
  | cons c text ih =>
    have hpos := List.length_pos_iff.2 (utf8Char_ne_nil c)
    rw [utf8_cons, List.length_append, List.length_cons]
    omega

theorem xmlUtilAddContent_utf8 (xmlStr : Str) (text : List Char) :
    xmlUtilAddContent xmlStr (utf8 text) = some (xmlStr ++ addContent (utf8 text)) :=
  addContentLoop_utf8 text (length_le_utf8 text) xmlStr

/-- **Escaped content has no markup and stands for the content**, and content behind content is
escaped behind it. -/
theorem escaped_content (text : List Char) :
    ∃ out, IsEscape (utf8 text) out ∧
      (∀ xmlStr, xmlUtilAddContent xmlStr (utf8 text) = some (xmlStr ++ out)) ∧
      ∀ more : List Char, ∃ outMore,
        (∀ xmlStr, xmlUtilAddContent xmlStr (utf8 more) = some (xmlStr ++ outMore)) ∧
        ∀ xmlStr, xmlUtilAddContent xmlStr (utf8 text ++ utf8 more) =
          some (xmlStr ++ (out ++ outMore)) := by
  refine ⟨addContent (utf8 text), isEscape_addContent _,
    fun xmlStr => xmlUtilAddContent_utf8 xmlStr text, fun more => ?_⟩
  refine ⟨addContent (utf8 more), fun xmlStr => xmlUtilAddContent_utf8 xmlStr more,
    fun xmlStr => ?_⟩
  rw [← utf8_append, xmlUtilAddContent_utf8, utf8_append]
  exact congrArg (fun out => some (xmlStr ++ out)) List.flatMap_append

/-- Without a valid text the loop may go on behind its end. -/
example : xmlUtilAddContent [] [Char.ofNat 0xE2, '<'] = none := by decide

end GUPnP.Xml
