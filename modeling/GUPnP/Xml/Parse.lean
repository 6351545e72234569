import GUPnP.Xml.Syntax
import Mathlib.Data.List.Basic

/-!
# A parser for XML documents

`parse` reads the documents of `Xml/Syntax.lean`, by recursive descent over their bytes. It goes by
the delimiters and checks little else, so it also takes documents that are not well-formed; a prefix
that is not declared, or declared with a name no namespace may have, stays a part of the name.
`readsDefaults_parse` is its correctness.
-/

set_option autoImplicit false

namespace GUPnP.Xml

/-! ## The parser -/

/-- The bytes of names: letters, digits, `-`, `.`, `_`, `:` and all that are not ASCII. -/
def nameByte (c : Char) : Bool :=
  (0x2D ≤ c.toNat ∧ c.toNat ≤ 0x2E) ∨ (0x30 ≤ c.toNat ∧ c.toNat ≤ 0x3A) ∨
  (0x41 ≤ c.toNat ∧ c.toNat ≤ 0x5A) ∨ c.toNat = 0x5F ∨ (0x61 ≤ c.toNat ∧ c.toNat ≤ 0x7A) ∨
  0x80 ≤ c.toNat

/-- What stands before the first colon, and what after it. -/
def splitName (name : Str) : Option (Str × Str) :=
  match name.dropWhile (· ≠ ':') with
  | [] => none
  | _ :: localName => some (name.takeWhile (· ≠ ':'), localName)

/-- The local name, if the prefix is declared. -/
def resolve (scope : List Str) (name : Str) : Str :=
  match splitName name with
  | none => name
  | some (nsPrefix, localName) => if nsPrefix ∈ scope then localName else name

/-- What follows `a` in `s`. -/
def after (a s : Str) : Option Str := if a <+: s then some (s.drop a.length) else none

/-- An attribute and what follows it. -/
def parseAttribute (s : Str) : Option ((Str × Str) × Str) := do
  let value ← after ['=', '"'] (s.dropWhile nameByte)
  let rest ← after ['"'] (value.dropWhile (· ≠ '"'))
  some ((s.takeWhile nameByte, value.takeWhile (· ≠ '"')), rest)

/-- The attributes up to the end of the tag. -/
def parseAttributes : Nat → Str → Option (List (Str × Str) × Str)
  | fuel, c :: s =>
    if c = '>' then some ([], s)
    else
      match fuel with
      | 0 => none
      | fuel + 1 => do
        let (a, s) ← parseAttribute s
        let (attributes, s) ← parseAttributes fuel s
        some (a :: attributes, s)
  | _, [] => none

/-- The prefix an attribute declares. -/
def declaredPrefix (a : Str × Str) : Option Str :=
  match splitName a.1 with
  | none => none
  | some (nsPrefix, localName) =>
    if nsPrefix = "xmlns".toList ∧ a.2 ≠ [] ∧ a.2 ∉ reservedNames then some localName else none

/-- An attribute that is no declaration. -/
def plainAttribute (scope : List Str) (a : Str × Str) : Option (Str × Str) :=
  if (splitName a.1).map Prod.fst = some "xmlns".toList ∨ a.1 = "xmlns".toList then none
  else some (resolve scope a.1, a.2)

/-- The character of a predefined entity. -/
def entityOf (name : Str) : Option Char :=
  ([Entity.amp, .lt, .gt, .quot, .apos].find? fun entity => entity.name = name).map Entity.char

/-- A text without its references. `reference` has the name of the reference it is in. -/
def unescape : Option Str → Str → Option Str
  | none, [] => some []
  | some _, [] => none
  | none, c :: s => if c = '&' then unescape (some []) s else (unescape none s).map (c :: ·)
  | some reference, c :: s =>
    if c = ';' then (entityOf reference).bind fun d => (unescape none s).map (d :: ·)
    else unescape (some (reference ++ [c])) s

/-- The nodes up to the next end tag or to the end. -/
def parseNodes : Nat → List Str → Str → Option (List Node × Str)
  | 0, _, _ => none
  | _ + 1, _, [] => some ([], [])
  | fuel + 1, scope, c :: s =>
    if c = '<' then
      if s.head? = some '/' then some ([], c :: s)
      else do
        let name := s.takeWhile nameByte
        let (attributes, s) ← parseAttributes s.length (s.dropWhile nameByte)
        let inner := attributes.filterMap declaredPrefix ++ scope
        let (children, s) ← parseNodes fuel inner s
        let s ← after ('<' :: '/' :: name ++ ['>']) s
        let (nodes, s) ← parseNodes fuel scope s
        some (.element (resolve inner name) (attributes.filterMap (plainAttribute inner)) children ::
          nodes, s)
    else do
      let text ← unescape none ((c :: s).takeWhile (· ≠ '<'))
      let (nodes, s) ← parseNodes fuel scope ((c :: s).dropWhile (· ≠ '<'))
      some (.text text :: nodes, s)

/-- A document. -/
def parse (s : Str) : Option Node := do
  let body ← after xmlDeclaration s
  match ← parseNodes (s.length + 1) [] body with
  | ([root], []) => if root.isElement then some (.document [root]) else none
  | _ => none

theorem after_append (a s : Str) : after a (a ++ s) = some s := by
  unfold after
  rw [if_pos (List.prefix_append a s), List.drop_left]

/-! ## Names -/

variable {scope : List (List Char)} {name : List Char} {q : QName} {b : Char} {s rest : Str}

theorem nameByte_of_isNameChar {c : Char} (h : IsNameChar c) : nameByte c = true := by
  unfold IsNameChar IsNameStartChar at h
  unfold nameByte
  rw [decide_eq_true_eq]
  omega

/-- The bytes of a name are bytes of names, and no colon is among them. -/
theorem nameByte_of_mem (h : IsNcName name) (hb : b ∈ utf8 name) : nameByte b = true ∧ b ≠ ':' := by
  rcases mem_utf8 hb with hmem | hhigh
  · have hchar := h.chars b hmem
    refine ⟨nameByte_of_isNameChar hchar, fun hcolon => ?_⟩
    subst hcolon
    unfold IsNameChar IsNameStartChar at hchar
    have hcode : ':'.toNat = 0x3A := rfl
    omega
  · refine ⟨?_, fun hcolon => ?_⟩
    · unfold nameByte
      rw [decide_eq_true_eq]
      omega
    · subst hcolon
      exact absurd hhigh (by decide)

theorem utf8_ne_nil (h : IsNcName name) : utf8 name ≠ [] := by
  obtain ⟨c, rest, rfl, -⟩ := h.start
  rw [utf8_cons, Ne, List.append_eq_nil_iff]
  exact fun hnil => utf8Char_ne_nil c hnil.1

/-- The bytes before a delimiter. -/
theorem span_of_delimiter {p : Char → Bool} {a : Str} (ha : ∀ c ∈ a, p c = true) (hb : p b = false) :
    (a ++ b :: s).takeWhile p = a ∧ (a ++ b :: s).dropWhile p = b :: s := by
  rw [List.takeWhile_append_of_pos ha, List.dropWhile_append_of_pos ha,
    List.takeWhile_cons_of_neg (by rw [hb]; decide), List.dropWhile_cons_of_neg (by rw [hb]; decide),
    List.append_nil]
  exact ⟨rfl, rfl⟩

theorem ne_colon_of_mem (h : IsNcName name) : ∀ c ∈ utf8 name, decide (c ≠ ':') = true :=
  fun _ hc => decide_eq_true (nameByte_of_mem h hc).2

theorem splitName_none (h : IsNcName name) : splitName (utf8 name) = none := by
  have hall : (utf8 name).dropWhile (· ≠ ':') = [] := List.dropWhile_eq_nil_iff.2 (ne_colon_of_mem h)
  unfold splitName
  rw [hall]

theorem splitName_some {p : List Char} (name : List Char) (h : ∀ c ∈ utf8 p, decide (c ≠ ':') = true) :
    splitName (utf8 (p ++ ':' :: name)) = some (utf8 p, utf8 name) := by
  obtain ⟨htake, hdrop⟩ := span_of_delimiter (b := ':') (s := utf8 name) h rfl
  have hbytes : utf8 (p ++ ':' :: name) = utf8 p ++ ':' :: utf8 name := by
    rw [utf8_append, utf8_cons, utf8Char_of_ascii (by decide)]
    rfl
  unfold splitName
  rw [hbytes, hdrop, htake]

/-- The prefixes in scope are names. -/
def ScopeOk (scope : List (List Char)) : Prop := ∀ p ∈ scope, IsNcName p ∧ p ≠ "xmlns".toList

theorem resolve_render (hscope : ScopeOk scope) (h : Markup.NameIn scope q) :
    resolve (scope.map utf8) (utf8 q.render) = utf8 q.2 := by
  obtain ⟨p, name⟩ := q
  unfold resolve
  cases p with
  | none =>
    rw [QName.render, splitName_none h.name]
  | some p =>
    have hp : p ∈ scope := h.nsPrefix p rfl
    rw [QName.render, splitName_some name (ne_colon_of_mem (hscope p hp).1)]
    exact if_pos (List.mem_map_of_mem hp)

theorem nameByte_render (hscope : ScopeOk scope) (h : Markup.NameIn scope q) :
    ∀ c ∈ utf8 q.render, nameByte c = true := by
  obtain ⟨p, name⟩ := q
  cases p with
  | none => exact fun c hc => (nameByte_of_mem h.name hc).1
  | some p =>
    intro c hc
    rw [QName.render, utf8_append, utf8_cons, utf8Char_of_ascii (by decide)] at hc
    rcases List.mem_append.1 hc with hc | hc
    · exact (nameByte_of_mem (hscope p (h.nsPrefix p rfl)).1 hc).1
    · rcases List.mem_cons.1 hc with rfl | hc
      · decide
      · exact (nameByte_of_mem h.name hc).1

/-! ## Attributes -/

/-- The name and the value of an attribute, as the parser sees them. -/
def Attribute.bytes : Attribute → Str × Str
  | .declare nsPrefix uri => (utf8 (QName.render (some "xmlns".toList, nsPrefix)), utf8 uri)
  | .plain name value => (utf8 name.render, utf8 value)

theorem ascii_xmlns : ∀ c ∈ "xmlns".toList, c.toNat < 128 := ascii_of_all (by decide)

theorem ascii_reservedNames {uri : Str} (h : uri ∈ reservedNames) : ∀ c ∈ uri, c.toNat < 128 := by
  unfold reservedNames at h
  rcases List.mem_cons.1 h with rfl | h
  · exact ascii_of_all (by decide)
  · obtain rfl := List.mem_singleton.1 h
    exact ascii_of_all (by decide)

theorem utf8_xmlns : utf8 "xmlns".toList = "xmlns".toList := utf8_of_ascii ascii_xmlns

theorem nameByte_xmlns : ∀ c ∈ utf8 "xmlns".toList, nameByte c = true ∧ c ≠ ':' := by
  intro c hc
  rw [utf8_xmlns] at hc
  have hall : "xmlns".toList.all (fun c => nameByte c && decide (c ≠ ':')) = true := by decide
  have hboth := List.all_eq_true.1 hall c hc
  rw [Bool.and_eq_true, decide_eq_true_eq] at hboth
  exact hboth

/-- A value ends before its quote. -/
theorem ne_quote_of_mem {value : List Char} (h : ∀ c ∈ value, c ≠ '"') :
    ∀ c ∈ utf8 value, decide (c ≠ '"') = true := by
  intro c hc
  refine decide_eq_true fun hquote => ?_
  subst hquote
  rcases mem_utf8 hc with hmem | hhigh
  · exact h _ hmem rfl
  · exact absurd hhigh (by decide)

theorem parseAttribute_of_bytes {name value : Str} (hname : ∀ c ∈ name, nameByte c = true)
    (hvalue : ∀ c ∈ value, decide (c ≠ '"') = true) (rest : Str) :
    parseAttribute (name ++ '=' :: '"' :: (value ++ '"' :: rest)) = some ((name, value), rest) := by
  obtain ⟨htake, hdrop⟩ :=
    span_of_delimiter (b := '=') (s := '"' :: (value ++ '"' :: rest)) hname (by decide)
  obtain ⟨htake', hdrop'⟩ := span_of_delimiter (b := '"') (s := rest) hvalue rfl
  have hvalue := after_append ['=', '"'] (value ++ '"' :: rest)
  have hrest := after_append ['"'] rest
  simp only [List.cons_append, List.nil_append] at hvalue hrest
  unfold parseAttribute
  simp only [hdrop, htake, hvalue, hdrop', htake', hrest, Option.bind_eq_bind, Option.bind_some]

/-- An attribute that may stand in a document: with the prefixes in scope, or of a default namespace. -/
def AttributeOk (scope : List (List Char)) (a : Attribute) : Prop :=
  Markup.AttributeIn scope a ∨ a.isDefault ∧ IsNamespaceName a.value

theorem eq_plain_of_isDefault {a : Attribute} (h : a.isDefault = true) :
    a = .plain (none, "xmlns".toList) a.value := by
  cases a with
  | declare nsPrefix uri => cases h
  | plain name value => rw [of_decide_eq_true h]; rfl

/-- The bytes of the declaration of a default namespace. -/
theorem bytes_default {a : Attribute} (h : a.isDefault = true) :
    a.bytes = ("xmlns".toList, utf8 a.value) := by
  rw [eq_plain_of_isDefault h, Attribute.bytes, QName.render, utf8_xmlns]
  rfl

theorem splitName_xmlns : splitName "xmlns".toList = none := by decide

theorem nameByte_attribute (hscope : ScopeOk scope) {a : Attribute} (h : AttributeOk scope a) :
    ∀ c ∈ a.bytes.1, nameByte c = true := by
  rcases h with h | ⟨hdefault, -⟩
  case inr =>
    intro c hc
    rw [bytes_default hdefault, ← utf8_xmlns] at hc
    exact (nameByte_xmlns c hc).1
  cases a with
  | declare nsPrefix uri =>
    intro c hc
    rw [Attribute.bytes, QName.render, utf8_append, utf8_cons, utf8Char_of_ascii (by decide)] at hc
    rcases List.mem_append.1 hc with hc | hc
    · exact (nameByte_xmlns c hc).1
    · rcases List.mem_cons.1 hc with rfl | hc
      · decide
      · exact (nameByte_of_mem h.1 hc).1
  | plain name value => exact nameByte_render hscope h.1

theorem ne_quote_attribute {a : Attribute} (h : AttributeOk scope a) :
    ∀ c ∈ a.bytes.2, decide (c ≠ '"') = true := by
  rcases h with h | ⟨hdefault, hvalue⟩
  case inr =>
    rw [bytes_default hdefault]
    exact ne_quote_of_mem fun c hc => (hvalue.chars c hc).2.2.2
  cases a with
  | declare nsPrefix uri => exact ne_quote_of_mem fun c hc => (h.2.2.2.chars c hc).2.2.2
  | plain name value => exact ne_quote_of_mem fun c hc => (h.2.2 c hc).2.2.2.2

theorem utf8_render_attribute (a : Attribute) (rest : Str) :
    utf8 a.render ++ rest = ' ' :: (a.bytes.1 ++ '=' :: '"' :: (a.bytes.2 ++ '"' :: rest)) := by
  have hblank : utf8Char ' ' = [' '] := utf8Char_of_ascii (by decide)
  have hequals : utf8Char '=' = ['='] := utf8Char_of_ascii (by decide)
  have hquote : utf8Char '"' = ['"'] := utf8Char_of_ascii (by decide)
  cases a <;>
    simp only [Attribute.render, Attribute.bytes, utf8_cons, utf8_append, utf8_nil, hblank, hequals,
      hquote, List.cons_append, List.append_assoc, List.nil_append,
      List.append_nil]

theorem parseAttributes_render (hscope : ScopeOk scope) {attributes : List Attribute}
    (h : ∀ a ∈ attributes, AttributeOk scope a) {fuel : Nat} (hfuel : attributes.length ≤ fuel)
    (rest : Str) :
    parseAttributes fuel (utf8 (attributes.flatMap Attribute.render) ++ '>' :: rest) =
      some (attributes.map Attribute.bytes, rest) := by
  induction attributes generalizing fuel with
  | nil =>
    unfold parseAttributes
    rfl
  | cons a attributes ih =>
    obtain ⟨fuel, rfl⟩ : ∃ f, fuel = f + 1 :=
      ⟨fuel - 1, by simp only [List.length_cons] at hfuel; omega⟩
    have ha := h a List.mem_cons_self
    rw [List.flatMap_cons, utf8_append, List.append_assoc, utf8_render_attribute]
    have hattr := parseAttribute_of_bytes (nameByte_attribute hscope ha) (ne_quote_attribute ha)
      (utf8 (attributes.flatMap Attribute.render) ++ '>' :: rest)
    have hlength : attributes.length ≤ fuel := by
      simp only [List.length_cons] at hfuel
      omega
    have hrest := ih (fun a' ha' => h a' (List.mem_cons_of_mem a ha')) hlength
    rw [parseAttributes, if_neg (by decide), hattr]
    simp only [Option.bind_eq_bind, Option.bind_some, hrest, List.map_cons]

theorem declaredPrefix_bytes (hscope : ScopeOk scope) {a : Attribute} (h : AttributeOk scope a) :
    declaredPrefix a.bytes = a.declared.map utf8 := by
  unfold declaredPrefix
  rcases h with h | ⟨hdefault, -⟩
  case inr =>
    rw [bytes_default hdefault, splitName_xmlns, eq_plain_of_isDefault hdefault]
    rfl
  cases a with
  | declare nsPrefix uri =>
    have hsplit := splitName_some nsPrefix fun c hc => decide_eq_true (nameByte_xmlns c hc).2
    have huri : utf8 uri ≠ [] := by
      obtain ⟨c, hc⟩ := List.exists_mem_of_ne_nil _ h.2.2.2.nonempty
      obtain ⟨b, hb⟩ := List.exists_mem_of_ne_nil _ (utf8Char_ne_nil c)
      exact List.ne_nil_of_mem (List.mem_flatMap.2 ⟨c, hc, hb⟩)
    have hfree : utf8 uri ∉ reservedNames := by
      intro hmem
      have hsame := eq_of_utf8_eq (ascii_reservedNames hmem) rfl
      exact h.2.2.2.notReserved (hsame ▸ hmem)
    rw [Attribute.bytes, QName.render, hsplit]
    dsimp only
    rw [if_pos ⟨utf8_xmlns, huri, hfree⟩]
    rfl
  | plain name value =>
    obtain ⟨p, name⟩ := name
    cases p with
    | none =>
      rw [Attribute.bytes, QName.render, splitName_none h.1.name]
      rfl
    | some p =>
      obtain ⟨hp, hne⟩ := hscope p (h.1.nsPrefix p rfl)
      rw [Attribute.bytes, QName.render, splitName_some name (ne_colon_of_mem hp)]
      dsimp only
      rw [if_neg fun hx => hne (eq_of_utf8_eq ascii_xmlns hx.1)]
      rfl

theorem plainAttribute_bytes (hscope : ScopeOk scope) {a : Attribute}
    (h : Markup.AttributeIn scope a) : plainAttribute (scope.map utf8) a.bytes = a.toNode := by
  unfold plainAttribute
  cases a with
  | declare nsPrefix uri =>
    have hsplit := splitName_some nsPrefix fun c hc => decide_eq_true (nameByte_xmlns c hc).2
    rw [Attribute.bytes, QName.render, hsplit, Option.map_some, utf8_xmlns, if_pos (.inl rfl)]
    rfl
  | plain name value =>
    have hresolve := resolve_render hscope h.1
    obtain ⟨p, name⟩ := name
    rw [Attribute.bytes, hresolve]
    cases p with
    | none =>
      have hname : utf8 name ≠ "xmlns".toList := by
        intro hx
        exact h.2.1 (by rw [eq_of_utf8_eq ascii_xmlns hx])
      rw [QName.render, splitName_none h.1.name]
      exact if_neg (not_or.2 ⟨Option.some_ne_none _ ∘ Eq.symm, hname⟩)
    | some p =>
      obtain ⟨hp, hne⟩ := hscope p (h.1.nsPrefix p rfl)
      have hsplit := splitName_some name (ne_colon_of_mem hp)
      have hwhole : utf8 (p ++ ':' :: name) ≠ "xmlns".toList := by
        intro hx
        rw [hx, splitName_xmlns] at hsplit
        cases hsplit
      rw [QName.render, hsplit, Option.map_some,
        if_neg (not_or.2 ⟨fun hx => hne (eq_of_utf8_eq ascii_xmlns (Option.some.inj hx)), hwhole⟩)]
      rfl

theorem filterMap_declaredPrefix (hscope : ScopeOk scope) {attributes : List Attribute}
    (h : ∀ a ∈ attributes, AttributeOk scope a) :
    (attributes.map Attribute.bytes).filterMap declaredPrefix =
      (attributes.filterMap Attribute.declared).map utf8 := by
  rw [List.filterMap_map, List.map_filterMap]
  exact List.filterMap_congr fun a ha => declaredPrefix_bytes hscope (h a ha)

/-- Neither declarations nor default namespaces are attributes of the tree. -/
theorem filterMap_plainAttribute (hscope : ScopeOk scope) {attributes : List Attribute}
    (h : ∀ a ∈ attributes, AttributeOk scope a) :
    (attributes.map Attribute.bytes).filterMap (plainAttribute (scope.map utf8)) =
      (attributes.filter (!·.isDefault)).filterMap Attribute.toNode := by
  rw [List.filterMap_map, List.filterMap_filter]
  refine List.filterMap_congr fun a ha => ?_
  rcases h a ha with hin | ⟨hdefault, -⟩
  · rw [Markup.not_isDefault_of_attributeIn hin]
    exact plainAttribute_bytes hscope hin
  · rw [Function.comp_apply, bytes_default hdefault, hdefault]
    exact if_pos (.inr rfl)

/-! ## Texts -/

theorem unescape_append {a : Str} (h : ∀ c ∈ a, c ≠ '&') (s : Str) :
    unescape none (a ++ s) = (unescape none s).map (a ++ ·) := by
  induction a with
  | nil =>
    rw [List.nil_append]
    cases unescape none s <;> rfl
  | cons c a ih =>
    rw [List.cons_append, unescape, if_neg (h c List.mem_cons_self),
      ih fun d hd => h d (List.mem_cons_of_mem c hd)]
    cases unescape none s <;> rfl

theorem unescape_reference (entity : Entity) (s : Str) :
    unescape none ('&' :: entity.name ++ ';' :: s) = (unescape none s).map (entity.char :: ·) := by
  cases entity <;> rfl

theorem unescape_items {items : List TextItem} (h : ∀ item ∈ items, item.WellFormed) :
    unescape none (utf8 (items.flatMap TextItem.render)) = some (utf8 (items.map TextItem.char)) := by
  induction items with
  | nil => rfl
  | cons item items ih =>
    have hitem := h item List.mem_cons_self
    have ih := ih fun i hi => h i (List.mem_cons_of_mem item hi)
    rw [List.flatMap_cons, utf8_append]
    cases item with
    | data c =>
      have hamp : ∀ b ∈ utf8 [c], b ≠ '&' := by
        intro b hb hamp
        subst hamp
        rcases mem_utf8 hb with hmem | hhigh
        · exact hitem.2.2.1 (List.mem_singleton.1 hmem).symm
        · exact absurd hhigh (by decide)
      rw [TextItem.render, unescape_append hamp, ih, List.map_cons, utf8_cons, TextItem.char, utf8_cons,
        utf8_nil, List.append_nil]
      rfl
    | reference entity =>
      have hbytes : utf8 (TextItem.reference entity).render = '&' :: entity.name ++ [';'] :=
        utf8_of_all (by cases entity <;> decide)
      have hchar : utf8Char entity.char = [entity.char] :=
        utf8Char_of_ascii (by cases entity <;> decide)
      rw [hbytes, List.append_assoc, List.singleton_append, unescape_reference, ih, List.map_cons,
        utf8_cons, TextItem.char, hchar]
      rfl

/-- A text ends before the next tag. -/
theorem ne_lt_of_mem {items : List TextItem} (h : ∀ item ∈ items, item.WellFormed) :
    ∀ c ∈ utf8 (items.flatMap TextItem.render), decide (c ≠ '<') = true := by
  intro c hc
  refine decide_eq_true fun hlt => ?_
  subst hlt
  rcases mem_utf8 hc with hmem | hhigh
  · obtain ⟨item, hitem, hmem⟩ := List.mem_flatMap.1 hmem
    cases item with
    | data d => exact (h _ hitem).2.1 (List.mem_singleton.1 hmem).symm
    | reference entity => cases entity <;> exact absurd hmem (by decide)
  · exact absurd hhigh (by decide)

theorem utf8_items_ne_nil {items : List TextItem} (h : items ≠ []) :
    utf8 (items.flatMap TextItem.render) ≠ [] := by
  obtain ⟨item, hitem⟩ := List.exists_mem_of_ne_nil _ h
  have hc : ∃ c, c ∈ item.render := by
    cases item with
    | data c => exact ⟨c, List.mem_singleton_self c⟩
    | reference entity => exact ⟨'&', List.mem_cons_self⟩
  obtain ⟨c, hc⟩ := hc
  obtain ⟨b, hb⟩ := List.exists_mem_of_ne_nil _ (utf8Char_ne_nil c)
  have hmem : c ∈ items.flatMap TextItem.render := List.mem_flatMap.2 ⟨item, hitem, hc⟩
  exact List.ne_nil_of_mem (List.mem_flatMap.2 ⟨c, hmem, hb⟩)

/-! ## Nodes -/

open Markup

/-- Where siblings end. -/
def Ends (rest : Str) : Prop := rest = [] ∨ ∃ r, rest = '<' :: '/' :: r

theorem utf8_render_element (q : QName) (attributes : List Attribute) (children : List Markup)
    (rest : Str) :
    utf8 (element q attributes children).render ++ rest =
      '<' :: (utf8 q.render ++ (utf8 (attributes.flatMap Attribute.render) ++
        '>' :: (utf8 (renders children) ++ (('<' :: '/' :: utf8 q.render ++ ['>']) ++ rest)))) := by
  have hlt : utf8Char '<' = ['<'] := utf8Char_of_ascii (by decide)
  have hgt : utf8Char '>' = ['>'] := utf8Char_of_ascii (by decide)
  have hslash : utf8Char '/' = ['/'] := utf8Char_of_ascii (by decide)
  simp only [render, utf8_cons, utf8_append, utf8_nil, hlt, hgt, hslash, List.cons_append,
    List.append_assoc, List.nil_append, List.append_nil]

/-- After a text comes a tag, or nothing. -/
theorem begins_of_afterText {children : List Markup}
    (h : AllWellFormed scope true (allWithoutDefaults children)) (hrest : Ends rest) :
    utf8 (renders children) ++ rest = [] ∨ ∃ r, utf8 (renders children) ++ rest = '<' :: r := by
  cases children with
  | nil =>
    rcases hrest with rfl | ⟨r, rfl⟩
    · exact .inl rfl
    · exact .inr ⟨_, rfl⟩
  | cons markup siblings =>
    cases markup with
    | text items => exact absurd (h.2.1 rfl) Bool.false_ne_true
    | element q attributes children =>
      rw [renders, utf8_append, List.append_assoc, utf8_render_element]
      exact .inr ⟨_, rfl⟩

theorem parseNodes_end {fuel : Nat} {scope : List Str} (h : Ends rest) :
    parseNodes (fuel + 1) scope rest = some ([], rest) := by
  rcases h with rfl | ⟨r, rfl⟩
  · rfl
  · rfl

/-- A text before a tag or the end. -/
theorem parseNodes_text {fuel : Nat} {scope : List Str} {text t : Str} {nodes : List Node}
    (hne : text ≠ []) (htext : ∀ c ∈ text, decide (c ≠ '<') = true)
    (hs : s = [] ∨ ∃ r, s = '<' :: r) (hunescape : unescape none text = some t)
    (hrest : parseNodes fuel scope s = some (nodes, rest)) :
    parseNodes (fuel + 1) scope (text ++ s) = some (.text t :: nodes, rest) := by
  have hspan : (text ++ s).takeWhile (· ≠ '<') = text ∧ (text ++ s).dropWhile (· ≠ '<') = s := by
    rcases hs with rfl | ⟨r, rfl⟩
    · rw [List.append_nil, List.takeWhile_eq_self_iff.2 htext, List.dropWhile_eq_nil_iff.2 htext]
      exact ⟨rfl, rfl⟩
    · exact span_of_delimiter htext rfl
  cases htx : text with
  | nil => exact absurd htx hne
  | cons c text' =>
    have hc : c ≠ '<' := of_decide_eq_true (htext c (htx ▸ List.mem_cons_self))
    rw [← htx]
    generalize hwhole : text ++ s = whole at hspan ⊢
    obtain rfl : whole = c :: (text' ++ s) := by rw [← hwhole, htx]; rfl
    rw [parseNodes, if_neg hc, hspan.1, hspan.2, hunescape, hrest]
    rfl

theorem nameByte_head (hscope : ScopeOk scope) (h : NameIn scope q) (s : Str) :
    (utf8 q.render ++ s).head? ≠ some '/' := by
  have hne : utf8 q.render ≠ [] := by
    obtain ⟨p, name⟩ := q
    have hname := utf8_ne_nil h.name
    cases p with
    | none => exact hname
    | some p =>
      rw [QName.render, utf8_append, utf8_cons, Ne, List.append_eq_nil_iff, List.append_eq_nil_iff]
      exact fun hnil => hname hnil.2.2
  cases hq : utf8 q.render with
  | nil => exact absurd hq hne
  | cons c rest =>
    intro hslash
    obtain rfl : c = '/' := Option.some.inj hslash
    have hbyte := nameByte_render hscope h '/' (hq ▸ List.mem_cons_self)
    exact absurd hbyte (by decide)

/-- The bytes after the name of an element do not go on with the name. -/
theorem delimiter_after_name (attributes : List Attribute) (s : Str) :
    ∃ d r, utf8 (attributes.flatMap Attribute.render) ++ '>' :: s = d :: r ∧ nameByte d = false := by
  cases attributes with
  | nil => exact ⟨'>', s, rfl, by decide⟩
  | cons a attributes =>
    rw [List.flatMap_cons, utf8_append, List.append_assoc, utf8_render_attribute]
    exact ⟨' ', _, rfl, by decide⟩

theorem length_attributes_le (attributes : List Attribute) (s : Str) :
    attributes.length ≤ (utf8 (attributes.flatMap Attribute.render) ++ s).length := by
  induction attributes with
  | nil => exact Nat.zero_le _
  | cons a attributes ih =>
    rw [List.flatMap_cons, utf8_append, List.append_assoc, utf8_render_attribute]
    simp only [List.length_cons, List.length_append] at ih ⊢
    omega

/-- Default namespaces do not matter to the prefixes in scope. -/
theorem scopeIn_filter (scope : List (List Char)) (attributes : List Attribute) :
    scopeIn scope (attributes.filter (!·.isDefault)) = scopeIn scope attributes := by
  unfold scopeIn
  rw [List.filterMap_filter]
  congr 1
  refine List.filterMap_congr fun a _ => ?_
  cases hdefault : a.isDefault with
  | false => rfl
  | true => rw [eq_plain_of_isDefault hdefault]; rfl

theorem scopeOk_scopeIn (hscope : ScopeOk scope) {attributes : List Attribute}
    (h : ∀ a ∈ attributes, AttributeOk (scopeIn scope attributes) a) :
    ScopeOk (scopeIn scope attributes) := by
  intro p hp
  rcases List.mem_append.1 hp with hp | hp
  · obtain ⟨a, ha, hdeclared⟩ := List.mem_filterMap.1 hp
    cases a with
    | declare nsPrefix uri =>
      obtain rfl := Option.some.inj hdeclared
      rcases h _ ha with hin | ⟨hdefault, -⟩
      · exact ⟨hin.1, hin.2.2.1⟩
      · cases hdefault
    | plain name value => cases hdeclared
  · exact hscope p hp

/-- What the parser needs of an element. -/
structure ElementOk (scope : List (List Char)) (q : QName) (attributes : List Attribute)
    (children : List Markup) : Prop where
  name : NameIn (scopeIn scope attributes) q
  attributesOk : ∀ a ∈ attributes, AttributeOk (scopeIn scope attributes) a
  childrenOk : AllWellFormed (scopeIn scope attributes) false (allWithoutDefaults children)
  defaultsOk : AllDefaultsWellFormed children

theorem elementOk_of_wellFormed {attributes : List Attribute} {children : List Markup}
    (h : WellFormed scope (element q attributes children).withoutDefaults)
    (hdefaults : DefaultsWellFormed (element q attributes children)) :
    ElementOk scope q attributes children := by
  obtain ⟨hname, hattributes, -, -, hchildren⟩ := h
  rw [scopeIn_filter] at hname hattributes hchildren
  refine ⟨hname, fun a ha => ?_, hchildren, hdefaults.2.2⟩
  cases hdefault : a.isDefault with
  | false => exact .inl (hattributes a (List.mem_filter.2 ⟨ha, by rw [hdefault]; rfl⟩))
  | true => exact .inr ⟨hdefault, hdefaults.1 a ha hdefault⟩

/-- An element, given how its children and its siblings are parsed. -/
theorem parseNodes_element {fuel : Nat} {attributes : List Attribute} {children : List Markup}
    {nodes : List Node} (hscope : ScopeOk scope) (h : ElementOk scope q attributes children)
    (hchildren : ∀ r, Ends r → parseNodes fuel ((scopeIn scope attributes).map utf8)
      (utf8 (renders children) ++ r) = some (toNodes (allWithoutDefaults children), r))
    (hrest : parseNodes fuel (scope.map utf8) s = some (nodes, rest)) :
    parseNodes (fuel + 1) (scope.map utf8) (utf8 (element q attributes children).render ++ s) =
      some ((element q attributes children).withoutDefaults.toNode :: nodes, rest) := by
  obtain ⟨hname, hattributes, -, -⟩ := h
  have hinner := scopeOk_scopeIn hscope hattributes
  rw [utf8_render_element]
  generalize htail : ('<' :: '/' :: utf8 q.render ++ ['>']) ++ s = tail
  have hends : Ends tail := .inr ⟨_, htail.symm⟩
  obtain ⟨d, r, hdelimiter, hd⟩ := delimiter_after_name attributes (utf8 (renders children) ++ tail)
  have hspan := span_of_delimiter (s := r) (nameByte_render hinner hname) hd
  rw [← hdelimiter] at hspan
  have hlength := length_attributes_le attributes ('>' :: (utf8 (renders children) ++ tail))
  have hattrs : parseAttributes (utf8 q.render ++ (utf8 (attributes.flatMap Attribute.render) ++
      '>' :: (utf8 (renders children) ++ tail))).length (utf8 (attributes.flatMap Attribute.render) ++
        '>' :: (utf8 (renders children) ++ tail)) =
      some (attributes.map Attribute.bytes, utf8 (renders children) ++ tail) := by
    apply parseAttributes_render hinner hattributes
    rw [List.length_append]
    omega
  have hdeclared : (attributes.map Attribute.bytes).filterMap declaredPrefix ++ scope.map utf8 =
      (scopeIn scope attributes).map utf8 := by
    rw [filterMap_declaredPrefix hinner hattributes, scopeIn, List.map_append]
  have hplain := filterMap_plainAttribute hinner hattributes
  have hafter : after ('<' :: '/' :: utf8 q.render ++ ['>']) tail = some s := by
    rw [← htail]
    exact after_append _ s
  rw [parseNodes, if_pos rfl, if_neg (nameByte_head hinner hname _), hspan.1, hspan.2, hattrs]
  simp only [Option.bind_eq_bind, Option.bind_some, hdeclared, hchildren tail hends, hafter, hrest,
    hplain, resolve_render hinner hname, withoutDefaults, toNode]

mutual

/-- The number of elements and texts. -/
def Markup.size : Markup → Nat
  | .element _ _ children => sizes children + 1
  | .text _ => 1

def Markup.sizes : List Markup → Nat
  | [] => 0
  | markup :: rest => markup.size + sizes rest

end

/-- Enough fuel reads siblings up to where they end. -/
theorem parseNodes_renders {fuel : Nat} {children : List Markup} {afterText : Bool}
    (hscope : ScopeOk scope) (h : AllWellFormed scope afterText (allWithoutDefaults children))
    (hdefaults : AllDefaultsWellFormed children) (hfuel : Markup.sizes children < fuel)
    (hrest : Ends rest) :
    parseNodes fuel (scope.map utf8) (utf8 (renders children) ++ rest) =
      some (toNodes (allWithoutDefaults children), rest) := by
  induction fuel generalizing scope children afterText rest with
  | zero => exact absurd hfuel (Nat.not_lt_zero _)
  | succ fuel ih =>
    cases children with
    | nil => exact parseNodes_end hrest
    | cons markup siblings =>
      obtain ⟨hmarkup, -, hsiblings⟩ := h
      obtain ⟨hdefault, hdefaults⟩ := hdefaults
      rw [Markup.sizes] at hfuel
      rw [renders, utf8_append, List.append_assoc, allWithoutDefaults, toNodes]
      cases markup with
      | text items =>
        rw [Markup.size] at hfuel
        exact parseNodes_text (utf8_items_ne_nil hmarkup.1) (ne_lt_of_mem hmarkup.2)
          (begins_of_afterText hsiblings hrest) (unescape_items hmarkup.2)
          (ih hscope hsiblings hdefaults (by omega) hrest)
      | element q attributes children =>
        rw [Markup.size] at hfuel
        have hok := elementOk_of_wellFormed hmarkup hdefault
        have hinner := scopeOk_scopeIn hscope hok.attributesOk
        exact parseNodes_element hscope hok
          (fun r hr => ih hinner hok.childrenOk hok.defaultsOk (by omega) hr)
          (ih hscope hsiblings hdefaults (by omega) hrest)

mutual

theorem size_le_length (scope : List (List Char)) :
    (markup : Markup) → WellFormed scope markup.withoutDefaults →
      markup.size ≤ (utf8 markup.render).length
  | .element q attributes children, h => by
    have hchildren := sizes_le_length _ false children h.2.2.2.2
    have hrender := utf8_render_element q attributes children []
    rw [List.append_nil] at hrender
    rw [Markup.size, hrender]
    simp only [List.length_cons, List.length_append]
    omega
  | .text items, h => List.length_pos_of_ne_nil (utf8_items_ne_nil h.1)

theorem sizes_le_length (scope : List (List Char)) (afterText : Bool) :
    (children : List Markup) → AllWellFormed scope afterText (allWithoutDefaults children) →
      Markup.sizes children ≤ (utf8 (renders children)).length
  | [], _ => Nat.le_refl 0
  | markup :: rest, h => by
    have hmarkup := size_le_length scope markup h.1
    have hrest := sizes_le_length scope _ rest h.2.2
    rw [Markup.sizes, renders, utf8_append, List.length_append]
    omega

end

theorem utf8_xmlDeclaration : utf8 xmlDeclaration = xmlDeclaration :=
  utf8_of_all (by decide)

/-- The parser reads every well-formed document. -/
theorem readsDefaults_parse : ReadsDefaults parse := by
  intro root helement hdefaults hroot
  have hbytes : utf8 (xmlDeclaration ++ root.render) = xmlDeclaration ++ utf8 root.render := by
    rw [utf8_append, utf8_xmlDeclaration]
  have hall : AllWellFormed [] false (allWithoutDefaults [root]) :=
    allWellFormed_cons hroot trivial
  have hsize := sizes_le_length [] false [root] hall
  have hsingle : utf8 (renders [root]) = utf8 root.render := by
    rw [renders, renders, List.append_nil]
  have hfuel : Markup.sizes [root] < (xmlDeclaration ++ utf8 root.render).length + 1 := by
    rw [hsingle] at hsize
    rw [List.length_append]
    omega
  have hnodes := parseNodes_renders (fun p hp => absurd hp List.not_mem_nil) hall
    ⟨hdefaults, trivial⟩ hfuel (.inl rfl)
  rw [List.append_nil, hsingle] at hnodes
  have hnode : root.withoutDefaults.toNode.isElement := by
    cases root with
    | element q attributes children => rfl
    | text items => exact absurd helement Bool.false_ne_true
  unfold parse
  rw [hbytes, after_append]
  simp only [Option.bind_eq_bind, Option.bind_some]
  rw [show ([] : List Str) = ([] : List (List Char)).map utf8 from rfl, hnodes]
  simp only [Option.bind_some, allWithoutDefaults, toNodes, hnode, ↓reduceIte]

theorem reads_parse : Reads parse := reads_of_readsDefaults readsDefaults_parse

end GUPnP.Xml
