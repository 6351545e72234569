import GUPnP.Base.Utf8
import GUPnP.Xml.Node

/-!
# The syntax of XML documents

A part of XML 1.0 with namespaces as a grammar: elements with prefixes, namespace declarations and
attributes, and text with references to the predefined entities. A `Markup` tree is what a document
says, `Markup.render` how it is written, `Markup.WellFormed` when it is well-formed, and
`Markup.toNode` the tree a parser makes of it. `Reads` says that a function reads such documents, and
`ReadsDefaults` that it also reads those that declare default namespaces.

Left out are comments, CDATA blocks, instructions, empty-element tags and character references: a
document that has them is not in the image of `render`.
-/

set_option autoImplicit false

namespace GUPnP.Xml

/-! ## Characters and names -/

/-- `Char` of XML 1.0. -/
def IsXmlChar (c : Char) : Prop :=
  c = '\t' ∨ c = '\n' ∨ c = '\r' ∨ (32 ≤ c.toNat ∧ c.toNat ≠ 0xFFFE ∧ c.toNat ≠ 0xFFFF)

/-- `NameStartChar` of XML 1.0 without the colon. -/
def IsNameStartChar (c : Char) : Prop :=
  (0x41 ≤ c.toNat ∧ c.toNat ≤ 0x5A) ∨ c.toNat = 0x5F ∨ (0x61 ≤ c.toNat ∧ c.toNat ≤ 0x7A) ∨
  (0xC0 ≤ c.toNat ∧ c.toNat ≤ 0x2FF ∧ c.toNat ≠ 0xD7 ∧ c.toNat ≠ 0xF7) ∨
  (0x370 ≤ c.toNat ∧ c.toNat ≤ 0x1FFF ∧ c.toNat ≠ 0x37E) ∨
  c.toNat = 0x200C ∨ c.toNat = 0x200D ∨
  (0x2070 ≤ c.toNat ∧ c.toNat ≤ 0x218F) ∨ (0x2C00 ≤ c.toNat ∧ c.toNat ≤ 0x2FEF) ∨
  (0x3001 ≤ c.toNat ∧ c.toNat ≤ 0xD7FF) ∨ (0xF900 ≤ c.toNat ∧ c.toNat ≤ 0xFDCF) ∨
  (0xFDF0 ≤ c.toNat ∧ c.toNat ≤ 0xFFFD) ∨ (0x10000 ≤ c.toNat ∧ c.toNat ≤ 0xEFFFF)

/-- `NameChar` of XML 1.0 without the colon. -/
def IsNameChar (c : Char) : Prop :=
  IsNameStartChar c ∨ c.toNat = 0x2D ∨ c.toNat = 0x2E ∨ (0x30 ≤ c.toNat ∧ c.toNat ≤ 0x39) ∨
  c.toNat = 0xB7 ∨
  (0x300 ≤ c.toNat ∧ c.toNat ≤ 0x36F) ∨ c.toNat = 0x203F ∨ c.toNat = 0x2040

instance (c : Char) : Decidable (IsXmlChar c) := inferInstanceAs (Decidable (_ ∨ _))

instance (c : Char) : Decidable (IsNameStartChar c) := inferInstanceAs (Decidable (_ ∨ _))

instance (c : Char) : Decidable (IsNameChar c) := inferInstanceAs (Decidable (_ ∨ _))

/-- `NCName`: a name without a colon. -/
structure IsNcName (name : List Char) : Prop where
  start : ∃ c rest, name = c :: rest ∧ IsNameStartChar c
  chars : ∀ c ∈ name, IsNameChar c

/-- The two namespace names that only XML itself may use. -/
def reservedNames : List (List Char) :=
  ["http://www.w3.org/XML/1998/namespace".toList, "http://www.w3.org/2000/xmlns/".toList]

/-- What may be declared as a namespace name. -/
structure IsNamespaceName (uri : List Char) : Prop where
  nonempty : uri ≠ []
  notReserved : uri ∉ reservedNames
  chars : ∀ c ∈ uri, IsXmlChar c ∧ c ≠ '<' ∧ c ≠ '&' ∧ c ≠ '"'

/-! ## Markup -/

/-- The predefined entities. -/
inductive Entity where
  | amp
  | lt
  | gt
  | quot
  | apos
  deriving DecidableEq, Repr

def Entity.name : Entity → List Char
  | amp => "amp".toList
  | lt => "lt".toList
  | gt => "gt".toList
  | quot => "quot".toList
  | apos => "apos".toList

/-- The character an entity stands for. -/
def Entity.char : Entity → Char
  | amp => '&'
  | lt => '<'
  | gt => '>'
  | quot => '"'
  | apos => '\''

/-- A character of a text, as such or as a reference. -/
inductive TextItem where
  | data (c : Char)
  | reference (entity : Entity)
  deriving DecidableEq, Repr

def TextItem.render : TextItem → List Char
  | data c => [c]
  | reference entity => '&' :: entity.name ++ [';']

def TextItem.char : TextItem → Char
  | data c => c
  | reference entity => entity.char

/-- `]]>` does not occur in a text, since its end is written as a reference. A carriage return would be
taken for a line end. -/
def TextItem.WellFormed : TextItem → Prop
  | data c => IsXmlChar c ∧ c ≠ '<' ∧ c ≠ '&' ∧ c ≠ '>' ∧ c ≠ '\r'
  | reference _ => True

/-- A name with its prefix, if it has one. -/
abbrev QName := Option (List Char) × List Char

def QName.render : QName → List Char
  | (none, name) => name
  | (some nsPrefix, name) => nsPrefix ++ ':' :: name

/-- An attribute: a namespace declaration, or another one. -/
inductive Attribute where
  | declare (nsPrefix uri : List Char)
  | plain (name : QName) (value : List Char)
  deriving DecidableEq, Repr

namespace Attribute

def render : Attribute → List Char
  | declare nsPrefix uri =>
    ' ' :: QName.render (some "xmlns".toList, nsPrefix) ++ '=' :: '"' :: uri ++ ['"']
  | plain name value => ' ' :: QName.render name ++ '=' :: '"' :: value ++ ['"']

/-- The prefix an attribute declares. -/
def declared : Attribute → Option (List Char)
  | declare nsPrefix _ => some nsPrefix
  | plain _ _ => none

/-- What the tree has of an attribute: its local name and value, unless it is a declaration. -/
def toNode : Attribute → Option (Str × Str)
  | declare _ _ => none
  | plain name value => some (utf8 name.2, utf8 value)

/-- The local name of an attribute that is no declaration. -/
def plainName : Attribute → Option (List Char)
  | declare _ _ => none
  | plain name _ => some name.2

end Attribute

/-- An element or a text. -/
inductive Markup where
  | element (name : QName) (attributes : List Attribute) (children : List Markup)
  | text (items : List TextItem)

namespace Markup

def isElement : Markup → Bool
  | element .. => true
  | text _ => false

mutual

def render : Markup → List Char
  | element name attributes children =>
    '<' :: name.render ++ attributes.flatMap Attribute.render ++ '>' :: renders children ++
      '<' :: '/' :: name.render ++ ['>']
  | text items => items.flatMap TextItem.render

def renders : List Markup → List Char
  | [] => []
  | markup :: rest => render markup ++ renders rest

end

mutual

/-- The tree of the markup. -/
def toNode : Markup → Node
  | element name attributes children =>
    .element (utf8 name.2) (attributes.filterMap Attribute.toNode) (toNodes children)
  | text items => .text (utf8 (items.map TextItem.char))

def toNodes : List Markup → List Node
  | [] => []
  | markup :: rest => toNode markup :: toNodes rest

end

/-- The prefixes in scope inside of an element. -/
def scopeIn (scope : List (List Char)) (attributes : List Attribute) : List (List Char) :=
  attributes.filterMap Attribute.declared ++ scope

/-- A name whose prefix is declared. -/
structure NameIn (scope : List (List Char)) (name : QName) : Prop where
  nsPrefix : ∀ p, name.1 = some p → p ∈ scope
  name : IsNcName name.2

/-- What an attribute has to satisfy. The value of an attribute that is no declaration has no white
space but blanks, which a parser keeps. -/
def AttributeIn (scope : List (List Char)) : Attribute → Prop
  | .declare nsPrefix uri => IsNcName nsPrefix ∧ nsPrefix ≠ "xml".toList ∧ nsPrefix ≠ "xmlns".toList ∧
      IsNamespaceName uri
  | .plain name value => NameIn scope name ∧ name ≠ (none, "xmlns".toList) ∧
      ∀ c ∈ value, 32 ≤ c.toNat ∧ IsXmlChar c ∧ c ≠ '<' ∧ c ≠ '&' ∧ c ≠ '"'

mutual

/-- Well-formedness, with the prefixes that are in scope. -/
def WellFormed (scope : List (List Char)) : Markup → Prop
  | element name attributes children =>
    NameIn (scopeIn scope attributes) name ∧
    (∀ a ∈ attributes, AttributeIn (scopeIn scope attributes) a) ∧
    (attributes.filterMap Attribute.declared).Nodup ∧
    (attributes.filterMap Attribute.plainName).Nodup ∧
    AllWellFormed (scopeIn scope attributes) false children
  | text items => items ≠ [] ∧ ∀ item ∈ items, item.WellFormed

/-- Well-formedness of siblings, after a text or not: two texts would be one. -/
def AllWellFormed (scope : List (List Char)) (afterText : Bool) : List Markup → Prop
  | [] => True
  | markup :: rest =>
    WellFormed scope markup ∧ (afterText → markup.isElement) ∧
      AllWellFormed scope (!markup.isElement) rest

end

/-- Anything may come first. -/
theorem allWellFormed_cons {scope : List (List Char)} {markup : Markup} {rest : List Markup}
    (h : markup.WellFormed scope) (hrest : AllWellFormed scope (!markup.isElement) rest) :
    AllWellFormed scope false (markup :: rest) :=
  ⟨h, fun hfalse => absurd hfalse Bool.false_ne_true, hrest⟩

end Markup

/-- What a document starts with. -/
def xmlDeclaration : List Char := "<?xml version=\"1.0\"?>".toList

/-- A parser reads well-formed documents, in UTF-8. -/
def Reads (parse : Str → Option Node) : Prop :=
  ∀ root : Markup, root.isElement → root.WellFormed [] →
    parse (utf8 (xmlDeclaration ++ root.render)) = some (.document [root.toNode])

/-! ## Default namespaces -/

/-- The declaration of a default namespace is written as an attribute `xmlns`, which is not
well-formed as one that is no declaration. -/
def Attribute.isDefault : Attribute → Bool
  | .declare _ _ => false
  | .plain name _ => name = (none, "xmlns".toList)

/-- The value of an attribute. -/
def Attribute.value : Attribute → List Char
  | .declare _ uri => uri
  | .plain _ value => value

namespace Markup

mutual

/-- The markup without its declarations of default namespaces. Local names do not depend on them. -/
def withoutDefaults : Markup → Markup
  | element name attributes children =>
    element name (attributes.filter (!·.isDefault)) (allWithoutDefaults children)
  | text items => text items

def allWithoutDefaults : List Markup → List Markup
  | [] => []
  | markup :: rest => withoutDefaults markup :: allWithoutDefaults rest

end

mutual

/-- No element declares two default namespaces, and each has a name a namespace may have. -/
def DefaultsWellFormed : Markup → Prop
  | element _ attributes children =>
    (∀ a ∈ attributes, a.isDefault → IsNamespaceName a.value) ∧
    (attributes.filter Attribute.isDefault).length ≤ 1 ∧ AllDefaultsWellFormed children
  | text _ => True

def AllDefaultsWellFormed : List Markup → Prop
  | [] => True
  | markup :: rest => DefaultsWellFormed markup ∧ AllDefaultsWellFormed rest

end

end Markup

/-- A parser reads documents that are well-formed but for declarations of default namespaces, which
are well-formed as well. -/
def ReadsDefaults (parse : Str → Option Node) : Prop :=
  ∀ root : Markup, root.isElement → root.DefaultsWellFormed → root.withoutDefaults.WellFormed [] →
    parse (utf8 (xmlDeclaration ++ root.render)) =
      some (.document [root.withoutDefaults.toNode])

namespace Markup

theorem not_isDefault_of_attributeIn {scope : List (List Char)} {a : Attribute}
    (h : AttributeIn scope a) : a.isDefault = false := by
  cases a with
  | declare nsPrefix uri => rfl
  | plain name value => exact decide_eq_false h.2.1

mutual

/-- Well-formed markup has no default namespaces. -/
theorem withoutDefaults_of_wellFormed (scope : List (List Char)) :
    (markup : Markup) → WellFormed scope markup →
      markup.withoutDefaults = markup ∧ markup.DefaultsWellFormed
  | element name attributes children, h => by
    have hnone : ∀ a ∈ attributes, a.isDefault = false := fun a ha =>
      not_isDefault_of_attributeIn (h.2.1 a ha)
    have hkept : attributes.filter (!·.isDefault) = attributes :=
      List.filter_eq_self.2 fun a ha => by rw [hnone a ha]; rfl
    have hdropped : attributes.filter Attribute.isDefault = [] :=
      List.filter_eq_nil_iff.2 fun a ha => by rw [hnone a ha]; exact Bool.false_ne_true
    obtain ⟨hchildren, hdefaults⟩ :=
      allWithoutDefaults_of_wellFormed (scopeIn scope attributes) false children h.2.2.2.2
    refine ⟨by rw [withoutDefaults, hkept, hchildren], fun a ha hdefault => ?_, ?_, hdefaults⟩
    · rw [hnone a ha] at hdefault
      cases hdefault
    · rw [hdropped]
      exact Nat.zero_le 1
  | text items, _ => ⟨rfl, trivial⟩

theorem allWithoutDefaults_of_wellFormed (scope : List (List Char)) (afterText : Bool) :
    (siblings : List Markup) → AllWellFormed scope afterText siblings →
      allWithoutDefaults siblings = siblings ∧ AllDefaultsWellFormed siblings
  | [], _ => ⟨rfl, trivial⟩
  | markup :: rest, h => by
    obtain ⟨hmarkup, hdefault⟩ := withoutDefaults_of_wellFormed scope markup h.1
    obtain ⟨hrest, hdefaults⟩ :=
      allWithoutDefaults_of_wellFormed scope (!markup.isElement) rest h.2.2
    exact ⟨by rw [allWithoutDefaults, hmarkup, hrest], hdefault, hdefaults⟩

end

end Markup

theorem reads_of_readsDefaults {parse : Str → Option Node} (h : ReadsDefaults parse) :
    Reads parse := by
  intro root helement hroot
  obtain ⟨hsame, hdefaults⟩ := Markup.withoutDefaults_of_wellFormed [] root hroot
  have hread := h root helement hdefaults (by rw [hsame]; exact hroot)
  rwa [hsame] at hread

end GUPnP.Xml
