import GUPnP.Xml.Syntax
import Mathlib.Data.List.Infix

/-!
# Character data

How XML 1.0 reads the text between two tags: line ends are normalised first, then references are
replaced by the characters they stand for. `readCharData` reads what is well-formed, and nothing else.
A text of the grammar of documents is read as the characters of its items (`readCharData_items`).
-/

set_option autoImplicit false

namespace GUPnP.Xml

/-! ## Line ends -/

/-- The end-of-line handling of XML 1.0: a carriage return becomes a line feed, together with a line
feed after it. -/
def normalizeLineEnds (afterReturn : Bool) : List Char → List Char
  | [] => []
  | c :: s =>
    if c = '\r' then '\n' :: normalizeLineEnds true s
    else if c = '\n' ∧ afterReturn then normalizeLineEnds false s
    else c :: normalizeLineEnds false s

/-! ## References -/

/-- A hexadecimal digit. -/
def hexDigit (c : Char) : Option Nat :=
  if c.isDigit then some (c.toNat - '0'.toNat)
  else if 'a' ≤ c ∧ c ≤ 'f' then some (c.toNat - 'a'.toNat + 10)
  else if 'A' ≤ c ∧ c ≤ 'F' then some (c.toNat - 'A'.toNat + 10)
  else none

/-- A number in hexadecimal digits. -/
def hexNumber (digits : List Char) : Option Nat :=
  digits.foldlM (fun n c => (hexDigit c).map (16 * n + ·)) 0

/-- The character a character reference stands for. -/
def charOfCode (n : Nat) : Option Char :=
  if n.isValidChar ∧ IsXmlChar (Char.ofNat n) then some (Char.ofNat n) else none

/-- The character a reference stands for, by what is between the ampersand and the semicolon. -/
def referenceChar : List Char → Option Char
  | '#' :: 'x' :: digits => if digits = [] then none else (hexNumber digits).bind charOfCode
  | '#' :: digits =>
    if digits ≠ [] ∧ digits.all Char.isDigit then charOfCode (Nat.ofDigitChars 10 digits 0) else none
  | name => ([Entity.amp, .lt, .gt, .quot, .apos].find? fun e => e.name = name).map Entity.char

/-- A text with its references replaced. `reference` has the name of the reference it is in. -/
def expandReferences : Option (List Char) → List Char → Option (List Char)
  | none, [] => some []
  | some _, [] => none
  | none, c :: s =>
    if c = '&' then expandReferences (some []) s
    else if c = '<' ∨ ¬ IsXmlChar c then none
    else (expandReferences none s).map (c :: ·)
  | some reference, c :: s =>
    if c = ';' then (referenceChar reference).bind fun d => (expandReferences none s).map (d :: ·)
    else expandReferences (some (reference ++ [c])) s

/-- The text of an element that has only character data, from how it is written; nothing where that is
not well-formed. -/
def readCharData (raw : List Char) : Option (List Char) :=
  if "]]>".toList <:+: raw then none else expandReferences none (normalizeLineEnds false raw)

example : readCharData "a&#x41;\r\n&lt;&#66;".toList = some "aA\n<B".toList := by decide +kernel

/-! ## Reading a text -/

variable {s raw : List Char} {c : Char}

theorem normalizeLineEnds_append (hreturn : '\r' ∉ s) (hfeed : '\n' ∉ s) (hne : s ≠ []) (b : Bool)
    (t : List Char) : normalizeLineEnds b (s ++ t) = s ++ normalizeLineEnds false t := by
  induction s generalizing b with
  | nil => exact absurd rfl hne
  | cons c s ih =>
    obtain ⟨hc, hreturn⟩ := List.ne_and_not_mem_of_not_mem_cons hreturn
    obtain ⟨hc', hfeed⟩ := List.ne_and_not_mem_of_not_mem_cons hfeed
    rw [List.cons_append, normalizeLineEnds, if_neg (Ne.symm hc), if_neg fun h => hc' h.1.symm]
    by_cases hnil : s = []
    · rw [hnil]
      rfl
    · rw [ih hreturn hfeed hnil, List.cons_append]

/-- A text without carriage returns stays as it is. -/
theorem normalizeLineEnds_of_not_mem (h : '\r' ∉ s) : normalizeLineEnds false s = s := by
  induction s with
  | nil => rfl
  | cons c s ih =>
    have hc : c ≠ '\r' := fun heq => h (heq ▸ List.mem_cons_self)
    have hs : '\r' ∉ s := fun hmem => h (List.mem_cons_of_mem c hmem)
    rw [normalizeLineEnds, if_neg hc, if_neg (by simp), ih hs]

theorem not_mem_normalizeLineEnds (b : Bool) (s : List Char) : '\r' ∉ normalizeLineEnds b s := by
  induction s generalizing b with
  | nil => exact List.not_mem_nil
  | cons c s ih =>
    rw [normalizeLineEnds]
    split_ifs with hreturn hfeed
    · exact List.not_mem_cons_of_ne_of_not_mem (by decide) (ih true)
    · exact ih false
    · exact List.not_mem_cons_of_ne_of_not_mem (Ne.symm hreturn) (ih false)

theorem mem_normalizeLineEnds {b : Bool} (h : c ∈ normalizeLineEnds b s) : c = '\n' ∨ c ∈ s := by
  induction s generalizing b with
  | nil => exact absurd h List.not_mem_nil
  | cons d s ih =>
    rw [normalizeLineEnds] at h
    split_ifs at h
    · rcases List.mem_cons.1 h with h | h
      · exact .inl h
      · exact (ih h).imp_right (List.mem_cons_of_mem d)
    · exact (ih h).imp_right (List.mem_cons_of_mem d)
    · rcases List.mem_cons.1 h with rfl | h
      · exact .inr List.mem_cons_self
      · exact (ih h).imp_right (List.mem_cons_of_mem d)

theorem expandReferences_data (hchar : IsXmlChar c) (hlt : c ≠ '<') (hamp : c ≠ '&')
    (s : List Char) : expandReferences none (c :: s) = (expandReferences none s).map (c :: ·) := by
  rw [expandReferences, if_neg hamp, if_neg (not_or.2 ⟨hlt, not_not.2 hchar⟩)]

theorem expandReferences_reference (entity : Entity) (s : List Char) :
    expandReferences none ('&' :: entity.name ++ [';'] ++ s) =
      (expandReferences none s).map (entity.char :: ·) := by
  cases entity <;> rfl

/-- How a text without carriage returns is written in a document is read as its characters. -/
theorem expandReferences_items {items : List TextItem} (h : ∀ item ∈ items, item.WellFormed) :
    expandReferences none (items.flatMap TextItem.render) = some (items.map TextItem.char) := by
  induction items with
  | nil => rfl
  | cons item items ih =>
    have hitem := h item List.mem_cons_self
    have ih := ih fun i hi => h i (List.mem_cons_of_mem item hi)
    rw [List.flatMap_cons]
    cases item with
    | data c =>
      obtain ⟨hchar, hlt, hamp, -, -⟩ := hitem
      rw [TextItem.render, List.singleton_append, expandReferences_data hchar hlt hamp, ih]
      rfl
    | reference entity =>
      rw [TextItem.render, expandReferences_reference, ih]
      rfl

/-- What is written for an item has neither the end of `]]>` nor a carriage return. -/
theorem TextItem.WellFormed.not_mem {item : TextItem} (h : item.WellFormed) :
    '>' ∉ item.render ∧ '\r' ∉ item.render := by
  cases item with
  | data c =>
    obtain ⟨-, -, -, hgt, hreturn⟩ := h
    simp only [TextItem.render, List.mem_singleton]
    exact ⟨Ne.symm hgt, Ne.symm hreturn⟩
  | reference entity => cases entity <;> decide

theorem readCharData_of_not_mem (h : '>' ∉ raw) :
    readCharData raw = expandReferences none (normalizeLineEnds false raw) := by
  unfold readCharData
  rw [if_neg]
  intro hinfix
  exact h (List.IsInfix.subset hinfix (by decide))

/-- The texts of documents are read as their characters. -/
theorem readCharData_items {items : List TextItem} (h : ∀ item ∈ items, item.WellFormed) :
    readCharData (items.flatMap TextItem.render) = some (items.map TextItem.char) := by
  have hnot : ∀ {c : Char}, (∀ item ∈ items, c ∉ item.render) →
      c ∉ items.flatMap TextItem.render := by
    intro c hc hmem
    obtain ⟨item, hitem, hmem⟩ := List.mem_flatMap.1 hmem
    exact hc item hitem hmem
  rw [readCharData_of_not_mem (hnot fun item hitem => (h item hitem).not_mem.1),
    normalizeLineEnds_of_not_mem (hnot fun item hitem => (h item hitem).not_mem.2),
    expandReferences_items h]

end GUPnP.Xml
