import GUPnP.HttpHeaders.RoundTrip
import Mathlib.Algebra.Order.Ring.Rat
import Mathlib.Data.List.Nodup
import Mathlib.Tactic.NormNum

/-!
# The order of the locales of a header

`Header` is an `Accept-Language` header in its parts, which says how much the client prefers what.
`locale_from_http_language` ends a string where its quality begins, so that all qualities are 1 when the
locales are sorted: what `http_request_get_accept_locales` returns is the ranges from the last to the
first (`getAcceptLocales_eq`), and `accept_locales_iff` says when this is the order the client prefers.
-/

set_option autoImplicit false

namespace GUPnP.HttpHeaders

variable {atof : Str → ℚ}

/-! ## Headers -/

/-- A decimal number. -/
structure Qvalue where
  whole : Str
  fraction : Option Str
  digits : ∀ c ∈ whole ++ fraction.getD [], c.isDigit = true

def Qvalue.text (q : Qvalue) : Str :=
  match q.fraction with
  | none => q.whole
  | some fraction => q.whole ++ '.' :: fraction

def Qvalue.value (q : Qvalue) : ℚ :=
  Nat.ofDigitChars 10 q.whole 0 +
    Nat.ofDigitChars 10 (q.fraction.getD []) 0 / 10 ^ (q.fraction.getD []).length

/-- A language with how much the client prefers it. -/
structure LanguageRange where
  tag : Str
  quality : Option Qvalue
  nonempty : tag ≠ []
  noWildcard : tag.head? ≠ some '*'
  plain : ∀ c ∈ tag, c ≠ ',' ∧ c ≠ ';' ∧ asciiIsSpace c = false

def qualityText (quality : Option Qvalue) : Str :=
  match quality with
  | none => []
  | some q => ";q=".toList ++ q.text

def LanguageRange.value (range : LanguageRange) : ℚ := range.quality.elim 1 Qvalue.value

inductive Item where
  | empty
  | wildcard (quality : Option Qvalue)
  | range (language : LanguageRange)

def Item.text : Item → Str
  | .empty => []
  | .wildcard quality => '*' :: qualityText quality
  | .range language => language.tag ++ qualityText language.quality

/-- What stands between two commas. -/
structure Element where
  before : Str
  item : Item
  after : Str
  blank : ∀ c ∈ before ++ after, c = ' ' ∨ c = '\t'

def Element.text (element : Element) : Str := element.before ++ element.item.text ++ element.after

abbrev Header := List Element

def Header.text (header : Header) : Str := List.intercalate ",".toList (header.map Element.text)

/-- The ranges of a header, each with the number of its element. -/
def Header.ranges (header : Header) : List (Nat × LanguageRange) :=
  header.zipIdx.filterMap fun (element, index) =>
    match element.item with
    | .range language => some (index, language)
    | _ => none

/-- A language as a locale. -/
def localeForm (tag : Str) : Str :=
  tag.takeWhile (· ≠ '-') ++ (tag.dropWhile (· ≠ '-')).map fun c => if c = '-' then '_' else c.toUpper

/-- The first range is preferred to the second. -/
def Preferred (a b : Nat × LanguageRange) : Prop :=
  b.2.value < a.2.value ∨ b.2.value = a.2.value ∧ a.1 < b.1

/-- The list shows every range of the header once, the preferred ones first. -/
def Ordered {β : Type} (header : Header) (shown : Nat × LanguageRange → β) (result : List β) : Prop :=
  ∃ order : List (Nat × LanguageRange), order.Perm header.ranges ∧ order.Pairwise Preferred ∧
    result = order.map shown

/-- The locale of a range in its place. -/
def localeBit (range : Nat × LanguageRange) : Bit := ⟨range.1, localeForm range.2.tag⟩

def localeText (range : Nat × LanguageRange) : Str := localeForm range.2.tag

/-- Every range is less preferred than those after it. -/
def Header.Increasing (header : Header) : Prop :=
  header.ranges.Pairwise fun a b => a.2.value < b.2.value

/-! ## Qualities are gone -/

theorem semicolon_not_mem_localeFrom (toupper : Bool) (i : Nat) (underscoreIndex : Int) (lang : Str) :
    ';' ∉ (localeFrom toupper i underscoreIndex lang).1 := by
  intro hmem
  rw [localeFrom_eq] at hmem
  rcases mem_respell hmem with heq | ⟨c, hc, -, heq⟩
  · exact absurd heq (by decide)
  · have hne : c ≠ ';' := by simpa using List.mem_takeWhile_imp hc
    rcases heq with heq | heq
    · exact hne heq.symm
    · exact toUpper_ne rfl hne heq.symm

theorem strstr_eq_none {c : Char} {needle s : Str} (h : c ∉ s) : strstr (c :: needle) s = none := by
  induction s with
  | nil => rfl
  | cons d s ih =>
    rw [List.mem_cons, not_or] at h
    have hpre : ¬ c :: needle <+: d :: s := fun hp => h.1 (List.cons_prefix_cons.1 hp).1
    rw [strstr, if_neg hpre, ih h.2]

theorem getQuality_of_not_mem {val : Str} (h : ';' ∉ val) : getQuality atof val = 1 := by
  have hnone : strstr ";q=".toList val = none := strstr_eq_none h
  rw [getQuality, hnone]

theorem semicolon_not_mem_foldl (l : List Bit) (locales : List Bit)
    (h : ∀ bit ∈ locales, ';' ∉ bit.text) : ∀ bit ∈ l.foldl addLocale locales, ';' ∉ bit.text := by
  induction l generalizing locales with
  | nil => exact h
  | cons bit l ih =>
    refine ih _ ?_
    unfold addLocale
    split
    · exact h
    · exact h
    · intro b hb
      rcases List.mem_cons.1 hb with rfl | hb
      · exact semicolon_not_mem_localeFrom _ _ _ _
      · exact h b hb

/-- The sort leaves the list as it is. -/
theorem getAcceptLocales_eq_foldl (header : Str) :
    httpRequestGetAcceptLocales atof (some header) = (bits header).foldl addLocale [] := by
  unfold httpRequestGetAcceptLocales
  refine List.mergeSort_of_pairwise (List.Pairwise.imp_of_mem ?_
    (List.pairwise_of_forall fun _ _ => trivial))
  intro a b ha hb _
  have hnone := semicolon_not_mem_foldl (bits header) [] (by simp)
  simp [sortLocalesByQuality, getQuality_of_not_mem (hnone a ha), getQuality_of_not_mem (hnone b hb)]

/-! ## The ranges of a header -/

/-- `locale_from_http_language` makes a locale of a language, and drops its quality. -/
theorem localeFromHttpLanguage_append {tag rest : Str} (htag : ∀ c ∈ tag, c ≠ ';')
    (hrest : rest.head? = some ';' ∨ rest = []) :
    (localeFromHttpLanguage (tag ++ rest)).1 = localeForm tag := by
  have hrest' : rest.takeWhile (· ≠ ';') = [] := by
    rcases hrest with h | rfl
    · obtain ⟨rest, rfl⟩ := List.head?_eq_some_iff.1 h
      exact List.takeWhile_cons_of_neg (by decide)
    · rfl
  have htake : (tag ++ rest).takeWhile (· ≠ ';') = tag := by
    rw [List.takeWhile_append_of_pos fun c hc => decide_eq_true (htag c hc), hrest',
      List.append_nil]
  rw [localeFromHttpLanguage, localeFrom_eq, htake]
  exact respell_false '-' '_' Char.toUpper tag

theorem digit_plain {c : Char} (h : c.isDigit = true) : c ≠ ',' ∧ asciiIsSpace c = false := by
  refine ⟨?_, ?_⟩
  · rintro rfl
    exact absurd h (by decide)
  · rw [← Bool.not_eq_true]
    intro hspace
    simp only [asciiIsSpace, Bool.or_eq_true, beq_iff_eq] at hspace
    rcases hspace with (((rfl | rfl) | rfl) | rfl) | rfl <;> exact absurd h (by decide)

theorem qualityText_plain (quality : Option Qvalue) :
    ∀ c ∈ qualityText quality, c ≠ ',' ∧ asciiIsSpace c = false := by
  cases quality with
  | none => simp [qualityText]
  | some q =>
    intro c hc
    rcases List.mem_append.1 hc with hc | hc
    · have hconst : ∀ c ∈ ";q=".toList, c ≠ ',' ∧ asciiIsSpace c = false := by simp [asciiIsSpace]
      exact hconst c hc
    · obtain ⟨whole, fraction, digits⟩ := q
      cases fraction with
      | none => exact digit_plain (digits c (List.mem_append_left _ hc))
      | some fraction =>
        rcases List.mem_append.1 hc with hc | hc
        · exact digit_plain (digits c (List.mem_append_left _ hc))
        · rcases List.mem_cons.1 hc with rfl | hc
          · decide
          · exact digit_plain (digits c (List.mem_append_right _ hc))

theorem Item.text_plain (item : Item) : ∀ c ∈ item.text, c ≠ ',' ∧ asciiIsSpace c = false := by
  cases item with
  | empty => simp [Item.text]
  | wildcard quality =>
    intro c hc
    rcases List.mem_cons.1 hc with rfl | hc
    · decide
    · exact qualityText_plain quality c hc
  | range language =>
    intro c hc
    rcases List.mem_append.1 hc with hc | hc
    · exact ⟨(language.plain c hc).1, (language.plain c hc).2.2⟩
    · exact qualityText_plain language.quality c hc

theorem blank_isSpace {c : Char} (h : c = ' ' ∨ c = '\t') : asciiIsSpace c = true ∧ c ≠ ',' := by
  rcases h with rfl | rfl <;> decide

theorem comma_not_mem_text (element : Element) : ',' ∉ element.text := by
  intro hc
  rcases List.mem_append.1 hc with hc | hc
  · rcases List.mem_append.1 hc with hc | hc
    · exact (blank_isSpace (element.blank _ (List.mem_append_left _ hc))).2 rfl
    · exact (element.item.text_plain _ hc).1 rfl
  · exact (blank_isSpace (element.blank _ (List.mem_append_right _ hc))).2 rfl

theorem dropWhile_isSpace {s : Str} (h : ∀ c ∈ s, asciiIsSpace c = false) :
    s.dropWhile asciiIsSpace = s := by
  cases s with
  | nil => rfl
  | cons c s => simp [h c List.mem_cons_self]

theorem strstrip_text (element : Element) : strstrip element.text = element.item.text := by
  obtain ⟨before, item, after, blank⟩ := element
  have hbefore : ∀ c ∈ before, asciiIsSpace c = true := fun c hc =>
    (blank_isSpace (blank c (List.mem_append_left _ hc))).1
  have hafter : ∀ c ∈ after.reverse, asciiIsSpace c = true := fun c hc =>
    (blank_isSpace (blank c (List.mem_append_right _ (List.mem_reverse.1 hc)))).1
  have hitem : ∀ c ∈ item.text, asciiIsSpace c = false := fun c hc => (item.text_plain c hc).2
  have hfront : (item.text ++ after).dropWhile asciiIsSpace =
      item.text ++ if item.text = [] then [] else after := by
    rw [List.dropWhile_append, dropWhile_isSpace hitem]
    cases htext : item.text with
    | nil =>
      simpa [htext] using List.dropWhile_eq_nil_iff.2 fun c hc => hafter c (List.mem_reverse.2 hc)
    | cons c text => simp
  show strstrip (before ++ item.text ++ after) = item.text
  rw [strstrip, List.append_assoc, List.dropWhile_append_of_pos hbefore, hfront]
  split
  · rename_i htext
    simp [htext]
  · rw [List.reverse_append, List.dropWhile_append_of_pos hafter,
      dropWhile_isSpace fun c hc => hitem c (List.mem_reverse.1 hc), List.reverse_reverse]

/-- The ranges in the element at a place. -/
def Element.ranges (index : Nat) (element : Element) : List (Nat × LanguageRange) :=
  match element.item with
  | .range language => [(index, language)]
  | _ => []

theorem addLocale_of_cons {locales : List Bit} {bit : Bit} {c : Char} {text : Str}
    (h : strstrip bit.text = c :: text) (hc : c ≠ '*') :
    addLocale locales bit =
      ⟨bit.index, (localeFromHttpLanguage (strstrip bit.text)).1⟩ :: locales := by
  unfold addLocale
  split
  · rename_i hnil
    simp [h] at hnil
  · rename_i hcons
    rw [h] at hcons
    exact absurd (List.cons.inj hcons).1 hc
  · rfl

theorem addLocale_text (locales : List Bit) (index : Nat) (element : Element) :
    addLocale locales ⟨index, element.text⟩ = (element.ranges index).map localeBit ++ locales := by
  cases hitem : element.item with
  | empty => simp [addLocale, strstrip_text, Item.text, Element.ranges, hitem]
  | wildcard quality => simp [addLocale, strstrip_text, Item.text, Element.ranges, hitem]
  | range language =>
    have hrest : (qualityText language.quality).head? = some ';' ∨
        qualityText language.quality = [] := by
      cases language.quality with
      | none => exact .inr rfl
      | some q => exact .inl rfl
    obtain ⟨c, tag, htag⟩ := List.exists_cons_of_ne_nil language.nonempty
    have hwildcard : c ≠ '*' := by simpa [htag] using language.noWildcard
    have htext : strstrip element.text = language.tag ++ qualityText language.quality := by
      rw [strstrip_text, hitem, Item.text]
    have hcons : strstrip element.text = c :: (tag ++ qualityText language.quality) := by
      rw [htext, htag, List.cons_append]
    rw [addLocale_of_cons hcons hwildcard, htext,
      localeFromHttpLanguage_append (fun c hc => (language.plain c hc).2.1) hrest]
    simp [Element.ranges, hitem, localeBit]

/-- The ranges of some elements, the first of which has this number. -/
def rangesFrom (index : Nat) (elements : List Element) : List (Nat × LanguageRange) :=
  (elements.zipIdx index).flatMap fun (element, index) => element.ranges index

theorem Header.ranges_eq (header : Header) : header.ranges = rangesFrom 0 header := by
  rw [Header.ranges, rangesFrom, List.filterMap_eq_flatMap_toList]
  refine congrArg (List.flatMap · _) (funext fun (element, index) => ?_)
  cases hitem : element.item <;> simp [Element.ranges, hitem]

theorem foldl_addLocale (elements : List Element) (index : Nat) (locales : List Bit) :
    (((elements.map Element.text).zipIdx index).map fun (text, index) => (⟨index, text⟩ : Bit)).foldl
      addLocale locales = ((rangesFrom index elements).map localeBit).reverse ++ locales := by
  induction elements generalizing index locales with
  | nil => rfl
  | cons element elements ih =>
    simp only [List.map_cons, List.zipIdx_cons, List.foldl_cons, addLocale_text, ih, rangesFrom,
      List.flatMap_cons, List.map_append, List.reverse_append, List.append_assoc]
    congr 1
    cases hitem : element.item <;> simp [Element.ranges, hitem]

/-- What the function returns, for every header in its parts. -/
theorem getAcceptLocales_eq (header : Header) :
    httpRequestGetAcceptLocales atof (some header.text) = (header.ranges.map localeBit).reverse := by
  have hall : ∀ text ∈ header.map Element.text, ',' ∉ text := by
    intro text htext
    obtain ⟨element, -, rfl⟩ := List.mem_map.1 htext
    exact comma_not_mem_text element
  have hfold := foldl_addLocale header 0 []
  rw [List.append_nil] at hfold
  rw [getAcceptLocales_eq_foldl, Header.ranges_eq, ← hfold, bits]
  by_cases hnil : header = []
  · subst hnil
    rfl
  · have hcut := CString.strsplit_intercalate hall (by simpa using hnil)
    rw [show CString.strsplit ",".toList header.text = _ from hcut]
    split
    · rename_i hempty
      rw [hempty]
      rfl
    · rfl

/-! ## When the order is right -/

theorem rangesFrom_pairwise (index : Nat) (elements : List Element) :
    (rangesFrom index elements).Pairwise (fun a b => a.1 < b.1) ∧
      ∀ range ∈ rangesFrom index elements, index ≤ range.1 := by
  induction elements generalizing index with
  | nil => simp [rangesFrom]
  | cons element elements ih =>
    have hcons : rangesFrom index (element :: elements) =
        element.ranges index ++ rangesFrom (index + 1) elements := by
      simp [rangesFrom, List.zipIdx_cons]
    obtain ⟨ihpair, ihle⟩ := ih (index + 1)
    have hfirst : ∀ range ∈ element.ranges index, range.1 = index := by
      unfold Element.ranges
      split <;> simp
    rw [hcons, List.pairwise_append]
    refine ⟨⟨?_, ihpair, fun a ha b hb => ?_⟩, fun range hr => ?_⟩
    · unfold Element.ranges
      split <;> simp
    · have := hfirst a ha
      have := ihle b hb
      omega
    · rcases List.mem_append.1 hr with hr | hr
      · exact (hfirst range hr).ge
      · have := ihle range hr
        omega

/-- The last range first is the order of preference if and only if the qualities increase. -/
theorem pairwise_reverse_iff (header : Header) :
    header.ranges.reverse.Pairwise Preferred ↔ header.Increasing := by
  have hindex : header.ranges.Pairwise fun a b => a.1 < b.1 := by
    rw [Header.ranges_eq]
    exact (rangesFrom_pairwise 0 header).1
  rw [List.pairwise_reverse, Header.Increasing]
  constructor
  · intro h
    refine (h.and hindex).imp fun {a b} hab => ?_
    rcases hab.1 with hlt | ⟨-, hlt⟩
    · exact hlt
    · exact absurd hlt (Nat.lt_asymm hab.2)
  · exact fun h => h.imp Or.inl

theorem eq_of_map_eq {α β : Type} {f : α → β} {l l₁ l₂ : List α} (hf : (l.map f).Nodup)
    (h₁ : ∀ x ∈ l₁, x ∈ l) (h₂ : ∀ x ∈ l₂, x ∈ l) (h : l₁.map f = l₂.map f) : l₁ = l₂ := by
  have hlen : l₁.length = l₂.length := by simpa using congrArg List.length h
  refine List.ext_getElem hlen fun i hi₁ hi₂ => ?_
  have heq : f l₁[i] = f l₂[i] := by simpa [hi₁, hi₂] using congrArg (·[i]?) h
  exact List.inj_on_of_nodup_map hf (h₁ _ (List.getElem_mem hi₁)) (h₂ _ (List.getElem_mem hi₂)) heq

/-- Where what is shown of a range tells it from the others. -/
theorem ordered_reverse_iff {β : Type} {shown : Nat × LanguageRange → β} {header : Header}
    (hnodup : (header.ranges.map shown).Nodup) :
    Ordered header shown (header.ranges.map shown).reverse ↔ header.Increasing := by
  rw [← pairwise_reverse_iff]
  constructor
  · rintro ⟨order, hperm, hpair, heq⟩
    suffices h : order = header.ranges.reverse by rwa [← h]
    rw [← List.map_reverse] at heq
    exact eq_of_map_eq hnodup (fun _ h => hperm.mem_iff.1 h) (fun _ h => List.mem_reverse.1 h) heq.symm
  · exact fun h => ⟨header.ranges.reverse, List.reverse_perm _, h, List.map_reverse.symm⟩

theorem localeBit_nodup (header : Header) : (header.ranges.map localeBit).Nodup := by
  rw [Header.ranges_eq]
  refine List.pairwise_map.2 ((rangesFrom_pairwise 0 header).1.imp fun {a b} hlt he => ?_)
  exact absurd (congrArg Bit.index he) hlt.ne

/-- `atof` on the decimal numbers of headers. -/
def decimal (s : Str) : ℚ :=
  let fraction := ((s.dropWhile Char.isDigit).drop 1).takeWhile Char.isDigit
  Nat.ofDigitChars 10 (s.takeWhile Char.isDigit) 0 +
    Nat.ofDigitChars 10 fraction 0 / 10 ^ fraction.length

/-- `de, en;q=0.5`. -/
def sampleHeader : Header :=
  [⟨[], .range ⟨"de".toList, none, by simp, by simp, by simp [asciiIsSpace]⟩, [], by simp⟩,
    ⟨[' '], .range ⟨"en".toList, some ⟨['0'], some ['5'], by simp [Char.isDigit]⟩, by simp, by simp,
      by simp [asciiIsSpace]⟩, [], by simp⟩]

theorem sampleHeader_not_increasing : ¬ sampleHeader.Increasing := by
  intro h
  have hlt : (1 : ℚ) < ((0 : ℕ) : ℚ) + ((5 : ℕ) : ℚ) / 10 ^ 1 :=
    List.rel_of_pairwise_cons h (List.mem_singleton.2 rfl)
  norm_num at hlt

/-- The client that takes English for want of German gets English. -/
theorem accept_locales_swapped : sampleHeader.text = "de, en;q=0.5".toList ∧
    (httpRequestGetAcceptLocales decimal (some sampleHeader.text)).map Bit.text =
      ["en".toList, "de".toList] ∧
    ¬ Ordered sampleHeader localeText
      ((httpRequestGetAcceptLocales decimal (some sampleHeader.text)).map Bit.text) := by
  have hresult : (httpRequestGetAcceptLocales decimal (some sampleHeader.text)).map Bit.text =
      (sampleHeader.ranges.map localeText).reverse := by
    rw [getAcceptLocales_eq, List.map_reverse, List.map_map]
    rfl
  rw [hresult, ordered_reverse_iff (by decide)]
  exact ⟨by decide, by decide, sampleHeader_not_increasing⟩

/-- The function returns the ranges of every header as the client prefers them if and only if their
qualities increase from the first to the last. Where two ranges stand for one locale this is about the
two strings of the list; what they hold may be the same. -/
theorem accept_locales_iff (atof : Str → ℚ) (header : Header) :
    (Ordered header localeBit (httpRequestGetAcceptLocales atof (some header.text)) ↔
      header.Increasing) ∧
    (header.Increasing → Ordered header localeText
      ((httpRequestGetAcceptLocales atof (some header.text)).map Bit.text)) ∧
    ((header.ranges.map localeText).Nodup → (Ordered header localeText
      ((httpRequestGetAcceptLocales atof (some header.text)).map Bit.text) ↔ header.Increasing)) := by
  have htext : ((header.ranges.map localeBit).reverse).map Bit.text =
      (header.ranges.map localeText).reverse := by
    rw [List.map_reverse, List.map_map]
    rfl
  rw [getAcceptLocales_eq, htext]
  refine ⟨ordered_reverse_iff (localeBit_nodup header), fun h => ?_, ordered_reverse_iff⟩
  exact ⟨header.ranges.reverse, List.reverse_perm _, (pairwise_reverse_iff header).2 h,
    List.map_reverse.symm⟩

theorem accept_locales_iff_sample :
    ¬ Ordered sampleHeader localeBit (httpRequestGetAcceptLocales decimal (some sampleHeader.text)) ∧
      ¬ Ordered sampleHeader localeText
        ((httpRequestGetAcceptLocales decimal (some sampleHeader.text)).map Bit.text) :=
  ⟨fun h => sampleHeader_not_increasing ((accept_locales_iff decimal sampleHeader).1.1 h),
    fun h => sampleHeader_not_increasing
      (((accept_locales_iff decimal sampleHeader).2.2 (by decide)).1 h)⟩

end GUPnP.HttpHeaders
