import GUPnP.Base.AsciiCase
import GUPnP.Base.Respell
import GUPnP.HttpHeaders.Model

/-!
# Languages and locales, there and back

Both conversions are spellings of the string they get up to its end (`languageFrom_eq`,
`localeFrom_eq`): the other separator, and behind the first one the other case. So the way there and back changes the case at most,
and the way there is the same again after it (`language_roundTrip`).
-/

set_option autoImplicit false

namespace GUPnP.HttpHeaders

variable {l : Str}

/-! ## The conversions as spellings -/

/-- A string without the characters that end a locale. -/
def NoEnd (l : Str) : Prop := ∀ c ∈ l, c ≠ '.' ∧ c ≠ '@'

theorem languageFrom_eq (h : NoEnd l) (tolower : Bool) (i : Nat) (dashIndex : Int) :
    languageFrom tolower i dashIndex l =
      (respell '_' '-' Char.toLower tolower l, lastFrom '_' i dashIndex l) := by
  induction l generalizing tolower i dashIndex with
  | nil => rfl
  | cons c l ih =>
    have hl : NoEnd l := fun c hc => h c (List.mem_cons_of_mem _ hc)
    obtain ⟨hdot, hat⟩ := h c List.mem_cons_self
    by_cases hc : c = '_'
    · subst hc
      rw [languageFrom, ih hl, respell, if_pos rfl, lastFrom, if_pos rfl]
    · rw [languageFrom, ih hl, respell, if_neg hc, lastFrom, if_neg hc] <;> assumption

theorem localeFrom_eq (toupper : Bool) (i : Nat) (underscoreIndex : Int) (l : Str) :
    localeFrom toupper i underscoreIndex l =
      (respell '-' '_' Char.toUpper toupper (l.takeWhile (· ≠ ';')),
        lastFrom '-' i underscoreIndex (l.takeWhile (· ≠ ';'))) := by
  induction l generalizing toupper i underscoreIndex with
  | nil => rfl
  | cons c l ih =>
    by_cases hend : c = ';'
    · subst hend
      rw [localeFrom, List.takeWhile_cons_of_neg (by decide)]
      rfl
    rw [List.takeWhile_cons_of_pos (by simpa using hend)]
    by_cases hc : c = '-'
    · subst hc
      rw [localeFrom, ih, respell, if_pos rfl, lastFrom, if_pos rfl]
    · rw [localeFrom, ih, respell, if_neg hc, lastFrom, if_neg hc] <;> assumption

/-- A language without a quality is spelled to its end. -/
theorem localeFromHttpLanguage_eq (h : ';' ∉ l) :
    localeFromHttpLanguage l =
      (respell '-' '_' Char.toUpper false l, lastFrom '-' 0 (-1) l) := by
  have hself : l.takeWhile (· ≠ ';') = l :=
    List.takeWhile_eq_self_iff.2 fun c hc => decide_eq_true fun heq => h (heq ▸ hc)
  rw [localeFromHttpLanguage, localeFrom_eq, hself]

/-! ## The round trip -/

/-- A string without separators of languages and without the ends of locales and languages. -/
def PlainLocale (l : Str) : Prop := ∀ c ∈ l, c ≠ '-' ∧ c ≠ '.' ∧ c ≠ '@' ∧ c ≠ ';'

/-- From the first underscore on nothing is lower case. -/
def UpperCountry (l : Str) : Prop := ∀ c ∈ l.dropWhile (· ≠ '_'), c.isLower = false

theorem PlainLocale.noEnd (h : PlainLocale l) : NoEnd l := fun c hc => ⟨(h c hc).2.1, (h c hc).2.2.1⟩

/-- The language is a plain string, too, but for its dashes. -/
theorem PlainLocale.language (h : PlainLocale l) :
    ∀ c ∈ respell '_' '-' Char.toLower false l, c ≠ '.' ∧ c ≠ '@' ∧ c ≠ ';' := by
  intro c hc
  rcases mem_respell hc with rfl | ⟨d, hd, -, rfl | rfl⟩
  · decide
  · exact ⟨(h c hd).2.1, (h c hd).2.2.1, (h c hd).2.2.2⟩
  · obtain ⟨-, hdot, hat, hsemicolon⟩ := h d hd
    exact ⟨toLower_ne rfl hdot, toLower_ne rfl hat, toLower_ne rfl hsemicolon⟩

theorem httpLanguageFromLocale_eq (h : PlainLocale l) :
    httpLanguageFromLocale l = (respell '_' '-' Char.toLower false l, lastFrom '_' 0 (-1) l) :=
  languageFrom_eq h.noEnd false 0 (-1)

/-- There and back only the case of the country changes. -/
theorem there_and_back (h : PlainLocale l) :
    (localeFromHttpLanguage (httpLanguageFromLocale l).1).1 =
      respell '_' '_' (Char.toUpper ∘ Char.toLower) false l := by
  have hend : ';' ∉ respell '_' '-' Char.toLower false l := fun hmem =>
    (h.language _ hmem).2.2 rfl
  rw [httpLanguageFromLocale_eq h, localeFromHttpLanguage_eq hend]
  refine respell_respell fun c hc _ => ?_
  exact ⟨(h c hc).1, toLower_ne rfl (h c hc).1⟩

/-- There once more the case of the country does not matter. -/
theorem there_again (h : PlainLocale l) :
    (httpLanguageFromLocale (respell '_' '_' (Char.toUpper ∘ Char.toLower) false l)).1 =
      (httpLanguageFromLocale l).1 := by
  have hend : NoEnd (respell '_' '_' (Char.toUpper ∘ Char.toLower) false l) := by
    intro c hc
    rcases mem_respell hc with rfl | ⟨d, hd, -, rfl | rfl⟩
    · decide
    · exact h.noEnd c hd
    · obtain ⟨hdot, hat⟩ := h.noEnd d hd
      exact ⟨toUpper_ne rfl (toLower_ne rfl hdot), toUpper_ne rfl (toLower_ne rfl hat)⟩
  have hcase : Char.toLower ∘ Char.toUpper ∘ Char.toLower = Char.toLower := by
    funext c
    simp only [Function.comp_apply, Char.toUpper_toLower_eq_toUpper,
      Char.toLower_toUpper_eq_toLower]
  rw [httpLanguageFromLocale, languageFrom_eq hend, httpLanguageFromLocale_eq h]
  dsimp only
  rw [respell_respell fun c _ hc => ?_, hcase]
  exact ⟨hc, toUpper_ne rfl (toLower_ne rfl hc)⟩

/-- Back is the locale itself if its country is in upper case. -/
theorem back_eq_self (hupper : UpperCountry l) :
    respell '_' '_' (Char.toUpper ∘ Char.toLower) false l = l := by
  refine respell_self_of_behind fun c hc => ?_
  have hlower : ¬ c.isLower := by rw [hupper c hc]; decide
  rw [Function.comp_apply, Char.toUpper_toLower_eq_toUpper, Char.toUpper_eq_of_not_isLower hlower]

/-- **The conversions are inverse up to case**: there, back and there again is there; back is where one
was if the country is in upper case; and both keep the length and tell the last separator. -/
theorem language_roundTrip (h : PlainLocale l) :
    (httpLanguageFromLocale (localeFromHttpLanguage (httpLanguageFromLocale l).1).1).1 =
        (httpLanguageFromLocale l).1 ∧
      (UpperCountry l → (localeFromHttpLanguage (httpLanguageFromLocale l).1).1 = l) ∧
      ((httpLanguageFromLocale l).1.length = l.length ∧ IsLast '_' l (httpLanguageFromLocale l).2) ∧
      ∀ tag : Str, ';' ∉ tag →
        (localeFromHttpLanguage tag).1.length = tag.length ∧
          IsLast '-' tag (localeFromHttpLanguage tag).2 := by
  refine ⟨?_, fun hupper => ?_, ⟨?_, ?_⟩, fun tag htag => ?_⟩
  · rw [there_and_back h]
    exact there_again h
  · rw [there_and_back h]
    exact back_eq_self hupper
  · rw [httpLanguageFromLocale_eq h]
    exact length_respell ..
  · rw [httpLanguageFromLocale_eq h]
    exact isLast_lastFrom '_' l
  · rw [localeFromHttpLanguage_eq htag]
    exact ⟨length_respell .., isLast_lastFrom '-' tag⟩

theorem language_roundTrip_austrian :
    (localeFromHttpLanguage (httpLanguageFromLocale "de_AT".toList).1).1 = "de_AT".toList := by
  have hplain : PlainLocale "de_AT".toList := by simp [PlainLocale]
  have hupper : UpperCountry "de_AT".toList := by
    show ∀ c ∈ ['_', 'A', 'T'], c.isLower = false
    simp
  exact (language_roundTrip hplain).2.1 hupper

end GUPnP.HttpHeaders
