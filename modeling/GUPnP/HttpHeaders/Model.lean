import GUPnP.Base.Split
import Mathlib.Data.Rat.Defs

/-!
# Languages in HTTP headers (`http-headers.c`)

A language of an HTTP header and a locale differ in their separator and in the case of the country.
`http_request_get_accept_locales` makes locales of the languages of an `Accept-Language` header, in the
strings that `g_strsplit` made of it: what the list it returns holds are these strings, each known by
its place among them.
-/

set_option autoImplicit false

namespace GUPnP.HttpHeaders

/-! ## Languages and locales -/

/-- The loop of `http_language_from_locale` from the index `i` on: what the string ends up as, and the
index of the dash. -/
def languageFrom (tolower : Bool) (i : Nat) (dashIndex : Int) : Str → Str × Int
  | [] => ([], dashIndex)
  | '_' :: lang =>
    let (rest, dashIndex) := languageFrom true (i + 1) i lang
    ('-' :: rest, dashIndex)
  | '.' :: _ => ([], dashIndex)
  | '@' :: _ => ([], dashIndex)
  | c :: lang =>
    let (rest, dashIndex) := languageFrom tolower (i + 1) dashIndex lang
    ((if tolower then c.toLower else c) :: rest, dashIndex)

/-- `http_language_from_locale`. -/
def httpLanguageFromLocale (lang : Str) : Str × Int := languageFrom false 0 (-1) lang

/-- The loop of `locale_from_http_language` from the index `i` on: what the string ends up as, and the
index of the underscore. -/
def localeFrom (toupper : Bool) (i : Nat) (underscoreIndex : Int) : Str → Str × Int
  | [] => ([], underscoreIndex)
  | '-' :: lang =>
    let (rest, underscoreIndex) := localeFrom true (i + 1) i lang
    ('_' :: rest, underscoreIndex)
  | ';' :: _ => ([], underscoreIndex)
  | c :: lang =>
    let (rest, underscoreIndex) := localeFrom toupper (i + 1) underscoreIndex lang
    ((if toupper then c.toUpper else c) :: rest, underscoreIndex)

/-- `locale_from_http_language`. -/
def localeFromHttpLanguage (lang : Str) : Str × Int := localeFrom false 0 (-1) lang

/-! ## The order of the locales -/

/-- `strstr`: the string from the first occurrence on. -/
def strstr (needle : Str) : Str → Option Str
  | [] => if needle = [] then some [] else none
  | c :: s => if needle <+: c :: s then some (c :: s) else strstr needle s

section
variable (atof : Str → ℚ)

/-- `get_quality`. -/
def getQuality (val : Str) : ℚ :=
  match strstr ";q=".toList val with
  | none => 1
  | some val => atof (val.drop ";q=".toList.length)

/-- `sort_locales_by_quality`. -/
def sortLocalesByQuality (a b : Str) : Int :=
  let diff := getQuality atof a - getQuality atof b
  if diff = 0 then 0
  else if 0 < diff then -1
  else 1

/-! ## The locales of a header -/

/-- `g_ascii_isspace`. -/
def asciiIsSpace (c : Char) : Bool :=
  c == ' ' || c == '\t' || c == '\n' || c == '\x0c' || c == '\r'

/-- `g_strstrip`. -/
def strstrip (s : Str) : Str := ((s.dropWhile asciiIsSpace).reverse.dropWhile asciiIsSpace).reverse

/-- A string of the array `bits`. -/
structure Bit where
  index : Nat
  text : Str
  deriving DecidableEq, Repr

/-- The body of the loop of `http_request_get_accept_locales`. -/
def addLocale (locales : List Bit) (bit : Bit) : List Bit :=
  match strstrip bit.text with
  | [] => locales
  | '*' :: _ => locales
  | text => { bit with text := (localeFromHttpLanguage text).1 } :: locales

/-- The array `bits`. -/
def bits (header : Str) : List Bit :=
  (CString.strsplit ",".toList header).zipIdx.map fun (text, index) => ⟨index, text⟩

/-- `http_request_get_accept_locales`; `g_list_sort` is stable. -/
def httpRequestGetAcceptLocales (header : Option Str) : List Bit :=
  match header with
  | none => []
  | some header =>
    let locales := (bits header).foldl addLocale []
    locales.mergeSort fun a b => decide (sortLocalesByQuality atof a.text b.text ≤ 0)

end

example : (localeFromHttpLanguage "de-at;q=0.5".toList).1 = "de_AT".toList := by decide

end GUPnP.HttpHeaders
