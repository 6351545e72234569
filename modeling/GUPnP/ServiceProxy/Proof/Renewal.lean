import GUPnP.ServiceProxy.Model

/-!
# When a subscription is renewed

The renewal timer of a subscription is set to about the half of the period the service announces, give
or take a quarter of it. For a period below four seconds the quarter is no whole second and the range
of the jitter is empty; a period that is no number counts as none (`renewsInside_iff`).
-/

set_option autoImplicit false

namespace GUPnP.ServiceProxy

/-! ## The statement -/

/-- The period of a `Timeout` header with this text behind the dash, in seconds. -/
def period (text : Str) : Int :=
  if CString.number text < 0 then Gena.defaultTimeout else CString.number text

/-- What the proxy takes for the period. -/
def readTimeout (text : Str) : Int :=
  if CString.atoi text < 0 then Gena.defaultTimeout else CString.atoi text

/-- The range the jitter is drawn from; its end does not belong to it. -/
def jitterRange (timeout : Int) : Int × Int := ((-timeout).tdiv 4, timeout.tdiv 4)

/-- `g_random_int_range` gives a number of this range. -/
def Draws (rand : Int → Int → Int) (range : Int × Int) : Prop :=
  range.1 ≤ rand range.1 range.2 ∧ rand range.1 range.2 < range.2

/-- The jitter has a range, and whatever is drawn from it, a successful response with that header sets
the timer to a time inside the period. -/
structure RenewsInside (text : Str) : Prop where
  range : (jitterRange (readTimeout text)).1 < (jitterRange (readTimeout text)).2
  delay : ∀ rand status reason sid (s : Proxy), Draws rand (jitterRange (readTimeout text)) →
    isSuccessful status = true → s.subscribed = true →
    ∃ d, (subscribeGotResponse rand
        (.http status reason (some sid) (some ("Second-".toList ++ text))) s).subscriptionTimeoutSrc =
      some d ∧ 0 < d ∧ d < period text

/-- From four seconds on, as far as `atoi` keeps the number; of the negative numbers those that it
keeps as negative, or makes a number of up to 4/3 of the default. -/
def Renewable (number : Int) : Prop :=
  if 0 ≤ number then 2 ^ 63 ≤ number ∨ 4 ≤ number % 2 ^ 32
  else -2 ^ 63 < number ∧ 4 ≤ number % 2 ^ 32 ∧
    (number % 2 ^ 32 ≤ 2401 ∨ 2 ^ 31 ≤ number % 2 ^ 32)

variable {rand : Int → Int → Int} {text : Str} {timeout : Int}

/-! ## The timer -/

theorem renewalDelay_second (rand : Int → Int → Int) (text : Str) :
    renewalDelay rand ("Second-".toList ++ text) =
      some ((readTimeout text).tdiv 2 +
        rand (jitterRange (readTimeout text)).1 (jitterRange (readTimeout text)).2) := by
  rfl

/-- A successful response arms the timer. -/
theorem timer_of_response {status : Nat} {s : Proxy} (reason : String) (sid hdr : Str)
    (hok : isSuccessful status = true) (hwanted : s.subscribed = true) :
    (subscribeGotResponse rand (.http status reason (some sid) (some hdr)) s).subscriptionTimeoutSrc =
      renewalDelay rand hdr := by
  unfold subscribeGotResponse
  simp only [hwanted, hok, Bool.not_true, Bool.false_eq_true, ↓reduceIte]

/-! ## The range -/

theorem readTimeout_nonneg (text : Str) : 0 ≤ readTimeout text := by
  unfold readTimeout Gena.defaultTimeout
  split <;> omega

theorem range_nonempty_iff (h : 0 ≤ timeout) :
    (jitterRange timeout).1 < (jitterRange timeout).2 ↔ 4 ≤ timeout := by
  unfold jitterRange
  rw [Int.neg_tdiv, Int.tdiv_eq_ediv_of_nonneg h]
  show -(timeout / 4) < timeout / 4 ↔ _
  omega

/-- What is drawn from the range keeps the delay between a quarter and three quarters. -/
theorem delay_bounds (h : 0 ≤ timeout) (hdraw : Draws rand (jitterRange timeout)) :
    timeout / 2 - timeout / 4 ≤
        timeout.tdiv 2 + rand (jitterRange timeout).1 (jitterRange timeout).2 ∧
      timeout.tdiv 2 + rand (jitterRange timeout).1 (jitterRange timeout).2 <
        timeout / 2 + timeout / 4 := by
  obtain ⟨hlow, hhigh⟩ := hdraw
  have hbegin : (jitterRange timeout).1 = -(timeout / 4) := by
    unfold jitterRange
    rw [Int.neg_tdiv, Int.tdiv_eq_ediv_of_nonneg h]
  have hend : (jitterRange timeout).2 = timeout / 4 := Int.tdiv_eq_ediv_of_nonneg h
  rw [Int.tdiv_eq_ediv_of_nonneg h]
  omega

/-- The latest delay decides. -/
theorem renewsInside_iff_latest (text : Str) :
    RenewsInside text ↔ 4 ≤ readTimeout text ∧
      readTimeout text / 2 + readTimeout text / 4 ≤ period text := by
  have hnonneg := readTimeout_nonneg text
  constructor
  · intro h
    have hfour := (range_nonempty_iff hnonneg).1 h.range
    refine ⟨hfour, ?_⟩
    let last : Int → Int → Int := fun _ high => high - 1
    have hdraw : Draws last (jitterRange (readTimeout text)) :=
      ⟨Int.le_sub_one_of_lt h.range, Int.sub_one_lt_of_le (Int.le_refl _)⟩
    obtain ⟨d, htimer, -, hinside⟩ :=
      h.delay last 200 "OK" [] { Proxy.init with subscribed := true } hdraw rfl rfl
    rw [timer_of_response "OK" [] _ rfl rfl, renewalDelay_second] at htimer
    obtain rfl := Option.some.inj htimer
    have hend : (jitterRange (readTimeout text)).2 = readTimeout text / 4 :=
      Int.tdiv_eq_ediv_of_nonneg hnonneg
    rw [Int.tdiv_eq_ediv_of_nonneg hnonneg] at hinside
    have hlast : last (jitterRange (readTimeout text)).1 (jitterRange (readTimeout text)).2 =
        readTimeout text / 4 - 1 := by rw [← hend]
    omega
  · rintro ⟨hfour, hlatest⟩
    refine ⟨(range_nonempty_iff hnonneg).2 hfour, fun rand status reason sid s hdraw hok hwanted => ?_⟩
    obtain ⟨hlow, hhigh⟩ := delay_bounds hnonneg hdraw
    refine ⟨_, (timer_of_response reason sid _ hok hwanted).trans (renewalDelay_second rand text), ?_, ?_⟩
    · omega
    · omega

/-! ## Numbers -/

/-- What `atoi` makes of a number. -/
theorem atoi_eq (text : Str) :
    CString.atoi text =
      if 2 ^ 63 ≤ CString.number text then -1
      else if CString.number text ≤ -2 ^ 63 then 0
      else if CString.number text % 2 ^ 32 < 2 ^ 31 then CString.number text % 2 ^ 32
      else CString.number text % 2 ^ 32 - 2 ^ 32 := by
  rw [CString.atoi, CString.strtol_eq, Int.bmod_def]
  split
  · omega
  · split
    · omega
    · omega

/-- **The subscription is renewed inside its period exactly for these numbers.** -/
theorem renewsInside_iff (text : Str) : RenewsInside text ↔ Renewable (CString.number text) := by
  rw [renewsInside_iff_latest]
  unfold readTimeout period Renewable Gena.defaultTimeout
  rw [atoi_eq]
  generalize CString.number text = number
  by_cases hneg : 0 ≤ number
  · rw [if_pos hneg]
    split <;> split <;> omega
  · rw [if_neg hneg]
    split <;> split <;> omega

/-- Any number of seconds that is an `int` will do, from four on. -/
theorem renewable_of_four {number : Int} (h : 4 ≤ number) (hint : number < 2 ^ 31) :
    Renewable number := by
  unfold Renewable
  rw [if_pos (by omega)]
  omega

/-- There is no jitter for a period of two seconds, and none for one that is no number; there the
subscription is renewed without any delay. -/
theorem no_jitter :
    (¬ RenewsInside "2".toList ∧ jitterRange (readTimeout "2".toList) = (0, 0)) ∧
      ¬ RenewsInside "infinite".toList ∧
      renewalDelay (fun _ _ => 0) "Second-infinite".toList = some 0 := by
  refine ⟨⟨fun h => absurd h.range (by decide), by decide⟩, fun h => absurd h.range (by decide), ?_⟩
  decide

end GUPnP.ServiceProxy
