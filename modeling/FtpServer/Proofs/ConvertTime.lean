import FtpServer.Library.Calendar
import FtpServer.Model.Util

/-!
# The conversion of times

`is_leap` takes every year for a leap year that is not divisible by 400. So `convert_time` already
counts 366 days in 1970, and its dates are those of the calendar exactly up to the end of February
of that year (`convertTime_utc`).

* `IsUtc` is the specification, in terms of the calendar of the library.
* `Reckoned` is what `convert_time` computes instead, and `daysTaken` how many days it takes for the
  years in front.
* `convertTime_utc` says for which times the two agree. In a leap year the months from March on
  begin a day late, so that most dates of 1970 are wrong by one day already (`convertTime_march`).
-/

namespace FtpServer

open Calendar

variable {indet : ℕ → UInt8} {t : ℤ} {tm : Tm}

/-- `tm` is the time of day and the date at `t` seconds since 1970-01-01. -/
structure IsUtc (t : ℤ) (tm : Tm) (date : Date) : Prop where
  year : tm.year = date.year - 1900
  mon : tm.mon = date.month
  mday : tm.mday = date.day + 1
  yday : tm.yday = date.dayOfYear
  wday : tm.wday = (date.dayNumber + 4) % 7
  hour : 0 ≤ tm.hour ∧ tm.hour < 24
  min : 0 ≤ tm.min ∧ tm.min < 60
  sec : 0 ≤ tm.sec ∧ tm.sec < 60
  time : t = date.dayNumber * 86400 + tm.hour * 3600 + tm.min * 60 + tm.sec

/-- `convert_time` yields the Gregorian date of `t`. -/
def ConvertsRight (indet : ℕ → UInt8) (t : ℤ) : Prop :=
  ∃ tm date, convertTime indet t = some tm ∧ IsUtc t tm date

/-! ### The years -/

/-- Every year that 400 does not divide is taken for a leap year. -/
theorem isLeap_of_not_dvd {year : ℤ} (h : ¬(400 : ℤ) ∣ year) (k : ℕ) :
    isLeap indet k year = true := by
  rw [isLeap, if_pos fun hmod ↦ h (Int.dvd_of_tmod_eq_zero hmod)]

/-- The number of days that `convert_time` takes at least in front of a year. -/
def daysTaken (year : ℤ) : ℤ := 366 * (year - 1970) - ((year - 1) / 400 - 4)

/-- What is left of the days, and the year that is reached. -/
theorem yearLoop_spec (fuel k : ℕ) {days year : ℤ} (hdays : -1 ≤ days) :
    year ≤ (yearLoop indet fuel k days year).2.2 ∧ -1 ≤ (yearLoop indet fuel k days year).2.1 ∧
      daysTaken (yearLoop indet fuel k days year).2.2 - daysTaken year ≤
        days - (yearLoop indet fuel k days year).2.1 := by
  induction fuel generalizing k days year with
  | zero => exact ⟨le_rfl, hdays, by simp [yearLoop]⟩
  | succ fuel ih =>
    rw [yearLoop]
    by_cases hmore : days ≥ (if isLeap indet k year then 366 else 365)
    · rw [if_pos hmore]
      have h365 : 365 ≤ days := by
        split_ifs at hmore <;> omega
      generalize htaken : (if isLeap indet (k + 1) year = true then (366 : ℤ) else 365) = taken
      have hle : taken ≤ 366 := by
        split_ifs at htaken <;> omega
      -- a year is taken for 365 days only if 400 divides it
      have hstep : daysTaken (year + 1) - daysTaken year ≤ taken := by
        simp only [daysTaken]
        by_cases hdvd : (400 : ℤ) ∣ year
        · split_ifs at htaken <;> omega
        · rw [isLeap_of_not_dvd hdvd, if_pos rfl] at htaken
          omega
      obtain ⟨hyear, hleft, hcount⟩ := @ih (k + 2) (days - taken) (year + 1) (by omega)
      exact ⟨by omega, hleft, by omega⟩
    · rw [if_neg hmore]
      exact ⟨le_rfl, hdays, by simp⟩

/-- From 1971 on, every year begins too late. -/
theorem yearStart_lt_daysTaken {y : ℕ} (h : 1971 ≤ y) : (yearStart y : ℤ) < daysTaken y := by
  have heq := yearStart_eq (y := y) (by omega)
  have hsub : (y : ℤ) - 1 = (y - 1 : ℕ) := by omega
  rw [daysTaken, hsub]
  rcases Nat.lt_or_ge y 1975 with hlt | hge
  · interval_cases y <;> omega
  · omega

/-! ### The months -/

/-- The table, with the extra day of February. -/
theorem drop_daysInMonth {i y : ℕ} (hi : i < 12) : ∃ d : ℤ,
    daysInMonth.drop i = d :: daysInMonth.drop (i + 1) ∧
      (monthLength y i : ℤ) = if (i : ℤ) = 1 ∧ IsLeap y then d + 1 else d := by
  by_cases hleap : IsLeap y <;> simp only [monthLength, hleap, if_true, if_false, and_true,
    and_false] <;>
    interval_cases i <;> exact ⟨_, rfl, rfl⟩

/-- The loop over the months of a year as long as `y`. -/
theorem monthLoop_spec {k y : ℕ} {year days month left : ℤ}
    (hleap : isLeap indet k year = decide (IsLeap y)) (hdays : -1 ≤ days)
    (h : monthLoop indet k year daysInMonth 0 days = some (month, left)) :
    ∃ n : ℕ, n < 12 ∧ month = n ∧ days = monthStart y n + left ∧ -1 ≤ left ∧
      left < monthLength y n := by
  have hrest : ∀ j i : ℕ, i + j = 12 → ∀ days : ℤ, -1 ≤ days →
      monthLoop indet k year (daysInMonth.drop i) i days = some (month, left) →
      ∃ n : ℕ, n < 12 ∧ month = n ∧ days + monthStart y i = monthStart y n + left ∧ -1 ≤ left ∧
        left < monthLength y n := by
    intro j
    induction j with
    | zero =>
      rintro i hi days - h
      rw [List.drop_eq_nil_of_le (by simp [daysInMonth]; omega)] at h
      cases h
    | succ j ih =>
      intro i hi days hdays h
      obtain ⟨d, hdrop, hlength⟩ := drop_daysInMonth (i := i) (y := y) (by omega)
      have hlength' : (if (decide ((i : ℤ) = 1) && isLeap indet k year) = true then d + 1 else d) =
          (monthLength y i : ℤ) := by
        rw [hlength, hleap]
        simp
      rw [hdrop, monthLoop] at h
      simp only [hlength'] at h
      split_ifs at h with hlt
      · obtain ⟨rfl, rfl⟩ : (i : ℤ) = month ∧ days = left := by simpa using h
        exact ⟨i, by omega, rfl, by omega, hdays, hlt⟩
      · obtain ⟨n, hn, hmonth, heq, hleft⟩ := ih (i + 1) (by omega) (days - monthLength y i)
          (by omega) (by push_cast; exact h)
        rw [monthStart_succ] at heq
        exact ⟨n, hn, hmonth, by push_cast at heq; omega, hleft⟩
  simpa [monthStart] using hrest 12 0 rfl days hdays (by simpa using h)

/-! ### The date -/

/-- What `convert_time` computes; its year has as many days in February as `y`. -/
structure Reckoned (t : ℤ) (tm : Tm) (y : ℕ) : Prop where
  hour : tm.hour = t / 3600 % 24
  min : tm.min = t / 60 % 60
  sec : tm.sec = t % 60
  wday : tm.wday = (t / 86400 + 4) % 7
  year : 1970 ≤ tm.year + 1900
  taken : daysTaken (tm.year + 1900) ≤ t / 86400 - tm.yday
  yday_ge : -1 ≤ tm.yday
  mon : 0 ≤ tm.mon ∧ tm.mon < 12
  yday : tm.yday = monthStart y tm.mon.toNat + (tm.mday - 1)
  mday : 0 ≤ tm.mday ∧ tm.mday ≤ monthLength y tm.mon.toNat
  leap : tm.year = 70 → IsLeap y

/-- The first of them. -/
theorem isLeap_1970 (k : ℕ) : isLeap indet k 1970 = true := isLeap_of_not_dvd (by decide) k

/-- The day number of the source is the exact one. -/
theorem toInt_days (ht : 0 ≤ t) (hfits : t / 86400 < 2 ^ 31) :
    toInt (t.tdiv 86400) = t / 86400 := by
  rw [Int.tdiv_eq_ediv_of_nonneg ht, toInt, Int.bmod_eq_of_le] <;> omega

/-- What `convert_time` returns is what its loops count. -/
theorem convertTime_reckoned (ht : 0 ≤ t) (hfits : t / 86400 < 2 ^ 31)
    (h : convertTime indet t = some tm) : ∃ y, Reckoned t tm y := by
  have h3600 : (t.tdiv 3600).tmod 24 = t / 3600 % 24 := by
    rw [Int.tdiv_eq_ediv_of_nonneg ht, Int.tmod_eq_emod_of_nonneg (by omega)]
  have h60 : (t.tdiv 60).tmod 60 = t / 60 % 60 := by
    rw [Int.tdiv_eq_ediv_of_nonneg ht, Int.tmod_eq_emod_of_nonneg (by omega)]
  have h7 : (t / 86400 + 4).tmod 7 = (t / 86400 + 4) % 7 := Int.tmod_eq_emod_of_nonneg (by omega)
  simp only [convertTime, toInt_days ht hfits, h3600, h60, h7, Int.tmod_eq_emod_of_nonneg ht,
    Option.bind_eq_bind, Option.bind_eq_some_iff, Option.pure_def] at h
  obtain ⟨hyear, hleft, hcount⟩ := @yearLoop_spec indet ((t / 86400).toNat + 1) 0 (t / 86400)
    1970 (by omega)
  generalize yearLoop indet ((t / 86400).toNat + 1) 0 (t / 86400) 1970 = r at h hyear hleft hcount
  obtain ⟨k, days, year⟩ := r
  obtain ⟨⟨month, left⟩, hmonth, htm⟩ := h
  obtain rfl := Option.some.inj htm
  -- a year with the same February
  obtain ⟨y, hy⟩ : ∃ y, isLeap indet k year = decide (IsLeap y) := by
    rcases isLeap indet k year with - | -
    · exact ⟨1970, by decide⟩
    · exact ⟨1972, by decide⟩
  obtain ⟨n, hn, rfl, hdays, hge, hlt⟩ := monthLoop_spec hy hleft hmonth
  refine ⟨y, rfl, rfl, rfl, rfl, by simpa using hyear, ?_, hleft, by dsimp only; omega, ?_, ?_, ?_⟩
  · simpa [daysTaken] using hcount
  · simpa using hdays
  · simpa using ⟨by omega, by omega⟩
  · intro h70
    obtain rfl : year = 1970 := by
      simp only at h70
      omega
    exact of_decide_eq_true (hy.symm.trans (isLeap_1970 k))

/-- In a leap year the months from March on start a day later than in 1970. -/
theorem monthStart_of_isLeap {y n : ℕ} (hleap : IsLeap y) (h2 : 2 ≤ n) (hn : n < 12) :
    monthStart y n = monthStart 1970 n + 1 := by
  have hcommon : ¬IsLeap 1970 := by decide
  interval_cases n <;> simp [monthStart, Finset.sum_range_succ, monthLength, hleap, hcommon]

/-- A date of the calendar that `convert_time` finds is before March 1970. -/
theorem Reckoned.dayNumber_lt {y : ℕ} {date : Date} (h : Reckoned t tm y) (hutc : IsUtc t tm date) :
    date.dayNumber < 59 := by
  have hnumber : t / 86400 = date.dayNumber := by
    have := hutc.time
    have := hutc.hour
    have := hutc.min
    have := hutc.sec
    omega
  have hyear : tm.year + 1900 = date.year := by rw [hutc.year]; omega
  have htaken := h.taken
  rw [hnumber, hutc.yday, Date.dayNumber, hyear] at htaken
  have h1970 : date.year = 1970 := by
    by_contra hne
    have hlate := yearStart_lt_daysTaken (y := date.year) (by have := date.year_ge; omega)
    push_cast at htaken
    omega
  have hleap : IsLeap y := h.leap (by omega)
  have hmonth : tm.mon.toNat = date.month := by rw [hutc.mon]; rfl
  have hyday := h.yday
  rw [hutc.yday, hmonth, hutc.mday, Date.dayOfYear, h1970] at hyday
  have hfirst : date.month < 2 := by
    by_contra hge
    have := monthStart_of_isLeap hleap (by omega) date.month_lt
    push_cast at hyday
    omega
  have hday := date.day_lt
  rw [h1970] at hday
  have hend : monthStart 1970 (date.month + 1) ≤ monthStart 1970 2 :=
    Finset.sum_le_sum_of_subset (Finset.range_mono (by omega))
  rw [monthStart_succ] at hend
  calc date.dayNumber = monthStart 1970 date.month + date.day := by
        rw [Date.dayNumber, Date.dayOfYear, h1970, yearStart_1970, Nat.zero_add]
    _ < monthStart 1970 2 := by omega
    _ = 59 := by decide

/-- In January and February 1970, the loops do nothing wrong. -/
theorem convertTime_1970 (ht : 0 ≤ t) (hlt : t < 5097600) :
    convertTime indet t = some (if t / 86400 < 31 then
      ⟨t / 3600 % 24, t / 60 % 60, t % 60, t / 86400 + 1, 0, 70, (t / 86400 + 4) % 7, t / 86400, 0⟩
    else
      ⟨t / 3600 % 24, t / 60 % 60, t % 60, t / 86400 - 30, 1, 70, (t / 86400 + 4) % 7, t / 86400,
        0⟩) := by
  have hdays : t / 86400 < 59 := by omega
  have hyears : yearLoop indet ((t / 86400).toNat + 1) 0 (t / 86400) 1970 =
      (1, t / 86400, 1970) := by
    rw [yearLoop, isLeap_1970, if_pos rfl, if_neg (by omega)]
  have h3600 : (t.tdiv 3600).tmod 24 = t / 3600 % 24 := by
    rw [Int.tdiv_eq_ediv_of_nonneg ht, Int.tmod_eq_emod_of_nonneg (by omega)]
  have h60 : (t.tdiv 60).tmod 60 = t / 60 % 60 := by
    rw [Int.tdiv_eq_ediv_of_nonneg ht, Int.tmod_eq_emod_of_nonneg (by omega)]
  have h7 : (t / 86400 + 4).tmod 7 = (t / 86400 + 4) % 7 := Int.tmod_eq_emod_of_nonneg (by omega)
  simp only [convertTime, toInt_days ht (by omega), hyears, h3600, h60, h7,
    Int.tmod_eq_emod_of_nonneg ht, daysInMonth, monthLoop]
  by_cases hjanuary : t / 86400 < 31
  · simp [hjanuary]
  · have hfebruary : t / 86400 - 31 < 29 := by omega
    simp [hjanuary, isLeap_1970, hfebruary]
    omega

/-- The fields that a date in 1970 calls for. -/
theorem isUtc_1970 {date : Date} (hyear : date.year = 1970)
    (hnumber : (date.dayNumber : ℤ) = t / 86400) :
    IsUtc t ⟨t / 3600 % 24, t / 60 % 60, t % 60, date.day + 1, date.month, 70, (t / 86400 + 4) % 7,
      t / 86400, 0⟩ date where
  year := by rw [hyear]; rfl
  mon := rfl
  mday := rfl
  yday := by rw [← hnumber, Date.dayNumber, hyear, yearStart_1970, Nat.zero_add]
  wday := by rw [hnumber]
  hour := by dsimp only; omega
  min := by dsimp only; omega
  sec := by dsimp only; omega
  time := by dsimp only; omega

/-- **The dates of `convert_time`** are those of the calendar up to the end of February 1970. -/
theorem convertTime_utc (indet : ℕ → UInt8) {t : ℤ} (ht : 0 ≤ t) (hfits : t / 86400 < 2 ^ 31) :
    ConvertsRight indet t ↔ t < 5097600 := by
  constructor
  · rintro ⟨tm, date, hconvert, hutc⟩
    -- a date of the calendar that is found is in January or February 1970
    obtain ⟨y, hreckoned⟩ := convertTime_reckoned ht hfits hconvert
    have hlt := hreckoned.dayNumber_lt hutc
    have := hutc.time
    have := hutc.hour
    have := hutc.min
    have := hutc.sec
    omega
  · intro hlt
    have hdays : 0 ≤ t / 86400 ∧ t / 86400 < 59 := by omega
    have hconvert := @convertTime_1970 indet t ht hlt
    have hlengths : monthLength 1970 0 = 31 ∧ monthLength 1970 1 = 28 := by decide
    have hstarts : monthStart 1970 0 = 0 ∧ monthStart 1970 1 = 31 := by decide
    split_ifs at hconvert with hjanuary
    -- in these two months the calendar and the computation agree day by day
    · obtain ⟨date, hyear, hmonth, hday⟩ : ∃ date : Date, date.year = 1970 ∧ date.month = 0 ∧
          date.day = (t / 86400).toNat :=
        ⟨⟨1970, 0, (t / 86400).toNat, le_rfl, by decide, by omega⟩, rfl, rfl, rfl⟩
      have hnumber : (date.dayNumber : ℤ) = t / 86400 := by
        rw [Date.dayNumber, Date.dayOfYear, hyear, hmonth, hday, yearStart_1970, hstarts.1]
        omega
      have hutc := isUtc_1970 hyear hnumber
      rw [hmonth, hday, Int.toNat_of_nonneg hdays.1] at hutc
      exact ⟨_, date, hconvert, hutc⟩
    · obtain ⟨date, hyear, hmonth, hday⟩ : ∃ date : Date, date.year = 1970 ∧ date.month = 1 ∧
          date.day = (t / 86400 - 31).toNat :=
        ⟨⟨1970, 1, (t / 86400 - 31).toNat, le_rfl, by decide, by omega⟩, rfl, rfl, rfl⟩
      have hnumber : (date.dayNumber : ℤ) = t / 86400 := by
        rw [Date.dayNumber, Date.dayOfYear, hyear, hmonth, hday, yearStart_1970, hstarts.2]
        omega
      have hutc := isUtc_1970 hyear hnumber
      have hmday : ((date.day : ℕ) : ℤ) + 1 = t / 86400 - 30 := by omega
      rw [hmonth, hmday] at hutc
      exact ⟨_, date, hconvert, hutc⟩

/-- At the end of January 1970. -/
theorem convertTime_utc_january :
    ConvertsRight (fun _ ↦ 0) 2678399 ↔ (2678399 : ℤ) < 5097600 :=
  convertTime_utc (fun _ ↦ 0) (by decide) (by decide)

/-- 1 March 1970 is taken for 29 February, and 1 January 1972 for 30 December 1971. -/
theorem convertTime_march :
    convertTime (fun _ ↦ 0) 5097600 = some ⟨0, 0, 0, 29, 1, 70, 0, 59, 0⟩ ∧
      convertTime (fun _ ↦ 0) 63072000 = some ⟨0, 0, 0, 30, 11, 71, 6, 364, 0⟩ ∧
      ¬ConvertsRight (fun _ ↦ 0) 5097600 := by
  refine ⟨by decide +kernel, by decide +kernel, ?_⟩
  rintro ⟨tm, date, hconvert, hutc⟩
  obtain rfl : ⟨0, 0, 0, 29, 1, 70, 0, 59, 0⟩ = tm :=
    Option.some.inj ((by decide +kernel : _ = _).symm.trans hconvert)
  have hyear := hutc.year
  have hmonth := hutc.mon
  have hmday := hutc.mday
  have hday := date.day_lt
  dsimp only at hyear hmonth hmday
  have hfebruary : monthLength 1970 1 = 28 := by decide
  rw [show date.year = 1970 by omega, show date.month = 1 by omega, hfebruary] at hday
  omega

end FtpServer
