import FtpServer.Model.Ls
import FtpServer.Proofs.ConvertTime

/-!
# The loops of `convert_time`

`is_leap` returns no value for a year divisible by 400, so two calls for one such year may disagree.
The loop over the months has no bound: it leaves its table if the loop over the years stops at day
365 of a year that was one of 366 days then, and is one of 365 days now. The days on which that
can happen are few, but the first is in January 2001 (`convertTime_staysInTables`).

* `yearLoop_exit` says where the loop over the years stops, and `monthLoop_eq_none_iff` when the
  loop over the months leaves its table.
* `Disputed` has the days in question: for each year that 400 divides there is one more than for the
  one before, as there is one more earlier call that may have said no.
* `disputed_of_monthLoop` shows that there are no others, and `doubt` has the answers that lead to
  each of them (`yearLoop_doubt`).
-/

namespace FtpServer

variable {indet : ℕ → UInt8} {k : ℕ} {year days : ℤ}

/-- The day numbers that leave day 365 of the year 2000 + 400 `j`, when `m` of the years divisible
by 400 in front of it have been taken for 365 days each. -/
def Disputed (days : ℤ) : Prop := ∃ j m : ℕ, m ≤ j ∧ days = 366 * (30 + 400 * j) + 365 - m

/-- Whatever the calls of `is_leap` yield that return no value, `convert_time` finds a month in its
table, so that `send_filestat` finds its name, and the loop over the years ends. -/
def StaysInTables (t : ℤ) : Prop :=
  ∀ indet, (∃ tm, convertTime indet t = some tm ∧ 0 ≤ tm.mon ∧ tm.mon < 12 ∧ listDate tm ≠ none) ∧
    ∀ fuel, (toInt (t.tdiv 86400)).toNat < fuel →
      yearLoop indet fuel 0 (toInt (t.tdiv 86400)) 1970 =
        yearLoop indet ((toInt (t.tdiv 86400)).toNat + 1) 0 (toInt (t.tdiv 86400)) 1970

/-! ### The years -/

/-- Every year takes 365 days at least, so that there are not as many years as days. -/
theorem yearLoop_fuel {n m : ℕ} (hn : days.toNat < n) (hm : days.toNat < m) :
    yearLoop indet n k days year = yearLoop indet m k days year := by
  induction n generalizing m k days year with
  | zero => omega
  | succ n ih =>
    obtain ⟨m, rfl⟩ : ∃ i, m = i + 1 := ⟨m - 1, by omega⟩
    rw [yearLoop, yearLoop]
    by_cases hmore : days ≥ (if isLeap indet k year then 366 else 365)
    · have h365 : 365 ≤ days := by
        split_ifs at hmore <;> omega
      rw [if_pos hmore, if_pos hmore]
      refine ih ?_ ?_ <;> split_ifs <;> omega
    · rw [if_neg hmore, if_neg hmore]

/-- Where the loop stops: the last call of `is_leap` was for the year that is reached, and less is
left than that year has days. No year is taken for more than 366 days. -/
theorem yearLoop_exit (fuel : ℕ) (hfuel : days.toNat < fuel) :
    let r := yearLoop indet fuel k days year
    0 < r.1 ∧ r.2.1 < (if isLeap indet (r.1 - 1) r.2.2 then 366 else 365) ∧
      days - r.2.1 ≤ 366 * (r.2.2 - year) := by
  induction fuel generalizing k days year with
  | zero => omega
  | succ fuel ih =>
    intro r
    by_cases hmore : days ≥ (if isLeap indet k year then 366 else 365)
    · have h365 : 365 ≤ days := by
        split_ifs at hmore <;> omega
      generalize htaken : (if isLeap indet (k + 1) year then (366 : ℤ) else 365) = taken
      have hr : r = yearLoop indet fuel (k + 2) (days - taken) (year + 1) := by
        rw [← htaken]
        exact (yearLoop.eq_2 ..).trans (if_pos hmore)
      have htaken_le : 365 ≤ taken ∧ taken ≤ 366 := by
        split_ifs at htaken <;> omega
      obtain ⟨hpos, hleft, hcount⟩ := @ih (k + 2) (year + 1) (days - taken) (by omega)
      rw [← hr] at hpos hleft hcount
      exact ⟨hpos, hleft, by omega⟩
    · have hr : r = (k + 1, days, year) := (yearLoop.eq_2 ..).trans (if_neg hmore)
      rw [hr]
      exact ⟨Nat.succ_pos k, not_le.1 hmore, by simp⟩

/-! ### The months -/

/-- The month it ends in is one of the table. -/
theorem monthLoop_month {table : List ℤ} {month : ℤ} {r : ℤ × ℤ}
    (h : monthLoop indet k year table month days = some r) :
    month ≤ r.1 ∧ r.1 < month + table.length := by
  induction table generalizing month days with
  | nil => cases h
  | cons i table ih =>
    rw [monthLoop] at h
    rw [List.length_cons]
    generalize (if (decide (month = 1) && isLeap indet k year) = true then i + 1 else i) = i at h
    split_ifs at h with hlt
    · obtain rfl := Option.some.inj h
      dsimp only
      omega
    · obtain ⟨hge, hle⟩ := ih h
      push_cast
      omega

/-- From March on, the loop reads the table as it is. -/
theorem monthLoop_eq_none_of_lt {table : List ℤ} {month : ℤ} (hmonth : 1 < month)
    (htable : ∀ i ∈ table, 0 ≤ i) :
    monthLoop indet k year table month days = none ↔ table = [] ∨ table.sum ≤ days := by
  induction table generalizing month days with
  | nil => simp [monthLoop]
  | cons i table ih =>
    obtain ⟨hi, htable⟩ := List.forall_mem_cons.1 htable
    have hsum : 0 ≤ table.sum := List.sum_nonneg htable
    have hne : month ≠ 1 := by omega
    have hloop : monthLoop indet k year (i :: table) month days =
        if days < i then some (month, days)
        else monthLoop indet k year table (month + 1) (days - i) := by
      rw [monthLoop]
      simp [hne]
    rw [hloop, List.sum_cons]
    split_ifs with hlt
    · simp
      omega
    · rw [ih (by omega) htable]
      rcases table with - | ⟨j, table⟩
      · simp
        omega
      · simp
        omega

/-- The table is left if there are as many days as the year has. -/
theorem monthLoop_eq_none_iff :
    monthLoop indet k year daysInMonth 0 days = none ↔
      (if isLeap indet k year then 366 else 365) ≤ days := by
  -- from March on the lengths do not depend on the year
  have hmarch : ∀ days,
    monthLoop indet k year [31, 30, 31, 30, 31, 31, 30, 31, 30, 31] 2 days = none ↔
      306 ≤ days := fun days ↦ by
    rw [monthLoop_eq_none_of_lt (by decide) (by decide)]
    simp
  have hloop : monthLoop indet k year daysInMonth 0 days =
      if days < 31 then some (0, days)
      else if days - 31 < (if isLeap indet k year then 29 else 28) then some (1, days - 31)
      else monthLoop indet k year [31, 30, 31, 30, 31, 31, 30, 31, 30, 31] 2
        (days - 31 - if isLeap indet k year then 29 else 28) := by
    rw [daysInMonth, monthLoop, monthLoop]
    cases isLeap indet k year <;> rfl
  rw [hloop]
  rcases isLeap indet k year with - | - <;> simp only [Bool.false_eq_true, if_false, if_true]
  · split_ifs with hjanuary hfebruary
    · simp
      omega
    · simp
      omega
    · rw [hmarch]
      omega
  · split_ifs with hjanuary hfebruary
    · simp
      omega
    · simp
      omega
    · rw [hmarch]
      omega

/-- A month of the year has a name. -/
theorem listDate_ne_none {tm : Tm} (h0 : 0 ≤ tm.mon) (h12 : tm.mon < 12) : listDate tm ≠ none := by
  have hlt : tm.mon.toNat < months.length := by
    simp [months]
    omega
  simp only [listDate, if_neg (not_lt.2 h0), List.getElem?_eq_getElem hlt, Option.bind_eq_bind,
    Option.bind_some, Option.pure_def]
  exact Option.some_ne_none _

/-! ### The date -/

/-- In a year that 400 divides, the result is the value that was never set. -/
theorem isLeap_of_dvd (h : (400 : ℤ) ∣ year) : isLeap indet k year = decide (indet k ≠ 0) := by
  have h100 : (100 : ℤ) ∣ year := Dvd.dvd.trans (by decide) h
  have h4 : (4 : ℤ) ∣ year := Dvd.dvd.trans (by decide) h
  rw [isLeap, if_neg (not_not.2 (Int.tmod_eq_zero_of_dvd h)),
    if_neg (not_not.2 (Int.tmod_eq_zero_of_dvd h100)),
    if_neg (not_not.2 (Int.tmod_eq_zero_of_dvd h4))]

/-- If that value is true, all years are leap years. -/
theorem isLeap_of_ne_zero (h : indet k ≠ 0) (year : ℤ) : isLeap indet k year = true := by
  by_cases hdvd : (400 : ℤ) ∣ year
  · rw [isLeap_of_dvd hdvd, decide_eq_true h]
  · exact isLeap_of_not_dvd hdvd k

/-- The answers that lead to day 365 of the year 2000 + 400 `j`: the second call for a year says no
in the first `m` of the years that it has a say in, and the third call for the last one does. -/
def doubt (j m k : ℕ) : UInt8 :=
  if k % 2 = 1 ∧ (k / 2 < 30 + 400 * m ∨ k / 2 = 30 + 400 * j) then 0 else 1

/-- The loop over the years with these answers, from the year 1970 + `n` on. -/
theorem yearLoop_doubt {j m : ℕ} (hm : m ≤ j) (fuel n : ℕ) (hn : n ≤ 30 + 400 * j)
    (hfuel : 30 + 400 * j - n < fuel) :
    yearLoop (doubt j m) fuel (2 * n)
        (365 + 366 * (30 + 400 * j - n : ℕ) - (m - (n + 369) / 400 : ℕ)) (1970 + n) =
      (2 * (30 + 400 * j) + 1, (365 : ℤ), (2000 + 400 * j : ℤ)) := by
  induction fuel generalizing n with
  | zero => omega
  | succ fuel ih =>
    -- whether the loop goes round is asked with the first call for a year, which says yes
    have hfirst : isLeap (doubt j m) (2 * n) (1970 + n) = true := by
      refine isLeap_of_ne_zero ?_ _
      rw [doubt, if_neg (by omega)]
      decide
    rw [yearLoop, hfirst, if_pos rfl]
    rcases hn.lt_or_eq with hlt | rfl
    · have hmore : (365 + 366 * (30 + 400 * j - n : ℕ) - (m - (n + 369) / 400 : ℕ) : ℤ) ≥ 366 := by
        omega
      have htaken : (365 + 366 * (30 + 400 * j - n : ℕ) - (m - (n + 369) / 400 : ℕ) : ℤ) -
          (if isLeap (doubt j m) (2 * n + 1) (1970 + n) = true then 366 else 365) =
            365 + 366 * (30 + 400 * j - (n + 1) : ℕ) - (m - (n + 1 + 369) / 400 : ℕ) := by
        -- and how many days to take with the second, which has a say in every 400th year only
        by_cases hdvd : (400 : ℤ) ∣ 1970 + n
        · have hsecond : doubt j m (2 * n + 1) = if n < 30 + 400 * m then 0 else 1 := by
            rw [doubt]
            congr 1
            exact propext (by omega)
          rw [isLeap_of_dvd hdvd, hsecond]
          by_cases hone : n < 30 + 400 * m
          · rw [if_pos hone, if_neg (by decide)]
            omega
          · rw [if_neg hone, if_pos (by decide)]
            omega
        · rw [isLeap_of_not_dvd hdvd, if_pos rfl]
          omega
      rw [if_pos hmore, htaken]
      have h := ih (n + 1) (by omega) (by omega)
      rwa [Nat.mul_add, Nat.cast_add, ← add_assoc] at h
    · have hend : (365 + 366 * (30 + 400 * j - (30 + 400 * j) : ℕ) -
          (m - (30 + 400 * j + 369) / 400 : ℕ) : ℤ) = 365 := by
        omega
      rw [hend, if_neg (by decide)]
      push_cast
      rw [← add_assoc]
      rfl

/-- A year that is reached has all its days only if `is_leap` has said two things about it. -/
theorem disputed_of_monthLoop {days : ℤ} {r : ℕ × ℤ × ℤ}
    (hr : yearLoop indet (days.toNat + 1) 0 days 1970 = r)
    (hmonth : monthLoop indet r.1 r.2.2 daysInMonth 0 r.2.1 = none) : Disputed days := by
  rw [monthLoop_eq_none_iff] at hmonth
  obtain ⟨hpos, hleft, htaken⟩ := @yearLoop_exit indet 0 1970 days (days.toNat + 1) (by omega)
  rw [hr] at hpos hleft htaken
  by_cases hneg : days < 0
  · rw [yearLoop, isLeap_1970, if_pos rfl, if_neg (by omega)] at hr
    rw [← hr] at hmonth
    simp only at hmonth
    split_ifs at hmonth <;> omega
  obtain ⟨hyear, -, hcount⟩ := @yearLoop_spec indet (days.toNat + 1) 0 days 1970 (by omega)
  rw [hr] at hyear hcount
  by_cases hdvd : (400 : ℤ) ∣ r.2.2
  · have hlast : r.2.1 = 365 := by
      split_ifs at hmonth hleft <;> omega
    obtain ⟨q, hq⟩ := hdvd
    refine ⟨(q - 5).toNat, (366 * (30 + 400 * (q - 5)) + 365 - days).toNat, ?_, ?_⟩
    · simp only [daysTaken] at hcount
      omega
    · omega
  · rw [isLeap_of_not_dvd hdvd] at hmonth hleft
    exact absurd hmonth (not_le.2 hleft)

/-- Outside the disputed days no undefined value matters. -/
theorem convertTime_of_not_disputed {t : ℤ} (h : ¬Disputed (toInt (t.tdiv 86400)))
    (indet : ℕ → UInt8) : ∃ tm, convertTime indet t = some tm ∧ 0 ≤ tm.mon ∧ tm.mon < 12 := by
  rcases hmonth : monthLoop indet
    (yearLoop indet ((toInt (t.tdiv 86400)).toNat + 1) 0 (toInt (t.tdiv 86400)) 1970).1
    (yearLoop indet ((toInt (t.tdiv 86400)).toNat + 1) 0 (toInt (t.tdiv 86400)) 1970).2.2
    daysInMonth 0
    (yearLoop indet ((toInt (t.tdiv 86400)).toNat + 1) 0 (toInt (t.tdiv 86400)) 1970).2.1
    with - | r
  · exact absurd (disputed_of_monthLoop rfl hmonth) h
  · have hrange : 0 ≤ r.1 ∧ r.1 < 12 := by simpa [daysInMonth] using monthLoop_month hmonth
    exact ⟨_, by simp only [convertTime, hmonth, Option.bind_eq_bind, Option.bind_some]; rfl,
      hrange⟩

/-- **When `convert_time` stays in its tables**: on every day but those of `Disputed`. -/
theorem convertTime_staysInTables (t : ℤ) :
    StaysInTables t ↔ ¬Disputed (toInt (t.tdiv 86400)) := by
  constructor
  · rintro hstays ⟨j, m, hm, hdays⟩
    obtain ⟨tm, hconvert, -⟩ := (hstays (doubt j m)).1
    have hyears := yearLoop_doubt hm ((toInt (t.tdiv 86400)).toNat + 1) 0 (by omega) (by omega)
    have hstart : (365 + 366 * (30 + 400 * j - 0 : ℕ) - (m - (0 + 369) / 400 : ℕ) : ℤ) =
        toInt (t.tdiv 86400) := by
      omega
    have hmonth : monthLoop (doubt j m) (2 * (30 + 400 * j) + 1) (2000 + 400 * j)
      daysInMonth 0 365 = none := by
      have hdvd : (400 : ℤ) ∣ 2000 + 400 * j := by omega
      have hthird : doubt j m (2 * (30 + 400 * j) + 1) = 0 := by
        rw [doubt, if_pos (by omega)]
      rw [monthLoop_eq_none_iff, isLeap_of_dvd hdvd, hthird]
      decide
    rw [hstart, Nat.mul_zero, Nat.cast_zero, add_zero] at hyears
    rw [convertTime] at hconvert
    simp only [hyears, hmonth, Option.bind_eq_bind, Option.bind_none] at hconvert
    cases hconvert
  · intro hdays indet
    obtain ⟨tm, htm, h0, h12⟩ := convertTime_of_not_disputed hdays indet
    exact ⟨⟨tm, htm, h0, h12, listDate_ne_none h0 h12⟩, fun fuel hfuel ↦
      yearLoop_fuel hfuel (Nat.lt_succ_self _)⟩

/-- 23 January 2001, when the first call of `is_leap` for 2000 yields true and the third one false.
-/
theorem convertTime_month_twelve :
    convertTime (fun k ↦ if k = 61 then 0 else 1) 980208000 = none ∧ ¬StaysInTables 980208000 := by
  have hnone : convertTime (fun k ↦ if k = 61 then 0 else 1) 980208000 = none := by decide +kernel
  refine ⟨hnone, fun h ↦ ?_⟩
  obtain ⟨tm, hsome, -⟩ := (h fun k ↦ if k = 61 then 0 else 1).1
  rw [hnone] at hsome
  cases hsome

end FtpServer
