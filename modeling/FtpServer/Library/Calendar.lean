import Mathlib

/-!
# The Gregorian calendar

Dates from 1970 on, and the number of days since 1970-01-01. Months and days count from 0. A date is
one by construction: its month is one of the year's, and its day one of the month's.
-/

namespace Calendar

/-! ### Years -/

/-- The rule of 4, 100 and 400. -/
def IsLeap (y : ℕ) : Prop := 4 ∣ y ∧ (100 ∣ y → 400 ∣ y)

instance (y : ℕ) : Decidable (IsLeap y) := inferInstanceAs (Decidable (_ ∧ _))

def yearLength (y : ℕ) : ℕ := if IsLeap y then 366 else 365

/-- The number of the first day of a year. -/
def yearStart (y : ℕ) : ℕ := ∑ i ∈ Finset.Ico 1970 y, yearLength i

theorem yearStart_1970 : yearStart 1970 = 0 := rfl

/-- A year begins where the year before it ends. -/
theorem yearStart_succ {y : ℕ} (h : 1970 ≤ y) : yearStart (y + 1) = yearStart y + yearLength y :=
  Finset.sum_Ico_succ_top h _

/-- **The number of the first day of a year**, without the sum over the years. -/
theorem yearStart_eq {y : ℕ} (h : 1970 ≤ y) :
    yearStart y + (y - 1) / 100 + 477 = 365 * (y - 1970) + (y - 1) / 4 + (y - 1) / 400 := by
  induction y, h using Nat.le_induction with
  | base => rfl
  | succ y hy ih =>
    rw [yearStart_succ hy, yearLength]
    split_ifs with hleap <;> rw [IsLeap] at hleap <;> omega

/-! ### Months -/

/-- The length of a month; there are none behind December. -/
def monthLength (y m : ℕ) : ℕ :=
  [31, if IsLeap y then 29 else 28, 31, 30, 31, 30, 31, 31, 30, 31, 30, 31].getD m 0

/-- The number of the first day of a month in its year. -/
def monthStart (y m : ℕ) : ℕ := ∑ i ∈ Finset.range m, monthLength y i

/-- So does a month. -/
theorem monthStart_succ (y m : ℕ) : monthStart y (m + 1) = monthStart y m + monthLength y m :=
  Finset.sum_range_succ _ _

/-! ### Dates -/

/-- A date. -/
structure Date where
  year : ℕ
  month : ℕ
  day : ℕ
  year_ge : 1970 ≤ year
  month_lt : month < 12
  day_lt : day < monthLength year month

namespace Date

/-- The number of the date in its year. -/
def dayOfYear (d : Date) : ℕ := monthStart d.year d.month + d.day

/-- The days since 1970-01-01. -/
def dayNumber (d : Date) : ℕ := yearStart d.year + d.dayOfYear

end Date

end Calendar
