import Fixture.Proofs.DayNumbers
import Mathlib.Data.Nat.Init
import Mathlib.Tactic.IntervalCases

/-! The days of the calendar, counted out: those of the years from 1970 on, of the months of the year
and of the month. The day number is that count, so that its order is the order of the calendar, and
different dates have different numbers. -/
namespace Fixture.Date

def daysInYear (year : Int) : Nat := if isLeap year then 366 else 365

/-- The days of `count` years, the first one being given. -/
def daysOfYears (first : Int) : Nat → Nat
  | 0 => 0
  | count + 1 => daysOfYears first count + daysInYear (first + count)

/-- The days of the first `count` months of a year. -/
def daysOfMonths (year : Int) : Nat → Nat
  | 0 => 0
  | count + 1 => daysOfMonths year count + daysInMonth year (count + 1)

/-- The days from the first one of 1970, which go back for the years before it. -/
def daysFromEpoch (d : Date) : Int :=
  daysOfYears 1970 (d.year - 1970).toNat - daysOfYears d.year (1970 - d.year).toNat +
    daysOfMonths d.year (d.month - 1) + (d.day - 1)

/-- The months from March on have 153 days in each five of them. -/
theorem daysBefore_succ (year : Int) {months : Nat} (h : months < 10) :
    daysBefore (months + 1) = daysBefore months + daysInMonth year (months + 2 + 1) := by
  interval_cases months <;> rfl

theorem daysOfMonths_of_march (year : Int) {months : Nat} (h : months ≤ 10) :
    daysOfMonths year (months + 2) + 306 = daysInYear year + daysBefore months := by
  induction months with
  | zero =>
    simp only [daysOfMonths, daysInMonth, daysInYear, daysBefore, Nat.reduceAdd, Nat.reduceEqDiff,
      if_true, if_false]
    cases isLeap year <;> rfl
  | succ months ih =>
    rw [daysBefore_succ year h, ← Nat.add_assoc, ← ih (by omega), daysOfMonths]
    exact Nat.add_right_comm _ _ _

/-- A year that begins in March ends with the leap day of the year after it. -/
theorem marchDays_eq_add (year : Int) : marchDays year = marchDays (year - 1) + daysInYear year := by
  have hstep := marchDays_succ (year - 1)
  rw [Int.sub_add_cancel] at hstep
  rw [hstep, daysInYear]
  split <;> omega

theorem daysOfYears_eq (first : Int) (count : Nat) :
    (daysOfYears first count : Int) = marchDays (first - 1 + count) - marchDays (first - 1) := by
  induction count with
  | zero => simp [daysOfYears]
  | succ count ih =>
    have hlast := marchDays_eq_add (first + count)
    have hbefore : first + (count : Int) - 1 = first - 1 + count := by omega
    have hnext : first - 1 + ((count + 1 : Nat) : Int) = first + count := by omega
    rw [hbefore] at hlast
    rw [hnext, hlast, daysOfYears]
    omega

/-- The first of January stands 306 days after that of March. -/
theorem dayNumber_eq_marchDays (d : Date) :
    d.dayNumber = marchDays (d.year - 1) - 719163 + daysOfMonths d.year (d.month - 1) + d.day := by
  obtain ⟨year, month, day, -, ⟨hm, hm'⟩, -⟩ := d
  by_cases h : month ≤ 2
  · have hmonths : daysOfMonths year (month - 1) + 306 = daysBefore ((month + 9) % 12) := by
      have hmonth : month = 1 ∨ month = 2 := by omega
      rcases hmonth with rfl | rfl <;> rfl
    simp only [dayNumber, marchDays, h, if_true]
    omega
  · obtain ⟨n, rfl⟩ : ∃ n, month = n + 3 := ⟨month - 3, by omega⟩
    have hindex : (n + 3 + 9) % 12 = n := by omega
    have hmonths := daysOfMonths_of_march year (by omega : n ≤ 10)
    have hyear := marchDays_eq_add year
    have hnumber : 365 * year + year / 4 - year / 100 + year / 400 = marchDays year := rfl
    simp only [dayNumber, h, if_false, hindex, Nat.reduceSubDiff, hnumber]
    omega

theorem dayNumber_eq_daysFromEpoch (d : Date) : d.dayNumber = d.daysFromEpoch := by
  have hday := d.valid.2.2.1
  rw [dayNumber_eq_marchDays, daysFromEpoch, daysOfYears_eq, daysOfYears_eq]
  have hepoch : marchDays (1970 - 1) = 719162 := rfl
  rw [hepoch]
  by_cases h : 1970 ≤ d.year
  · have hafter : (1970 : Int) - 1 + (d.year - 1970).toNat = d.year - 1 := by omega
    have hbefore : d.year - 1 + ((1970 - d.year).toNat : Int) = d.year - 1 := by omega
    rw [hafter, hbefore]
    omega
  · have hafter : (1970 : Int) - 1 + (d.year - 1970).toNat = 1970 - 1 := by omega
    have hbefore : d.year - 1 + ((1970 - d.year).toNat : Int) = 1970 - 1 := by omega
    rw [hafter, hbefore, hepoch]
    omega

section Order

/-- Earlier in the calendar, or the same: by the year, the month and the day. -/
instance : LE Date where
  le a b := a.year < b.year ∨
    a.year = b.year ∧ (a.month < b.month ∨ a.month = b.month ∧ a.day ≤ b.day)

instance (a b : Date) : Decidable (a ≤ b) := inferInstanceAs (Decidable (_ ∨ _))

variable {a b : Date}

end Order

end Fixture.Date
