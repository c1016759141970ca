import Fixture.Calendar.Basic

/-! Dates and their day numbers. Every day between two dates is a date. -/
namespace Fixture.Date

/-- Days from the first of March of the year 0 to that of a year. -/
def marchDays (year : Int) : Int := 365 * year + year / 4 - year / 100 + year / 400

theorem marchDays_cycles {a b c d : Int} (hb : 0 ≤ b ∧ b ≤ 3) (hc : 0 ≤ c ∧ c ≤ 24)
    (hd : 0 ≤ d ∧ d ≤ 3) :
    marchDays (400 * a + 100 * b + 4 * c + d) = 146097 * a + 36524 * b + 1461 * c + 365 * d := by
  unfold marchDays
  omega

/-- A year from March on ends with the leap day of the next one. -/
theorem marchDays_succ (year : Int) :
    marchDays (year + 1) = marchDays year + 365 + if isLeap (year + 1) then 1 else 0 := by
  have four : (year + 1) / 4 = year / 4 + if (year + 1) % 4 = 0 then 1 else 0 := by
    split <;> omega
  have hundred : (year + 1) / 100 = year / 100 + if (year + 1) % 100 = 0 then 1 else 0 := by
    split <;> omega
  have fourHundred : (year + 1) / 400 = year / 400 + if (year + 1) % 400 = 0 then 1 else 0 := by
    split <;> omega
  unfold marchDays
  rw [four, hundred, fourHundred]
  by_cases h : isLeap (year + 1) = true
  · rw [if_pos h]
    simp only [isLeap, decide_eq_true_eq] at h
    split <;> split <;> split <;> omega
  · rw [if_neg h]
    simp only [isLeap, decide_eq_true_eq] at h
    split <;> split <;> split <;> omega

theorem marchDays_add_le {x y : Int} (h : x ≤ y) : marchDays x + 365 * (y - x) ≤ marchDays y := by
  unfold marchDays
  omega

/-- The date of a day of a year that begins in March, days being counted from zero. -/
def ofMarch? (year : Int) (inYear : Nat) : Option Date :=
  let month := (5 * inYear + 2) / 153
  let day := inYear - daysBefore month + 1
  if month < 10 then of? year (month + 3) day else of? (year + 1) (month - 9) day

theorem ofDayNumber?_eq (n : Int) :
    ∃ year : Int, ∃ inYear : Nat, n + 719468 = marchDays year + inYear ∧
      n + 719468 < marchDays (year + 1) ∧ ofDayNumber? n = ofMarch? year inYear := by
  refine ⟨_, _, ?_, ?_, rfl⟩
  all_goals
    generalize n + 719468 = n
    generalize ha : n / 146097 = a
    generalize hn : n % 146097 = m
    generalize hb : min 3 (m / 36524) = b
    generalize hc : (m - 36524 * b) / 1461 = c
    generalize hd : min 3 ((m - 36524 * b - 1461 * c) / 365) = d
  · rw [marchDays_cycles (by omega) (by omega) (by omega)]
    omega
  · rw [marchDays_succ, marchDays_cycles (by omega) (by omega) (by omega)]
    by_cases hlast : m - 36524 * b - 1461 * c = 1460
    · -- the last day of four years is a leap day
      have hd3 : d = 3 := by omega
      have hleap : isLeap (400 * a + 100 * b + 4 * c + d + 1) = true := by
        simp only [isLeap, decide_eq_true_eq]
        refine ⟨by omega, ?_⟩
        by_cases hc24 : c = 24
        · have hb3 : b = 3 := by omega
          exact Or.inr (by omega)
        · exact Or.inl (by omega)
      rw [if_pos hleap]
      omega
    · split <;> omega

theorem of?_eq_some {year : Int} {month day : Nat} (h : Valid year month day) :
    of? year month day = some ⟨year, month, day, h⟩ := dif_pos h

theorem day_le_daysInMonth {i m : Nat} (hm : (5 * i + 2) / 153 = m) (h : m < 10) (year : Int) :
    i - daysBefore m + 1 ≤ daysInMonth year (m + 3) := by
  unfold daysInMonth daysBefore
  split
  · omega
  · split <;> omega

theorem day_le_daysInMonth_next {i m : Nat} (hm : (5 * i + 2) / 153 = m) (h : 10 ≤ m) {year : Int}
    (hi : (i : Int) < 365 + if isLeap year then 1 else 0) :
    i - daysBefore m + 1 ≤ daysInMonth year (m - 9) := by
  unfold daysInMonth daysBefore
  split at hi
  · rename_i hleap
    simp only [hleap, if_true]
    split
    · omega
    · split <;> omega
  · rename_i hleap
    simp only [hleap, Bool.false_eq_true, if_false]
    split
    · omega
    · split <;> omega

theorem daysBefore_le {i m : Nat} (hm : (5 * i + 2) / 153 = m) : daysBefore m ≤ i := by
  unfold daysBefore
  omega

/-- A day in a year that begins in March is a date, if it is one of the years that dates have; and
the date has the day's number. -/
theorem exists_ofMarch? {year : Int} {i : Nat}
    (hlt : (i : Int) < 365 + if isLeap (year + 1) then 1 else 0)
    (hfirst : -262144 ≤ year ∧ (year = -262144 → 306 ≤ i))
    (hlast : year ≤ 262142 ∧ (year = 262142 → i < 306)) :
    ∃ d, ofMarch? year i = some d ∧ d.dayNumber = marchDays year + i - 719468 := by
  have hi : i ≤ 365 := by split at hlt <;> omega
  unfold ofMarch?
  dsimp only
  generalize hm : (5 * i + 2) / 153 = m
  have hbefore := daysBefore_le hm
  by_cases h10 : m < 10
  · rw [if_pos h10]
    have hvalid : Valid year (m + 3) (i - daysBefore m + 1) :=
      ⟨by omega, by omega, by omega, day_le_daysInMonth hm h10 year⟩
    refine ⟨_, of?_eq_some hvalid, ?_⟩
    have hmonth : (m + 3 + 9) % 12 = m := by omega
    have hnot : ¬ m + 3 ≤ 2 := by omega
    simp only [dayNumber, hnot, if_false, hmonth, marchDays]
    omega
  · rw [if_neg h10]
    have hvalid : Valid (year + 1) (m - 9) (i - daysBefore m + 1) :=
      ⟨by omega, by omega, by omega, day_le_daysInMonth_next hm (by omega) hlt⟩
    refine ⟨_, of?_eq_some hvalid, ?_⟩
    have hmonth : (m - 9 + 9) % 12 = m := by omega
    have hle : m - 9 ≤ 2 := by omega
    simp only [dayNumber, hle, if_true, hmonth, marchDays, Int.add_sub_cancel]
    omega

/-- A date lies in its year that begins in March; the first and the last of the years that dates
have begin and end in January. -/
theorem dayNumber_bounds (d : Date) :
    marchDays (-262144) + 306 ≤ d.dayNumber + 719468 ∧
      d.dayNumber + 719468 ≤ marchDays 262142 + 305 := by
  obtain ⟨year, month, day, hyear, hmonth, hday⟩ := d
  have hday31 : day ≤ 31 := Nat.le_trans hday.2 (daysInMonth_le _ _)
  by_cases h : month ≤ 2
  · have hnumber : dayNumber ⟨year, month, day, hyear, hmonth, hday⟩ + 719468 =
        marchDays (year - 1) + (daysBefore ((month + 9) % 12) + day - 1) := by
      simp only [dayNumber, h, if_true, marchDays]
      omega
    have hlow := marchDays_add_le (by omega : -262144 ≤ year - 1)
    have hhigh := marchDays_add_le (by omega : year - 1 ≤ 262142)
    rw [hnumber]
    unfold daysBefore
    omega
  · have hnumber : dayNumber ⟨year, month, day, hyear, hmonth, hday⟩ + 719468 =
        marchDays year + (daysBefore ((month + 9) % 12) + day - 1) := by
      simp only [dayNumber, h, if_false, marchDays]
      omega
    have hlow := marchDays_add_le (by omega : -262144 ≤ year)
    have hhigh := marchDays_add_le (by omega : year ≤ 262142)
    rw [hnumber]
    unfold daysBefore
    omega

theorem exists_ofDayNumber? {low high : Date} {n : Int} (hl : low.dayNumber ≤ n)
    (hh : n ≤ high.dayNumber) : ∃ d, ofDayNumber? n = some d ∧ d.dayNumber = n := by
  have hlow := (dayNumber_bounds low).1
  have hhigh := (dayNumber_bounds high).2
  obtain ⟨year, i, hn, hlt, he⟩ := ofDayNumber?_eq n
  have hfirst : -262144 ≤ year := by
    refine Int.not_lt.1 fun h => ?_
    have := marchDays_add_le (by omega : year + 1 ≤ -262144)
    omega
  have hlast : year ≤ 262142 := by
    refine Int.not_lt.1 fun h => ?_
    have := marchDays_add_le (by omega : 262142 ≤ year)
    omega
  rw [marchDays_succ, hn, Int.add_assoc] at hlt
  have hstart (h : year = -262144) : 306 ≤ i := by
    subst h
    omega
  have hend (h : year = 262142) : i < 306 := by
    subst h
    omega
  obtain ⟨d, hd, hnumber⟩ :=
    exists_ofMarch? (Int.lt_of_add_lt_add_left hlt) ⟨hfirst, hstart⟩ ⟨hlast, hend⟩
  exact ⟨d, he.trans hd, by omega⟩

end Fixture.Date
