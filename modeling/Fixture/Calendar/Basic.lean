import Fixture.Text

/-! Dates of the proleptic Gregorian calendar, and their number of days from 1970-01-01; times of day
and timestamps. Second 60 is a leap second. -/
namespace Fixture

def isLeap (year : Int) : Bool := year % 4 = 0 ∧ (year % 100 ≠ 0 ∨ year % 400 = 0)

def daysInMonth (year : Int) (month : Nat) : Nat :=
  if month = 2 then (if isLeap year then 29 else 28)
  else if month = 4 ∨ month = 6 ∨ month = 9 ∨ month = 11 then 30
  else 31

theorem daysInMonth_le (year : Int) (month : Nat) : daysInMonth year month ≤ 31 := by
  unfold daysInMonth
  split <;> split <;> omega

def Date.Valid (year : Int) (month day : Nat) : Prop :=
  (-262143 ≤ year ∧ year ≤ 262142) ∧ (1 ≤ month ∧ month ≤ 12) ∧
    1 ≤ day ∧ day ≤ daysInMonth year month

instance (year : Int) (month day : Nat) : Decidable (Date.Valid year month day) :=
  inferInstanceAs (Decidable (_ ∧ _ ∧ _ ∧ _))

structure Date where
  year : Int
  month : Nat
  day : Nat
  valid : Date.Valid year month day
  deriving DecidableEq

namespace Date

/-- The first day of 1970. -/
def epoch : Date := ⟨1970, 1, 1, by decide⟩

instance : Inhabited Date := ⟨epoch⟩

def of? (year : Int) (month day : Nat) : Option Date :=
  if h : Valid year month day then some ⟨year, month, day, h⟩ else none

theorem day_le (d : Date) : d.day ≤ 31 := Nat.le_trans d.valid.2.2.2 (daysInMonth_le _ _)

theorem of?_self (d : Date) : of? d.year d.month d.day = some d := dif_pos d.valid

/-- Days before the `n`-th month of a year that begins in March, `n` counting from zero. -/
def daysBefore (n : Nat) : Nat := (153 * n + 2) / 5

/-- Days from 1970-01-01. Years are taken to begin in March, so that a leap day ends them. -/
def dayNumber (d : Date) : Int :=
  let y := if d.month ≤ 2 then d.year - 1 else d.year
  365 * y + y / 4 - y / 100 + y / 400 + daysBefore ((d.month + 9) % 12) + d.day - 719469

/-- The date of a day number: cycles of 400, 100, 4 and 1 years are split off in turn. -/
def ofDayNumber? (n : Int) : Option Date :=
  let n := n + 719468
  let cycles := n / 146097
  let inCycle := n % 146097
  let centuries := min 3 (inCycle / 36524)
  let inCentury := inCycle - 36524 * centuries
  let fours := inCentury / 1461
  let inFour := inCentury - 1461 * fours
  let ones := min 3 (inFour / 365)
  let inYear := (inFour - 365 * ones).toNat
  let month := (5 * inYear + 2) / 153
  let year := 400 * cycles + 100 * centuries + 4 * fours + ones
  let day := inYear - daysBefore month + 1
  if month < 10 then of? year (month + 3) day else of? (year + 1) (month - 9) day

def le (a b : Date) : Bool := decide (a.dayNumber ≤ b.dayNumber)

/-- Days from the first of January, which is day 1. -/
def ordinal (d : Date) : Nat :=
  (List.range (d.month - 1)).foldl (fun n m => n + daysInMonth d.year (m + 1)) d.day

/-- Days from Monday. -/
def weekday (d : Date) : Nat := ((d.dayNumber + 3) % 7).toNat

/-- The year that holds the Thursday of the week of `d`, and the week's number in it. -/
def isoWeek (d : Date) : Int × Nat :=
  match ofDayNumber? (d.dayNumber - d.weekday + 3) with
  | some t => (t.year, (t.ordinal - 1) / 7 + 1)
  | none => (d.year, 1)

/-- Four digits; a year past them has a sign. -/
def yearText (year : Int) : List Char :=
  if 0 ≤ year ∧ year ≤ 9999 then Text.padded 4 year.toNat
  else (if year < 0 then '-' else '+') :: Text.padded 4 year.natAbs

def text (d : Date) : List Char :=
  yearText d.year ++ '-' :: Text.padded 2 d.month ++ '-' :: Text.padded 2 d.day

end Date

def Time.Valid (hour minute second nanosecond : Nat) : Prop :=
  hour < 24 ∧ minute < 60 ∧ second ≤ 60 ∧ nanosecond < 1000000000

instance (hour minute second nanosecond : Nat) :
    Decidable (Time.Valid hour minute second nanosecond) :=
  inferInstanceAs (Decidable (_ ∧ _ ∧ _ ∧ _))

structure Time where
  hour : Nat
  minute : Nat
  second : Nat
  nanosecond : Nat
  valid : Time.Valid hour minute second nanosecond
  deriving DecidableEq

namespace Time

def midnight : Time := ⟨0, 0, 0, 0, by decide⟩

instance : Inhabited Time := ⟨midnight⟩

def of? (hour minute second nanosecond : Nat) : Option Time :=
  if h : Valid hour minute second nanosecond then some ⟨hour, minute, second, nanosecond, h⟩
  else none

theorem of?_self (t : Time) : of? t.hour t.minute t.second t.nanosecond = some t := dif_pos t.valid

/-- The whole second of the day that `n` counts from midnight. -/
def ofSecond (n : Fin 86400) : Time :=
  ⟨n / 3600, n / 60 % 60, n % 60, 0, by unfold Valid; omega⟩

/-- Seconds from midnight; a leap second counts as the one before it. -/
def secondOfDay (t : Time) : Nat := 3600 * t.hour + 60 * t.minute + min 59 t.second

/-- The fraction of a second, in as few groups of three digits as hold it. -/
def fractionText (t : Time) : List Char :=
  if t.nanosecond = 0 then []
  else if t.nanosecond % 1000000 = 0 then '.' :: Text.padded 3 (t.nanosecond / 1000000)
  else if t.nanosecond % 1000 = 0 then '.' :: Text.padded 6 (t.nanosecond / 1000)
  else '.' :: Text.padded 9 t.nanosecond

def text (t : Time) : List Char :=
  Text.padded 2 t.hour ++ ':' :: Text.padded 2 t.minute ++ ':' :: Text.padded 2 t.second ++
    t.fractionText

end Time

structure Timestamp where
  date : Date
  time : Time
  deriving DecidableEq, Inhabited

namespace Timestamp

/-- Seconds from the first midnight of 1970. -/
def unixSeconds (t : Timestamp) : Int := 86400 * t.date.dayNumber + t.time.secondOfDay

/-- The timestamp `minutes` later, its second and fraction being kept. -/
def addMinutes? (t : Timestamp) (minutes : Int) : Option Timestamp := do
  let m := 60 * t.time.hour + t.time.minute + minutes
  let date ← Date.ofDayNumber? (t.date.dayNumber + m / 1440)
  let ofDay := (m % 1440).toNat
  let time ← Time.of? (ofDay / 60) (ofDay % 60) t.time.second t.time.nanosecond
  return ⟨date, time⟩

def text (t : Timestamp) : List Char := t.date.text ++ ' ' :: t.time.text

end Timestamp
end Fixture
