import Fixture.Calendar.Basic

/-! Patterns that lay out dates and times: plain characters, and `%` with the spelling of what is to
stand there. A pattern fits a value only if the value has everything that the pattern names. -/
namespace Fixture.Calendar

/-- How a number is brought to its usual width. -/
inductive Fill where
  | bare | zeros | blanks
  deriving DecidableEq

inductive Quantity where
  | year | century | yearOfCentury | isoYear | isoYearOfCentury | quarter | month | day
  | weekFromSunday | weekFromMonday | isoWeek | daysFromSunday | weekdayFromMonday | ordinal
  | hour | hour12 | minute | second | nanosecond | unixSeconds
  deriving DecidableEq

inductive Piece where
  | literal (c : Char)
  | number (quantity : Quantity) (fill : Fill)
  | monthName (short : Bool)
  | weekdayName (short : Bool)
  | halfDay (upper : Bool)
  | fraction
  | fractionDigits (count : Nat) (point : Bool)
  | offset
  deriving DecidableEq

namespace Piece

def two (p : Quantity) : Piece := number p .zeros

def colon : Piece := literal ':'

def clock : List Piece := [two .hour, colon, two .minute, colon, two .second]

def slashed : List Piece := [two .month, literal '/', two .day, literal '/', two .yearOfCentury]

end Piece

open Piece Quantity in
/-- The spellings after `%`; none is the beginning of another. -/
def spellings : List (String × List Piece) := [
  ("A", [weekdayName false]), ("a", [weekdayName true]),
  ("B", [monthName false]), ("b", [monthName true]), ("h", [monthName true]),
  ("C", [two century]), ("D", slashed), ("x", slashed),
  ("F", [number year .zeros, literal '-', two month, literal '-', two day]),
  ("G", [number isoYear .zeros]), ("g", [two isoYearOfCentury]),
  ("H", [two hour]), ("I", [two hour12]), ("k", [number hour .blanks]), ("l", [number hour12 .blanks]),
  ("M", [two minute]), ("S", [two second]), ("P", [halfDay false]), ("p", [halfDay true]),
  ("R", [two hour, colon, two minute]), ("T", clock), ("X", clock),
  ("r", [two hour12, colon, two minute, colon, two second, literal ' ', halfDay true]),
  ("U", [two weekFromSunday]), ("W", [two weekFromMonday]), ("V", [two isoWeek]),
  ("Y", [number year .zeros]), ("y", [two yearOfCentury]),
  ("c", [weekdayName true, literal ' ', monthName true, literal ' ', number day .blanks, literal ' '] ++
    clock ++ [literal ' ', number year .zeros]),
  ("v", [number day .blanks, literal '-', monthName true, literal '-', number year .zeros]),
  ("d", [two day]), ("e", [number day .blanks]), ("m", [two month]), ("j", [number ordinal .zeros]),
  ("q", [number quarter .bare]), ("u", [number weekdayFromMonday .bare]),
  ("w", [number daysFromSunday .bare]), ("s", [number unixSeconds .bare]),
  ("f", [number nanosecond .zeros]), (".f", [fraction]),
  (".3f", [fractionDigits 3 true]), (".6f", [fractionDigits 6 true]), (".9f", [fractionDigits 9 true]),
  ("3f", [fractionDigits 3 false]), ("6f", [fractionDigits 6 false]), ("9f", [fractionDigits 9 false]),
  ("Z", [offset]), ("z", [offset]), (":z", [offset]), ("::z", [offset]), (":::z", [offset]),
  ("#z", [offset]), ("+", [offset]),
  ("n", [literal '\n']), ("t", [literal '\t']), ("%", [literal '%'])]

/-- The pieces of the spelling that `s` begins with, and what follows it. -/
def spelled? (s : List Char) : Option (List Piece × List Char) :=
  (spellings.find? fun e => e.1.toList.isPrefixOf s).map fun e => (e.2, s.drop e.1.length)

/-- A spelling, or a fill and the spelling of one number. -/
def directive? (s : List Char) : Option (List Piece × List Char) :=
  match s with
  | '-' :: r => refill? .bare r
  | '0' :: r => refill? .zeros r
  | '_' :: r => refill? .blanks r
  | _ => spelled? s
where
  refill? (fill : Fill) (r : List Char) : Option (List Piece × List Char) :=
    match spelled? r with
    | some ([.number p _], r) => some ([.number p fill], r)
    | _ => none

def pattern? (s : List Char) : Option (List Piece) :=
  match s with
  | [] => some []
  | '%' :: r =>
    match directive? r with
    | some (ps, rest) =>
      if _ : rest.length ≤ r.length then (pattern? rest).map (ps ++ ·) else none
    | none => none
  | c :: r => (pattern? r).map (.literal c :: ·)
termination_by s.length

/-- What a pattern can draw on. -/
structure Moment where
  date : Option Date := none
  time : Option Time := none

def Fill.apply (fill : Fill) (width : Nat) (ds : List Char) : List Char :=
  match fill with
  | .bare => ds
  | .zeros => List.replicate (width - ds.length) '0' ++ ds
  | .blanks => List.replicate (width - ds.length) ' ' ++ ds

/-- A year past four digits has a sign before its digits. -/
def Fill.year (fill : Fill) (y : Int) : List Char :=
  let ds := Text.decimal y.natAbs
  if 0 ≤ y ∧ y ≤ 9999 then fill.apply 4 ds
  else
    let sign := if y < 0 then '-' else '+'
    match fill with
    | .zeros => sign :: Fill.zeros.apply 4 ds
    | f => f.apply 5 (sign :: ds)

def monthNames : List String := ["January", "February", "March", "April", "May", "June", "July",
  "August", "September", "October", "November", "December"]

def weekdayNames : List String :=
  ["Monday", "Tuesday", "Wednesday", "Thursday", "Friday", "Saturday", "Sunday"]

/-- The week of the year, the first full one from `start` days before Monday being number 1. -/
def weekOfYear (d : Date) (start : Nat) : Nat := (d.ordinal + 6 - (d.weekday + start) % 7) / 7

namespace Quantity

def ofDate (d : Date) (fill : Fill) : Quantity → Option (List Char)
  | year => some (fill.year d.year)
  | century => some (two (d.year / 100).toNat)
  | yearOfCentury => some (two (d.year % 100).toNat)
  | isoYear => some (fill.year d.isoWeek.1)
  | isoYearOfCentury => some (two (d.isoWeek.1 % 100).toNat)
  | quarter => some (fill.apply 1 (Text.decimal ((d.month - 1) / 3 + 1)))
  | month => some (two d.month)
  | day => some (two d.day)
  | weekFromSunday => some (two (weekOfYear d 1))
  | weekFromMonday => some (two (weekOfYear d 0))
  | isoWeek => some (two d.isoWeek.2)
  | daysFromSunday => some (fill.apply 1 (Text.decimal ((d.weekday + 1) % 7)))
  | weekdayFromMonday => some (fill.apply 1 (Text.decimal (d.weekday + 1)))
  | ordinal => some (fill.apply 3 (Text.decimal d.ordinal))
  | _ => none
where
  two (n : Nat) : List Char := fill.apply 2 (Text.decimal n)

def ofTime (t : Time) (fill : Fill) : Quantity → Option (List Char)
  | hour => some (two t.hour)
  | hour12 => some (two ((t.hour + 11) % 12 + 1))
  | minute => some (two t.minute)
  | second => some (two t.second)
  | nanosecond => some (fill.apply 9 (Text.decimal t.nanosecond))
  | _ => none
where
  two (n : Nat) : List Char := fill.apply 2 (Text.decimal n)

def layOut (m : Moment) (fill : Fill) (p : Quantity) : Option (List Char) :=
  match p with
  | unixSeconds => do
    let d ← m.date
    let t ← m.time
    return fill.apply 9 (Text.signedDecimal (Timestamp.unixSeconds ⟨d, t⟩))
  | p => (m.date.bind (ofDate · fill p)).or (m.time.bind (ofTime · fill p))

end Quantity

def nameAt (names : List String) (short : Bool) (n : Nat) : List Char :=
  let s := (names.getD n "").toList
  if short then s.take 3 else s

namespace Piece

def layOut (m : Moment) : Piece → Option (List Char)
  | literal c => some [c]
  | number p fill => p.layOut m fill
  | monthName short => m.date.map fun d => nameAt monthNames short (d.month - 1)
  | weekdayName short => m.date.map fun d => nameAt weekdayNames short d.weekday
  | halfDay upper => m.time.map fun t =>
    (match upper, decide (t.hour < 12) with
      | true, true => "AM"
      | true, false => "PM"
      | false, true => "am"
      | false, false => "pm").toList
  | fraction => m.time.map Time.fractionText
  | fractionDigits n point => m.time.map fun t =>
    (if point then ['.'] else []) ++ Text.padded n (t.nanosecond / Nat.pow 10 (9 - n))
  | offset => none

end Piece

/-- The text of a value, if the pattern fits it. -/
def layOut (m : Moment) : List Piece → Option (List Char)
  | [] => some []
  | p :: ps => do return (← p.layOut m) ++ (← layOut m ps)

end Fixture.Calendar
