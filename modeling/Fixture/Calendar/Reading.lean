import Fixture.Calendar.Basic
import Fixture.Text

/-! Dates, times and timestamps from text. Fields may follow blanks and may have fewer digits than
are written; the internet form of a timestamp, with its offset, is read strictly. -/
namespace Fixture.Calendar

abbrev Reader (α : Type) := StateT (List Char) Option α

/-- A run of at least one and at most `most` digits. -/
def digits (most : Nat) : Reader (List Char) := fun s =>
  let ds := (s.take most).takeWhile Char.isDigit
  if ds = [] then none else some (ds, s.drop ds.length)

/-- Exactly `count` digits. -/
def fixed (count : Nat) : Reader Nat := do
  let ds ← digits count
  if ds.length = count then return Text.digitsValue ds else failure

def sign (c : Char) : Reader Unit
  | d :: s => if d = c then some ((), s) else none
  | [] => none

def finish : Reader Unit
  | [] => some ((), [])
  | _ => none

def blanks : Reader Unit := fun s => some ((), Text.skipBlank s)

def field (most : Nat) : Reader Nat := do
  blanks
  return Text.digitsValue (← digits most)

/-- At most four digits; any number of them after a sign. -/
def year : Reader Int := do
  blanks
  match ← get with
  | '-' :: s => set s; return -Text.digitsValue (← digits s.length)
  | '+' :: s => set s; return Text.digitsValue (← digits s.length)
  | _ => return Text.digitsValue (← digits 4)

def date : Reader Date := do
  let y ← year
  sign '-'
  let m ← field 2
  sign '-'
  let d ← field 2
  Date.of? y m d

/-- The digits after the point count nanoseconds; those past the ninth are dropped. -/
def nanoseconds (ds : List Char) : Nat :=
  let ds := ds.take 9
  Text.digitsValue ds * Nat.pow 10 (9 - ds.length)

def fraction : Reader Nat := do
  match ← get with
  | '.' :: s => set s; return nanoseconds (← digits s.length)
  | _ => return 0

def time (withFraction : Bool) : Reader Time := do
  let h ← field 2
  sign ':'
  let m ← field 2
  sign ':'
  let s ← field 2
  let n ← if withFraction then fraction else pure 0
  Time.of? h m s n

def date? (s : List Char) : Option Date := ((date <* finish).run s).map Prod.fst

def time? (s : List Char) : Option Time :=
  (((time false <* finish).run s).or ((time true <* finish).run s)).map Prod.fst

/-- Minutes east of Greenwich: `Z`, or a sign, two digits, a colon and two digits. -/
def offset : Reader Int := fun
  | 'Z' :: s | 'z' :: s => some (0, s)
  | c :: s => do
    let negative ← if c = '+' then some false else if c = '-' ∨ c = '−' then some true else none
    let ((h, m), s) ← (do let h ← fixed 2; sign ':'; return (h, ← fixed 2) : Reader _).run s
    if h < 24 ∧ m < 60 then
      let east := 60 * h + m
      return (if negative then -(east : Int) else east, s)
    else none
  | [] => none

/-- The date part ends at a `T` or a blank. -/
def separator : Reader Unit
  | 'T' :: s | 't' :: s | ' ' :: s => some ((), s)
  | _ => none

/-- The internet form of a timestamp, taken to Greenwich. -/
def internet : Reader Timestamp := do
  let y ← fixed 4
  sign '-'
  let mo ← fixed 2
  sign '-'
  let d ← fixed 2
  separator
  let h ← fixed 2
  sign ':'
  let mi ← fixed 2
  sign ':'
  let s ← fixed 2
  let n ← fraction
  let east ← offset
  let date ← Date.of? y mo d
  let time ← Time.of? h mi s n
  Timestamp.addMinutes? ⟨date, time⟩ (-east)

/-- A date, a separator and a time without a fraction. -/
def civil (separate : Reader Unit) : Reader Timestamp := do
  let d ← date
  separate
  let t ← time false
  return ⟨d, t⟩

def timestamp? (s : List Char) : Option Timestamp :=
  (((internet <* finish).run s).or
    (((civil (sign 'T') <* finish).run s).or ((civil blanks <* finish).run s))).map Prod.fst

end Fixture.Calendar
