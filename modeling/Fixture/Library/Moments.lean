import Fixture.Calendar.Pattern
import Fixture.Calendar.Reading
import Fixture.Catalogue.Basic
import Fixture.Draw.Range

/-! Generators of dates and times. Without bounds a date lies between the years 2000 and 2030. -/
namespace Fixture.Library

def firstDay : Date := ⟨2000, 1, 1, by decide⟩

def lastDay : Date := ⟨2030, 12, 31, by decide⟩

/-- The numbers of the days from one date to another, counted from the first. -/
def dayRange (low high : Date) : IntRange :=
  ⟨0, max 0 (high.dayNumber - low.dayNumber), Int.le_max_left _ _⟩

def drawDate (low high : Date) : Attempt Stop Date := do
  let n ← Draw.integer (dayRange low high)
  match Date.ofDayNumber? (low.dayNumber + n) with
  | some d => return d
  | none => throw .dateOverflow

def drawTime : Draw Time := do
  return Time.ofSecond (← Draw.index 86400 (by decide))

def drawTimestamp : Attempt Stop Timestamp := do
  let date ← drawDate firstDay lastDay
  return ⟨date, ← drawTime⟩

def textValue (s : List Char) : Value := .text (String.ofList s)

/-- The pattern, if it is one and fits the sample. -/
def fittingPattern (directive : String) (sample : Calendar.Moment) (args : Arguments) :
    Except Fault (List Calendar.Piece) := do
  let s ← args.text 0
  match Calendar.pattern? s.toList with
  | none => .error (.badArgument directive (.format s))
  | some parts =>
    match Calendar.layOut sample parts with
    | none => .error (.badArgument directive .formatMisfit)
    | some _ => return parts

def laidOut (directive : String) (parts : List Calendar.Piece) (m : Calendar.Moment) :
    Except Fault Value :=
  match Calendar.layOut m parts with
  | none => .error (.badArgument directive .formatMisfit)
  | some s => .ok (textValue s)

/-- A generator for a pattern, whose parts must fit every value that `draw` can give. What is not a
pattern applies to no value. -/
def patterned (name description : String) (sample : Calendar.Moment)
    (draw : Attempt Stop Calendar.Moment) : Generator where
  name
  params := [.text]
  output := .text
  description
  validate _ args := (fittingPattern name sample args).map fun _ => ()
  generate _ args := do
    let s ← args.text 0
    let m ← draw.stopping
    match Calendar.pattern? s.toList with
    | some parts => laidOut name parts m
    | none => throw (.badArgument name .formatMisfit)

def dateDescription : String := "calendar date: (), (format) or (min, max) as YYYY-MM-DD"

def date : Generator :=
  .ofAttempt "date" [] .date dateDescription fun _ _ => do
    return textValue (← drawDate firstDay lastDay).text

def datePatterned : Generator :=
  patterned "date" dateDescription { date := some .epoch } (do
    return { date := some (← drawDate firstDay lastDay) })

def dateArgument (args : Arguments) (index : Nat) : Except Fault Date := do
  let s ← args.text index
  match Calendar.date? s.toList with
  | some d => return d
  | none => .error (.badArgument "date" (.notDate s))

def dateBetween : Generator :=
  .ofPlan "date" [.text, .text] .date dateDescription fun _ args => do
    let low ← dateArgument args 0
    let high ← dateArgument args 1
    if low.le high then return Attempt.stopping (do return textValue (← drawDate low high).text)
    else .error (.badArgument "date" (.dateOrder low high))

def timeDescription : String := "time of day, HH:MM:SS or a custom format"

def time : Generator :=
  .ofDraw "time" [] .time timeDescription fun _ _ => do return textValue (← drawTime).text

def timePatterned : Generator :=
  patterned "time" timeDescription { time := some .midnight } (do
    return { time := some (← drawTime) })

def datetimeDescription : String := "date and time, ISO 8601 or a custom format"

def datetime : Generator :=
  .ofAttempt "datetime" [] .timestamp datetimeDescription fun _ _ => do
    let t ← drawTimestamp
    return textValue (t.date.text ++ 'T' :: t.time.text)

def datetimePatterned : Generator :=
  patterned "datetime" datetimeDescription { date := some .epoch, time := some .midnight } (do
    let t ← drawTimestamp
    return { date := some t.date, time := some t.time })

def timestamp : Generator :=
  .ofAttempt "timestamp" [] .int "unix epoch milliseconds" fun _ _ => do
    return .ofInt (1000 * (← drawTimestamp).unixSeconds)

def moments : List Generator :=
  [date, datePatterned, dateBetween, time, datetime, timePatterned, datetimePatterned, timestamp]

end Fixture.Library
