import Fixture.Binary64.Text
import Fixture.Calendar.Reading
import Fixture.Coercion.FieldType
import Fixture.Value

/-! Values taken into field types. Numbers and dates may be written as texts, numbers widen, and
nothing that would change a number is accepted. -/
namespace Fixture

/-- A value that does not fit: what was expected, and what was found. -/
structure Mismatch where
  expected : String
  found : String
  deriving DecidableEq

namespace Mismatch

def message (m : Mismatch) : String := "expected " ++ m.expected ++ ", found " ++ m.found

def ofValue (expected : String) (v : Value) : Mismatch := ⟨expected, v.describe⟩

end Mismatch

namespace Value

/-- The value as a text, numbers and truth values included. -/
def asText? : Value → Option String
  | text s => some s
  | int n _ => some (String.ofList (Text.signedDecimal n))
  | float x => some (String.ofList x.text)
  | bool b => some (if b then "true" else "false")
  | _ => none

def text? : Value → Option String
  | text s => some s
  | _ => none

def asBool? : Value → Option Bool
  | bool b => some b
  | text s =>
    let t := Text.trim s.toList
    if t = "true".toList then some true else if t = "false".toList then some false else none
  | _ => none

def asChar? : Value → Option Char
  | text s => match s.toList with
    | [c] => some c
    | _ => none
  | _ => none

/-- The integer that a float is, if its magnitude has at most 63 bits. -/
def wholeFloat? (x : Binary64.Finite) : Option Int :=
  x.integer?.filter fun n => decide (n.natAbs < 9223372036854775808)

def asInt? (signed : Bool) : Value → Option Int
  | int n _ => some n
  | float x => wholeFloat? x
  | text s => Text.integer? signed (Text.trim s.toList)
  | _ => none

def asFloat? : Value → Option Binary64
  | int n _ => some (.ofInt n)
  | float x => some (.finite x)
  | text s => Binary64.read? (Text.trim s.toList)
  | _ => none

def asDate? (v : Value) : Option Date := do
  let s ← v.text?
  (Calendar.date? s.toList).or ((Calendar.timestamp? s.toList).map Timestamp.date)

def asTime? (v : Value) : Option Time := do Calendar.time? (← v.text?).toList

def asTimestamp? (v : Value) : Option Timestamp := do Calendar.timestamp? (← v.text?).toList

def asUuid? (v : Value) : Option Uuid := do Uuid.read? (← v.text?).toList

end Value

/-- The number as binary32, unless it is finite and past the largest of them. -/
def Binary64.single? (x : Binary64) : Option Binary64 :=
  match x with
  | .finite y => if y.units ≤ Binary64.singleMax then some x.toSingle else none
  | x => some x

namespace FieldType

/-- What was expected, in messages. -/
def name : FieldType → String
  | value => "any"
  | bool => "bool"
  | char => "char"
  | text => "string"
  | float64 => "f64"
  | float32 => "f32"
  | date => "date"
  | time => "time"
  | timestamp | instant => "timestamp"
  | uuid => "uuid"
  | int t => t.name
  | option t => t.name
  | list _ => "list"
  | map _ => "map"

/-- A value for a type that is not a container. -/
def scalar? : (t : FieldType) → Value → Option t.Carrier
  | value, v => some v
  | bool, v => v.asBool?
  | char, v => v.asChar?
  | text, v => v.asText?
  | float64, v => v.asFloat?
  | float32, v => v.asFloat?.bind Binary64.single?
  | date, v => v.asDate?
  | time, v => v.asTime?
  | timestamp, v => v.asTimestamp?
  | instant, v => v.asTimestamp?
  | uuid, v => v.asUuid?
  | int t, v => (v.asInt? t.signed).bind fun n => if h : t.Holds n then some ⟨n, h⟩ else none
  | option _, _ => none
  | list _, _ => none
  | map _, _ => none

def ofOption (expected : String) (v : Value) : Option α → Except Mismatch α
  | some x => .ok x
  | none => .error (.ofValue expected v)

/-- The value as one of the type. In a container the first element that does not fit is the error. -/
def coerce : (t : FieldType) → Value → Except Mismatch t.Carrier
  | option _, .null => .ok none
  | option t, v => (coerce t v).map some
  | list t, .list items => (items.mapM (coerce t) : Except Mismatch (List t.Carrier))
  | list _, v => .error (.ofValue "list" v)
  | map t, .map entries =>
    (entries.mapM (fun e => (coerce t e.2).map fun x => (e.1, x)) :
      Except Mismatch (List (String × t.Carrier)))
  | map _, v => .error (.ofValue "map" v)
  | t, v => ofOption t.name v (t.scalar? v)

end FieldType

/-- A value of the kind, the other kinds of texts and numbers being read as such. -/
def ValueKind.accepts (k : ValueKind) (v : Value) : Bool :=
  match k with
  | .any => true
  | .float => v.kind == .float || v.kind == .int
  | .date => (v.text?.bind fun s => Calendar.date? s.toList).isSome
  | .time => v.asTime?.isSome
  | .timestamp => v.asTimestamp?.isSome
  | .uuid => v.asUuid?.isSome
  | k => v.kind == k

end Fixture
