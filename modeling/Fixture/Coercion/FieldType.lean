import Fixture.Calendar.Basic
import Fixture.Uuid
import Fixture.Value

/-! The types of fields, and what each of them holds. -/
namespace Fixture

inductive IntType where
  | int8 | int16 | int32 | int64 | intSize | nat8 | nat16 | nat32 | nat64 | natSize
  deriving DecidableEq

namespace IntType

def all : List IntType := [int8, int16, int32, int64, intSize, nat8, nat16, nat32, nat64, natSize]

def name : IntType → String
  | int8 => "i8"
  | int16 => "i16"
  | int32 => "i32"
  | int64 => "i64"
  | intSize => "isize"
  | nat8 => "u8"
  | nat16 => "u16"
  | nat32 => "u32"
  | nat64 => "u64"
  | natSize => "usize"

def signed : IntType → Bool
  | int8 | int16 | int32 | int64 | intSize => true
  | nat8 | nat16 | nat32 | nat64 | natSize => false

/-- How many integers the type has. -/
def size : IntType → Nat
  | int8 | nat8 => UInt8.size
  | int16 | nat16 => UInt16.size
  | int32 | nat32 => UInt32.size
  | int64 | nat64 | intSize | natSize => UInt64.size

def low (t : IntType) : Int := if t.signed then -(t.size / 2 : Nat) else 0

/-- The least integer past the type. -/
def high (t : IntType) : Int := t.low + t.size

def Holds (t : IntType) (n : Int) : Prop := t.low ≤ n ∧ n < t.high

instance (t : IntType) (n : Int) : Decidable (t.Holds n) := inferInstanceAs (Decidable (_ ∧ _))

theorem holds_int64 {n : Int} :
    int64.Holds n ↔ -9223372036854775808 ≤ n ∧ n < 9223372036854775808 := by
  rw [Holds, show int64.low = -9223372036854775808 by decide,
    show int64.high = 9223372036854775808 by decide]

theorem holds_nat64 {n : Int} : nat64.Holds n ↔ 0 ≤ n ∧ n < 18446744073709551616 := by
  rw [Holds, show nat64.low = 0 by decide, show nat64.high = 18446744073709551616 by decide]

theorem intRange_of_holds {t : IntType} {n : Int} (h : t.Holds n) : Value.intRange n := by
  cases t <;> simp only [Holds, low, high, signed, size, UInt8.size, UInt16.size, UInt32.size,
    UInt64.size, Bool.false_eq_true, if_true, if_false] at h <;>
    simp only [Value.intRange] <;> omega

end IntType

inductive FieldType where
  | value | bool | char | text | float64 | float32 | date | time | timestamp | instant | uuid
  | int (t : IntType)
  | option (t : FieldType)
  | list (t : FieldType)
  | map (t : FieldType)
  deriving DecidableEq

namespace FieldType

/-- An instant differs from a timestamp only in that it is known to be Greenwich time. -/
def Carrier : FieldType → Type
  | value => Value
  | bool => Bool
  | char => Char
  | text => String
  | float64 => Binary64
  | float32 => Binary64
  | date => Date
  | time => Time
  | timestamp => Timestamp
  | instant => Timestamp
  | uuid => Uuid
  | int t => { n : Int // t.Holds n }
  | option t => Option t.Carrier
  | list t => List t.Carrier
  | map t => List (String × t.Carrier)

def kind : FieldType → ValueKind
  | value => .any
  | bool => .bool
  | char | text => .text
  | float64 | float32 => .float
  | date => .date
  | time => .time
  | timestamp | instant => .timestamp
  | uuid => .uuid
  | int _ => .int
  | option t => t.kind
  | list _ => .list
  | map _ => .map

end FieldType
end Fixture
