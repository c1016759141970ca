import Fixture.Binary64.Basic
import Fixture.Binary64.Text
import Fixture.Text

/-! Values of rule documents. Maps keep their entries sorted by key. A number is an integer that a
signed or an unsigned word of 64 bits holds, or a finite binary64 number, and the two never mix: 1 is
not 1.0. A value has a kind and a compact text; in messages it is described by the kind and at most
forty characters of the text. -/
namespace Fixture

def Value.intRange (n : Int) : Prop := -9223372036854775808 ≤ n ∧ n < 18446744073709551616

instance (n : Int) : Decidable (Value.intRange n) := inferInstanceAs (Decidable (_ ∧ _))

inductive Value where
  | null
  | bool (b : Bool)
  | int (n : Int) (range : Value.intRange n)
  | float (x : Binary64.Finite)
  | text (s : String)
  | list (items : List Value)
  | map (entries : List (String × Value))

namespace Value

instance : Inhabited Value := ⟨null⟩

/-- The value of a binary64 number; only finite ones have one. -/
def ofBinary64? (x : Binary64) : Option Value := x.finite?.map float

/-- An integer past the range is carried as the nearest binary64 number. -/
def ofInt (n : Int) : Value :=
  if h : intRange n then int n h else ((ofBinary64? (.ofInt n)).getD null)

theorem ofInt_of_range {n : Int} (h : intRange n) : ofInt n = int n h := by simp [ofInt, h]

mutual
/-- Equality of values; the two zeros among the floats are equal. -/
def same : Value → Value → Bool
  | null, null => true
  | bool a, bool b => a == b
  | int m _, int n _ => m == n
  | float x, float y => x.same y
  | text s, text t => s == t
  | list xs, list ys => sameItems xs ys
  | map xs, map ys => sameEntries xs ys
  | _, _ => false

def sameItems : List Value → List Value → Bool
  | [], [] => true
  | x :: xs, y :: ys => same x y && sameItems xs ys
  | _, _ => false

def sameEntries : List (String × Value) → List (String × Value) → Bool
  | [], [] => true
  | (k, x) :: xs, (l, y) :: ys => k == l && same x y && sameEntries xs ys
  | _, _ => false
end

mutual
theorem same_refl : ∀ v : Value, v.same v = true
  | null | bool _ | int _ _ | float _ | text _ => by simp [same, Binary64.Finite.same_refl]
  | list xs => by simp [same, sameItems_refl xs]
  | map xs => by simp [same, sameEntries_refl xs]

theorem sameItems_refl : ∀ xs : List Value, sameItems xs xs = true
  | [] => rfl
  | x :: xs => by simp [sameItems, same_refl x, sameItems_refl xs]

theorem sameEntries_refl : ∀ xs : List (String × Value), sameEntries xs xs = true
  | [] => rfl
  | (_, x) :: xs => by simp [sameEntries, same_refl x, sameEntries_refl xs]
end

/-- The entry of a key. -/
def entry? (key : String) : List (String × Value) → Option Value := List.lookup key

end Value

/-- The kinds of values, those of texts that denote something else included. -/
inductive ValueKind where
  | null | bool | int | float | text | date | time | timestamp | uuid | list | map | any
  deriving DecidableEq, Inhabited

namespace ValueKind

def all : List ValueKind :=
  [null, bool, int, float, text, date, time, timestamp, uuid, list, map, any]

def name : ValueKind → String
  | null => "null"
  | bool => "bool"
  | int => "int"
  | float => "float"
  | text => "text"
  | date => "date"
  | time => "time"
  | timestamp => "timestamp"
  | uuid => "uuid"
  | list => "list"
  | map => "map"
  | any => "any"

def ofName? (s : String) : Option ValueKind := all.find? (·.name == s)

end ValueKind

/-- The kind by form alone. -/
def Value.kind : Value → ValueKind
  | .null => .null
  | .bool _ => .bool
  | .int _ _ => .int
  | .float _ => .float
  | .text _ => .text
  | .list _ => .list
  | .map _ => .map

inductive ParamKind where
  | bool | int | float | text
  deriving DecidableEq

namespace ParamKind

def all : List ParamKind := [bool, int, float, text]

def name : ParamKind → String
  | bool => "bool"
  | int => "int"
  | float => "float"
  | text => "text"

/-- The value has the form of the kind, without any coercion. -/
def fits : ParamKind → Value → Bool
  | bool, .bool _ => true
  | int, .int _ _ => true
  | float, .int _ _ => true
  | float, .float _ => true
  | text, .text _ => true
  | _, _ => false

end ParamKind
end Fixture

namespace Fixture.Value

mutual
def render : Value → List Char
  | null => "null".toList
  | bool b => (if b then "true" else "false").toList
  | int n _ => Text.signedDecimal n
  | float x => x.text
  | text s => Text.quoted s.toList
  | list items => '[' :: renderItems items ++ [']']
  | map entries => '{' :: renderEntries entries ++ ['}']

def renderItems : List Value → List Char
  | [] => []
  | [v] => render v
  | v :: w :: vs => render v ++ ',' :: renderItems (w :: vs)

def renderEntries : List (String × Value) → List Char
  | [] => []
  | [(k, v)] => Text.quoted k.toList ++ ':' :: render v
  | (k, v) :: e :: es => Text.quoted k.toList ++ ':' :: render v ++ ',' :: renderEntries (e :: es)
end

def descriptionLength : Nat := 40

def describe (v : Value) : String :=
  let shown := v.render
  let shown :=
    if descriptionLength < shown.length then shown.take descriptionLength ++ ['.', '.', '.'] else shown
  v.kind.name ++ " " ++ String.ofList shown

end Fixture.Value
