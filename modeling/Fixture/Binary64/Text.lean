import Fixture.Binary64.Basic
import Fixture.Text

/-! Texts of binary64 numbers. They are written with the fewest significant digits that read back, of
those the nearest to the number; where two are equally near, a document has the one with an even last
digit and a message the greater one. Read is an optional sign, then `inf`, `infinity` or `nan` in any
case, or digits with an optional point and an optional exponent, at least one digit standing beside the
point. -/
namespace Fixture.Binary64

/-- Which of two equally near decimals is taken. -/
inductive Tie where
  | even | greater

/-- The quotient `n / d` rounded to the nearest natural number. -/
def Tie.nearest : Tie → Nat → Nat → Nat
  | even, n, d => Fixture.nearest n d
  | greater, n, d => (2 * n + d) / (2 * d)

/-- The number `digits * 10 ^ exponent`. -/
structure Decimal where
  digits : Nat
  exponent : Int
  deriving DecidableEq

namespace Decimal

/-- Numerator and denominator of the number counted in units. -/
def ratio (d : Decimal) : Nat × Nat :=
  match d.exponent with
  | .ofNat e => (d.digits * Nat.pow 10 e * one, 1)
  | .negSucc e => (d.digits * one, Nat.pow 10 (e + 1))

/-- The nearest binary64 number. Beyond `10 ^ 310` and below `10 ^ (-330)` no power is computed. -/
def toBinary (negative : Bool) (d : Decimal) : Binary64 :=
  if d.digits = 0 then finite (.zero negative)
  else
    let top := d.exponent + (Text.decimal d.digits).length
    if 310 < top then infinite negative
    else if top < -330 then finite (.zero negative)
    else round negative d.ratio.1 d.ratio.2

end Decimal

namespace Finite

/-- The power of ten of the first significant digit. -/
def magnitude (x : Finite) : Int :=
  ((Text.decimal (x.units * Nat.pow 10 324 / one)).length : Int) - 325

/-- Numerator and denominator of the magnitude counted in `10 ^ exponent`. -/
def inPower (x : Finite) : Int → Nat × Nat
  | .ofNat e => (x.units, one * Nat.pow 10 e)
  | .negSucc e => (x.units * Nat.pow 10 (e + 1), one)

def readsBack (x : Finite) (d : Decimal) : Bool := decide (d.toBinary x.negative = finite x)

/-- The decimal on the grid of `10 ^ exponent` that reads back and is nearest to `x`, if any. -/
def onGrid? (tie : Tie) (x : Finite) (exponent : Int) : Option Decimal :=
  let (n, d) := x.inPower exponent
  let low : Decimal := ⟨n / d, exponent⟩
  let high : Decimal := ⟨n / d + 1, exponent⟩
  match x.readsBack low, x.readsBack high with
  | true, true => some (if tie.nearest n d = n / d then low else high)
  | true, false => some low
  | false, true => some high
  | false, false => none

/-- The first of the grids that has a decimal for `x`. -/
def firstGrid? (tie : Tie) (x : Finite) : List Int → Option Decimal
  | [] => none
  | e :: es => (x.onGrid? tie e).or (x.firstGrid? tie es)

/-- The number itself, without rounding. -/
def exact (x : Finite) : Decimal := ⟨x.units * Nat.pow 5 1074, -1074⟩

def shortest (tie : Tie) (x : Finite) : Decimal :=
  (x.firstGrid? tie ((List.range 17).map fun n : Nat => x.magnitude - n)).getD x.exact

theorem readsBack_of_onGrid? {tie : Tie} {x : Finite} {e : Int} {d : Decimal}
    (h : x.onGrid? tie e = some d) : x.readsBack d := by
  simp only [onGrid?] at h
  split at h
  · rename_i hl hh
    split at h <;> cases h <;> assumption
  all_goals first | (cases h; assumption) | cases h

theorem readsBack_of_firstGrid? {tie : Tie} {x : Finite} {es : List Int} {d : Decimal}
    (h : x.firstGrid? tie es = some d) : x.readsBack d := by
  induction es with
  | nil => simp [firstGrid?] at h
  | cons e es ih =>
    rcases Option.or_eq_some_iff.1 h with h | ⟨-, h⟩
    · exact readsBack_of_onGrid? h
    · exact ih h

end Finite

/-- Significant digits without trailing zeros, and the power of ten of the first. -/
structure Scientific where
  digits : List Char
  exponent : Int

def Finite.scientific (tie : Tie) (x : Finite) : Scientific :=
  let d := x.shortest tie
  let ds := Text.decimal d.digits
  ⟨(ds.reverse.dropWhile (· == '0')).reverse, d.exponent + ds.length - 1⟩

namespace Scientific

/-- Positional notation; a whole number is followed by `whole`. -/
def positional (s : Scientific) (whole : List Char) : List Char :=
  match s.exponent with
  | .ofNat e =>
    let ds := s.digits ++ List.replicate (e + 1 - s.digits.length) '0'
    ds.take (e + 1) ++ (if s.digits.length ≤ e + 1 then whole else '.' :: ds.drop (e + 1))
  | .negSucc e => '0' :: '.' :: List.replicate e '0' ++ s.digits

def exponential (s : Scientific) : List Char :=
  let e := Text.signedDecimal s.exponent
  s.digits.take 1 ++ (if s.digits.length ≤ 1 then [] else '.' :: s.digits.drop 1) ++
    'e' :: (if s.exponent < 0 then e else '+' :: e)

end Scientific

namespace Finite

def signText (x : Finite) : List Char := if x.negative then ['-'] else []

/-- The text as a number of a document: never without a point or an exponent, positional when the
first digit counts `10 ^ e` with `-5 ≤ e ≤ 15`. -/
def text (x : Finite) : List Char :=
  x.signText ++
    if x.units = 0 then ['0', '.', '0']
    else
      let s := x.scientific .even
      if -5 ≤ s.exponent ∧ s.exponent ≤ 15 then s.positional ['.', '0'] else s.exponential

/-- The text in messages: always positional, and a whole number has no point. -/
def plainText (x : Finite) : List Char :=
  x.signText ++ if x.units = 0 then ['0'] else (x.scientific .greater).positional []

end Finite

def special : Binary64 → List Char
  | infinite true => ['-', 'i', 'n', 'f']
  | infinite false => ['i', 'n', 'f']
  | _ => ['N', 'a', 'N']

def text : Binary64 → List Char
  | finite x => x.text
  | x => x.special

def plainText : Binary64 → List Char
  | finite x => x.plainText
  | x => x.special

def digitRun (s : List Char) : List Char × List Char := (s.takeWhile Char.isDigit, s.dropWhile Char.isDigit)

/-- Digits before and after the point, and what follows. -/
def mantissa (s : List Char) : List Char × List Char × List Char :=
  match digitRun s with
  | (whole, '.' :: r) => (whole, (digitRun r).1, (digitRun r).2)
  | (whole, r) => (whole, [], r)

/-- The exponent written after the mantissa, zero if there is none; it takes up all the rest. -/
def exponent? : List Char → Option Int
  | [] => some 0
  | c :: r => if c = 'e' ∨ c = 'E' then Text.integer? true r else none

def unsigned? (negative : Bool) (s : List Char) : Option Binary64 :=
  let (whole, fraction, rest) := mantissa s
  if whole = [] ∧ fraction = [] then none
  else (exponent? rest).map fun e =>
    Decimal.toBinary negative ⟨Text.digitsValue (whole ++ fraction), e - fraction.length⟩

def word? (negative : Bool) (s : List Char) : Option Binary64 :=
  let w := String.ofList (s.map Char.toLower)
  if w = "inf" ∨ w = "infinity" then some (infinite negative)
  else if w = "nan" then some nan
  else unsigned? negative s

def read? : List Char → Option Binary64
  | '+' :: s => word? false s
  | '-' :: s => word? true s
  | s => word? false s

end Fixture.Binary64
