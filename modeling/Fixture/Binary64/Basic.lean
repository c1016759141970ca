/-! Numbers of the binary64 format. Every finite one is a whole number of units of 2^-1074, so its
magnitude is kept as that count, and comparison, addition and rounding are exact on naturals. -/
namespace Fixture

/-- The quotient `n / d` rounded to the nearest natural, a tie to the even one. -/
def nearest (n d : Nat) : Nat :=
  let q := n / d
  let r := 2 * (n % d)
  if r < d then q else if d < r then q + 1 else q + q % 2

theorem le_nearest (n d : Nat) : n / d ≤ nearest n d := by
  simp only [nearest]; split <;> (try split) <;> omega

theorem nearest_le (n d : Nat) : nearest n d ≤ n / d + 1 := by
  simp only [nearest]; split <;> (try split) <;> omega

theorem nearest_mul (n d : Nat) (hd : 0 < d) : nearest (n * d) d = n := by
  simp [nearest, Nat.mul_div_cancel _ hd, hd]

/-- How many low bits of `n` lie below the first `precision` ones. -/
def excessBits (precision n : Nat) : Nat := n.log2 + 1 - precision

/-- The quotient `n / d` rounded to `precision` significant bits, a tie to the even one. -/
def significant (precision n d : Nat) : Nat :=
  let k := excessBits precision (n / d)
  nearest n (d * Nat.pow 2 k) * Nat.pow 2 k

namespace Binary64

def precision : Nat := 53

/-- The number one, in units. -/
def one : Nat := Nat.pow 2 1074

/-- The least magnitude past the finite ones, in units. -/
def limit : Nat := Nat.pow 2 2098

def Fits (units : Nat) : Prop :=
  units < limit ∧ units % Nat.pow 2 (excessBits precision units) = 0

instance (units : Nat) : Decidable (Fits units) := inferInstanceAs (Decidable (_ ∧ _))

theorem significant_of_fits {u : Nat} (h : Fits u) : significant precision u 1 = u := by
  obtain ⟨m, hm⟩ := Nat.dvd_of_mod_eq_zero h.2
  simp only [significant, Nat.div_one, Nat.one_mul]
  generalize excessBits precision u = k at hm
  subst hm
  rw [Nat.mul_comm (Nat.pow 2 k) m, nearest_mul m (Nat.pow 2 k) (Nat.two_pow_pos k)]

theorem fits_zero : Fits 0 := by
  refine ⟨?_, Nat.zero_mod _⟩
  unfold limit
  apply Nat.pow_pos
  decide

/-- A finite number: its sign, which zero has too, and its magnitude in units. -/
structure Finite where
  negative : Bool
  units : Nat
  fits : Fits units
  deriving DecidableEq

namespace Finite

def zero (negative : Bool) : Finite := ⟨negative, 0, fits_zero⟩

instance : Inhabited Finite := ⟨zero false⟩

def signed (x : Finite) : Int := if x.negative then -x.units else x.units

/-- Equality as numbers, the two zeros being equal. -/
def same (x y : Finite) : Bool := x.signed == y.signed

theorem same_refl (x : Finite) : x.same x := by simp [same]

/-- The integer that `x` is, if it is one. -/
def integer? (x : Finite) : Option Int :=
  if x.units % one = 0 then
    some (if x.negative then -(x.units / one : Nat) else (x.units / one : Nat))
  else none

end Finite
end Binary64

inductive Binary64 where
  | finite (x : Binary64.Finite)
  | infinite (negative : Bool)
  | nan
  deriving DecidableEq

namespace Binary64

def ofUnits (negative : Bool) (units : Nat) : Binary64 :=
  if h : Fits units then finite ⟨negative, units, h⟩ else infinite negative

/-- The number nearest to `n / d` units. -/
def round (negative : Bool) (n d : Nat) : Binary64 :=
  ofUnits negative (significant precision n d)

theorem round_of_fits (negative : Bool) {u : Nat} (h : Fits u) :
    round negative u 1 = finite ⟨negative, u, h⟩ := by
  have := significant_of_fits h
  simp [round, ofUnits, this, h]

def ofInt (n : Int) : Binary64 := round (decide (n < 0)) (n.natAbs * one) 1

def finite? : Binary64 → Option Finite
  | finite x => some x
  | _ => none

def isFinite (x : Binary64) : Bool := x.finite?.isSome

/-- Comparison as numbers; nothing compares with NaN. -/
def le : Binary64 → Binary64 → Bool
  | nan, _ | _, nan => false
  | infinite s, infinite t => s || !t
  | infinite s, finite _ => s
  | finite _, infinite t => !t
  | finite x, finite y => decide (x.signed ≤ y.signed)

def lt : Binary64 → Binary64 → Bool
  | nan, _ | _, nan => false
  | infinite s, infinite t => s && !t
  | infinite s, finite _ => s
  | finite _, infinite t => !t
  | finite x, finite y => decide (x.signed < y.signed)

def negate : Binary64 → Binary64
  | nan => nan
  | infinite s => infinite !s
  | finite x => finite { x with negative := !x.negative }

def add : Binary64 → Binary64 → Binary64
  | nan, _ | _, nan => nan
  | infinite s, infinite t => if s = t then infinite s else nan
  | infinite s, finite _ | finite _, infinite s => infinite s
  | finite x, finite y =>
    let s := x.signed + y.signed
    if s = 0 then finite (.zero (x.negative && y.negative)) else round (decide (s < 0)) s.natAbs 1

def sub (x y : Binary64) : Binary64 := x.add y.negate

def mul : Binary64 → Binary64 → Binary64
  | nan, _ | _, nan => nan
  | infinite s, infinite t => infinite (s ^^ t)
  | infinite s, finite x | finite x, infinite s =>
    if x.units = 0 then nan else infinite (s ^^ x.negative)
  | finite x, finite y => round (x.negative ^^ y.negative) (x.units * y.units) one

def div : Binary64 → Binary64 → Binary64
  | nan, _ | _, nan => nan
  | infinite _, infinite _ => nan
  | infinite s, finite x => infinite (s ^^ x.negative)
  | finite x, infinite s => finite (.zero (x.negative ^^ s))
  | finite x, finite y =>
    if y.units = 0 then
      if x.units = 0 then nan else infinite (x.negative ^^ y.negative)
    else round (x.negative ^^ y.negative) (x.units * one) y.units

/-- The nearest whole number, a half going away from zero. -/
def roundHalfAway : Binary64 → Binary64
  | finite x => ofUnits x.negative ((2 * x.units + one) / (2 * one) * one)
  | x => x

/-- The number in `[low, high]` closest to `x`; NaN stays. -/
def clamp (x low high : Binary64) : Binary64 :=
  if x.lt low then low else if high.lt x then high else x

/-- The unit of the binary32 format, in units. -/
def singleUnit : Nat := Nat.pow 2 925

/-- The largest finite binary32 number, in units. -/
def singleMax : Nat := 16777215 * Nat.pow 2 1178

/-- The nearest number that the binary32 format holds. -/
def toSingle : Binary64 → Binary64
  | finite x => ofUnits x.negative (significant 24 x.units singleUnit * singleUnit)
  | x => x

end Binary64
end Fixture
