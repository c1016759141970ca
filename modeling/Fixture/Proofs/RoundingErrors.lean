import Fixture.Proofs.FloatDraws
import Mathlib.Algebra.Order.Field.Basic
import Mathlib.Algebra.Order.Ring.Rat
import Mathlib.Data.Rat.Cast.Order
import Mathlib.Tactic.FieldSimp
import Mathlib.Tactic.Linarith
import Mathlib.Tactic.Ring

/-! How far rounding takes a number. A number of the format is an exact rational; rounding a quotient to
significant bits, and a number to the nearest whole one, is off by half a unit at most, and a product
becomes infinite from the middle between the largest number and the limit on. -/
namespace Fixture

section Nearest
variable {n d : Nat}

theorem two_mul_le_nearest (n : Nat) {d : Nat} (hd : 0 < d) :
    2 * n ≤ 2 * (nearest n d * d) + d := by
  have hdiv := Nat.div_add_mod n d
  have hmod := Nat.mod_lt n hd
  have hdown : n / d * d = d * (n / d) := Nat.mul_comm _ _
  have hup : (n / d + 1) * d = d * (n / d) + d := by rw [Nat.add_mul, Nat.one_mul, hdown]
  simp only [nearest]
  split
  · omega
  · split
    · omega
    · have htie : n / d * d ≤ (n / d + n / d % 2) * d := Nat.mul_le_mul_right _ (Nat.le_add_right _ _)
      omega

theorem abs_nearest_sub_le (n : Nat) (hd : 0 < d) : |(nearest n d * d : ℚ) - n| ≤ d / 2 := by
  have hup : (2 * (nearest n d * d) : ℚ) ≤ 2 * n + d := by exact_mod_cast two_mul_nearest_le n hd
  have hdown : (2 * n : ℚ) ≤ 2 * (nearest n d * d) + d := by exact_mod_cast two_mul_le_nearest n hd
  rw [abs_le]
  constructor <;> linarith

/-- From the middle on an odd quotient is rounded up, a tie included. -/
theorem lt_nearest_of_half {q : Nat} (hd : 0 < d) (hq : q % 2 = 1) (h : (2 * q + 1) * d ≤ 2 * n) :
    q < nearest n d := by
  have hq_le : q ≤ n / d := by
    rw [Nat.le_div_iff_mul_le hd]
    rw [Nat.add_mul, Nat.one_mul, Nat.mul_assoc] at h
    omega
  rcases Nat.lt_or_eq_of_le hq_le with hlt | rfl
  · exact Nat.lt_of_lt_of_le hlt (le_nearest n d)
  · have hdiv := Nat.div_add_mod n d
    have hhalf : d ≤ 2 * (n % d) := by
      rw [Nat.add_mul, Nat.one_mul, Nat.mul_assoc, Nat.mul_comm (n / d)] at h
      omega
    simp only [nearest]
    split
    · omega
    · split <;> omega

end Nearest

section Limit
variable {precision d w k : Nat}

/-- The middle between the limit and the largest number below it is rounded to the limit, the number
being odd. -/
theorem two_pow_le_significant (hp : 0 < precision) (hd : 0 < d)
    (h : Nat.pow 2 (precision + (k + 1)) ≤ w + Nat.pow 2 k) :
    Nat.pow 2 (precision + (k + 1)) ≤ significant precision (w * d) d := by
  have hquotient : w * d / d = w := Nat.mul_div_cancel w hd
  rcases Nat.lt_or_ge w (Nat.pow 2 (precision + (k + 1))) with hw | hw
  · have hbits : excessBits precision (w * d / d) = k + 1 := by
      rw [hquotient]
      refine Nat.le_antisymm (excessBits_le_of_lt hp hw) (Nat.not_lt.1 fun hlt => ?_)
      have hsmall := lt_two_pow_excessBits precision w
      have hle : Nat.pow 2 (precision + excessBits precision w) ≤ Nat.pow 2 (precision + k) :=
        Nat.pow_le_pow_right (by decide) (by omega)
      have hunit : Nat.pow 2 k ≤ Nat.pow 2 (precision + k) :=
        Nat.pow_le_pow_right (by decide) (by omega)
      have hdouble : Nat.pow 2 (precision + (k + 1)) = Nat.pow 2 (precision + k) * 2 := rfl
      omega
    obtain ⟨p, rfl⟩ : ∃ p, precision = p + 1 := ⟨precision - 1, by omega⟩
    obtain ⟨m, hm⟩ : ∃ m, Nat.pow 2 (p + 1) = m + 1 :=
      ⟨_, (Nat.sub_add_cancel (Nat.two_pow_pos (p + 1))).symm⟩
    have hodd : m % 2 = 1 := by
      have hsucc : Nat.pow 2 (p + 1) = Nat.pow 2 p * 2 := rfl
      omega
    have hsum : Nat.pow 2 (p + 1 + (k + 1)) = Nat.pow 2 (p + 1) * Nat.pow 2 (k + 1) :=
      Nat.pow_add 2 (p + 1) (k + 1)
    have hhalf : (2 * m + 1) * (d * Nat.pow 2 (k + 1)) ≤ 2 * (w * d) := by
      have hw_le : (2 * m + 1) * Nat.pow 2 k ≤ w := by
        rw [hsum, hm] at h
        have hsplit : (m + 1) * Nat.pow 2 (k + 1) = (2 * m + 1) * Nat.pow 2 k + Nat.pow 2 k := by
          rw [show Nat.pow 2 (k + 1) = Nat.pow 2 k * 2 from rfl]
          ring
        omega
      calc (2 * m + 1) * (d * Nat.pow 2 (k + 1))
          = 2 * ((2 * m + 1) * Nat.pow 2 k * d) := by
            rw [show Nat.pow 2 (k + 1) = Nat.pow 2 k * 2 from rfl]
            ring
        _ ≤ 2 * (w * d) := Nat.mul_le_mul_left _ (Nat.mul_le_mul_right _ hw_le)
    have hnearest := lt_nearest_of_half (Nat.mul_pos hd (Nat.two_pow_pos _)) hodd hhalf
    rw [hsum, hm]
    unfold significant
    rw [hbits]
    exact Nat.mul_le_mul_right _ hnearest
  · have hone := le_significant (n := w * d) (m := 1) (k := precision + (k + 1)) hp hd
      (Nat.one_lt_two_pow (by omega)) (by
        rw [Nat.one_mul]
        exact Nat.mul_le_mul_right _ hw)
    rwa [Nat.one_mul] at hone

theorem significant_lt_two_pow (hp : 0 < precision) (hd : 0 < d)
    (h : w + Nat.pow 2 k < Nat.pow 2 (precision + (k + 1))) :
    significant precision (w * d) d < Nat.pow 2 (precision + (k + 1)) := by
  have hbits : excessBits precision (w * d / d) ≤ k + 1 := by
    rw [Nat.mul_div_cancel w hd]
    exact excessBits_le_of_lt hp (Nat.lt_of_le_of_lt (Nat.le_add_right _ _) h)
  have hunit : Nat.pow 2 (excessBits precision (w * d / d)) ≤ Nat.pow 2 k * 2 :=
    Nat.pow_le_pow_right (by decide) hbits
  have hround := two_mul_nearest_le (d := d * Nat.pow 2 (excessBits precision (w * d / d))) (w * d)
    (Nat.mul_pos hd (Nat.two_pow_pos _))
  have hsig : significant precision (w * d) d =
      nearest (w * d) (d * Nat.pow 2 (excessBits precision (w * d / d))) *
        Nat.pow 2 (excessBits precision (w * d / d)) := rfl
  rw [hsig]
  generalize Nat.pow 2 (excessBits precision (w * d / d)) = unit at hunit hround
  have hround : d * (2 * (nearest (w * d) (d * unit) * unit)) ≤ d * (2 * w + unit) := by
    calc d * (2 * (nearest (w * d) (d * unit) * unit))
        = 2 * (nearest (w * d) (d * unit) * (d * unit)) := by ring
      _ ≤ 2 * (w * d) + d * unit := hround
      _ = d * (2 * w + unit) := by ring
  have hround := Nat.le_of_mul_le_mul_left hround hd
  have htop : Nat.pow 2 (precision + (k + 1)) = Nat.pow 2 (precision + k) * 2 := rfl
  omega

end Limit

namespace Binary64

section Significant
variable {n d : Nat}

/-- If bits are dropped, twice the number has `2 ^ 53` units in the last place or more. -/
theorem unit_le (n : Nat) (hd : 0 < d) :
    (d * Nat.pow 2 (excessBits precision (n / d)) : ℚ) ≤ 2 * n / 2 ^ 53 + d := by
  have hn : (0 : ℚ) ≤ 2 * n / 2 ^ 53 := by positivity
  cases hk : excessBits precision (n / d) with
  | zero =>
    have hone : (Nat.pow 2 0 : ℚ) = 1 := rfl
    rw [hone]
    linarith
  | succ i =>
    have hfirst := two_pow_le_of_lt_excessBits (by decide) (by omega : i < excessBits precision (n / d))
    rw [Nat.le_div_iff_mul_le hd] at hfirst
    have hbits : Nat.pow 2 53 * (d * Nat.pow 2 (i + 1)) ≤ 2 * n := by
      calc Nat.pow 2 53 * (d * Nat.pow 2 (i + 1))
          = 2 * (Nat.pow 2 (precision + i) * d) := by
            rw [show Nat.pow 2 (precision + i) = Nat.pow 2 precision * Nat.pow 2 i from
              Nat.pow_add 2 precision i]
            show Nat.pow 2 53 * (d * (Nat.pow 2 i * 2)) = 2 * (Nat.pow 2 53 * Nat.pow 2 i * d)
            ring
        _ ≤ 2 * n := Nat.mul_le_mul_left _ hfirst
    have hbits : (2 ^ 53 * (d * Nat.pow 2 (i + 1)) : ℚ) ≤ 2 * n := by exact_mod_cast hbits
    have hd : (0 : ℚ) ≤ d := Nat.cast_nonneg d
    have hdiv : (d * Nat.pow 2 (i + 1) : ℚ) ≤ 2 * n / 2 ^ 53 := by
      rw [le_div_iff₀ (by positivity)]
      linarith
    linarith

/-- Rounding to significant bits is off by half a unit in the last place: relatively by `2 ^ (-53)`, or by
half of one where no bits are dropped. -/
theorem abs_significant_sub_le (n : Nat) (hd : 0 < d) :
    |(significant precision n d * d : ℚ) - n| ≤ n / 2 ^ 53 + d / 2 := by
  have hpos : 0 < d * Nat.pow 2 (excessBits precision (n / d)) := Nat.mul_pos hd (Nat.two_pow_pos _)
  have hnearest := abs_nearest_sub_le n hpos
  have hunit := unit_le n hd
  have hsig : (significant precision n d * d : ℚ) =
      nearest n (d * Nat.pow 2 (excessBits precision (n / d))) *
        (d * Nat.pow 2 (excessBits precision (n / d)) : Nat) := by
    unfold significant
    push_cast
    ring
  rw [hsig]
  push_cast at hnearest ⊢
  linarith

end Significant

/-- The whole number nearest to a magnitude is half of one away at most. -/
theorem abs_wholeUnits_sub_le (u : Nat) :
    |((2 * u + one) / (2 * one) * one : Nat) - (u : ℚ)| ≤ one / 2 := by
  have hpos : 0 < 2 * one := Nat.mul_pos (by decide) one_units_pos
  have hdiv := Nat.div_add_mod (2 * u + one) (2 * one)
  have hmod := Nat.mod_lt (2 * u + one) hpos
  generalize (2 * u + one) / (2 * one) = q at hdiv
  rw [Nat.mul_assoc, Nat.mul_comm one] at hdiv
  have hlow : (2 * (q * one : Nat) : ℚ) ≤ 2 * u + one := by exact_mod_cast (by omega)
  have hhigh : (2 * u : ℚ) ≤ 2 * (q * one : Nat) + one := by exact_mod_cast (by omega)
  rw [abs_le]
  constructor <;> linarith

theorem one_eq : one = Nat.pow 2 1074 := by decide +kernel

theorem fits_wholeUnits {u : Nat} (h : Fits u) : Fits ((2 * u + one) / (2 * one) * one) := by
  have hpos : 0 < 2 * one := Nat.mul_pos (by decide) one_units_pos
  rcases Nat.lt_or_ge u (Nat.pow 2 precision * one) with hu | hu
  · have hq : (2 * u + one) / (2 * one) ≤ Nat.pow 2 precision := by
      have hsplit : (Nat.pow 2 precision + 1) * (2 * one) =
          2 * (Nat.pow 2 precision * one) + 2 * one := by ring
      rw [← Nat.lt_succ_iff, Nat.succ_eq_add_one, Nat.div_lt_iff_lt_mul hpos, hsplit]
      omega
    generalize (2 * u + one) / (2 * one) = q at hq
    rw [one_eq]
    exact fits_of_exponent_lt hq (by decide)
  · obtain ⟨m, k, hm, rfl⟩ := exists_of_fits h
    have hk : 1074 ≤ k := by
      by_contra hlt
      have hle : Nat.pow 2 k ≤ Nat.pow 2 1074 :=
        Nat.pow_le_pow_right (by decide) (Nat.le_of_not_le hlt)
      have hlt := Nat.mul_lt_mul_of_lt_of_le hm hle (Nat.two_pow_pos 1074)
      rw [one_eq] at hu
      omega
    obtain ⟨c, hc⟩ : Nat.pow 2 1074 ∣ m * Nat.pow 2 k :=
      Nat.dvd_trans (Nat.pow_dvd_pow 2 hk) (Nat.dvd_mul_left _ _)
    rw [← one_eq] at hc
    have hquotient : (2 * (one * c) + one) / (2 * one) = c := by
      have hsplit : 2 * (one * c) + one = one + c * (2 * one) := by ring
      rw [hsplit, Nat.add_mul_div_right _ _ hpos, Nat.div_eq_of_lt (by omega), Nat.zero_add]
    rw [hc] at h ⊢
    rwa [hquotient, Nat.mul_comm]

theorem exists_roundHalfAway (x : Finite) :
    ∃ y : Finite, (finite x).roundHalfAway = finite y ∧ y.negative = x.negative ∧
      |(y.units : ℚ) - x.units| ≤ one / 2 := by
  have hfits := fits_wholeUnits x.fits
  refine ⟨⟨x.negative, _, hfits⟩, ?_, rfl, abs_wholeUnits_sub_le x.units⟩
  rw [roundHalfAway, ofUnits, dif_pos hfits]

/-- The number as an exact rational. -/
def Finite.toRat (x : Finite) : ℚ := x.signed / one

/-- The middle between the largest number and `2 ^ 1024`, from which on rounding makes a number
infinite. -/
def overflow : ℚ := 2 ^ 1024 - 2 ^ 970

section Exact
variable {x y : Finite}

theorem one_pos : (0 : ℚ) < one := by exact_mod_cast one_units_pos

theorem Finite.toRat_le_toRat : x.toRat ≤ y.toRat ↔ x.signed ≤ y.signed := by
  rw [toRat, toRat, div_le_div_iff_of_pos_right one_pos, Int.cast_le]

theorem Finite.abs_toRat (x : Finite) : |x.toRat| = x.units / one := by
  rw [toRat, abs_div, abs_of_pos one_pos, x.units_eq, Nat.cast_natAbs, Int.cast_abs]

theorem Finite.abs_toRat_sub (h : x.negative = y.negative) :
    |x.toRat - y.toRat| = |(x.units : ℚ) - y.units| / one := by
  rw [toRat, toRat, ← sub_div, abs_div, abs_of_pos one_pos, signed, signed, h]
  cases y.negative
  · rfl
  · rw [if_pos rfl, if_pos rfl, Int.cast_neg, Int.cast_neg, ← neg_sub', abs_neg]
    rfl

theorem abs_sub_le_of_mul_one {a b c : ℚ} (h : |a * one - b * one| ≤ c * one) : |a - b| ≤ c := by
  rw [← sub_mul, abs_mul, abs_of_pos one_pos] at h
  exact le_of_mul_le_mul_right h one_pos

theorem limit_eq : limit = Nat.pow 2 (precision + (2044 + 1)) := by decide +kernel

/-- When a product by a natural number is rounded to an infinity, in units. -/
theorem overflow_le_iff (x : Finite) (factor : Nat) :
    overflow ≤ |x.toRat| * factor ↔
      Nat.pow 2 (precision + (2044 + 1)) ≤ x.units * factor + Nat.pow 2 2044 := by
  have hcast (k : Nat) : (Nat.pow 2 k : ℚ) = 2 ^ k := Nat.cast_pow 2 k
  have hmiddle : overflow * one = Nat.pow 2 (precision + (2044 + 1)) - Nat.pow 2 2044 := by
    have hlimit : 1024 + 1074 = precision + (2044 + 1) := rfl
    have hunit : 970 + 1074 = 2044 := rfl
    rw [overflow, one_eq, hcast, sub_mul, ← pow_add, ← pow_add, hlimit, hunit, hcast, hcast]
  rw [x.abs_toRat, div_mul_eq_mul_div, le_div_iff₀ one_pos, hmiddle, sub_le_iff_le_add]
  norm_cast

end Exact

section Factor
variable {x f : Finite} {factor : Nat} (hf : f.units = factor * one) (hn : f.negative = false)
include hf hn

theorem mul_factor_eq :
    (finite x).mul (finite f) = round x.negative (x.units * factor * one) one := by
  rw [mul, hn, Bool.xor_false, hf, Nat.mul_assoc]

/-- A product by a natural number is rounded off relatively, by less than a unit otherwise. -/
theorem exists_mul_factor (h : |x.toRat| * factor < overflow) :
    ∃ p : Finite, (finite x).mul (finite f) = finite p ∧ p.negative = x.negative ∧
      |(p.units : ℚ) - x.units * factor| ≤ x.units * factor / 2 ^ 53 + 1 / 2 := by
  have hlt : significant precision (x.units * factor * one) one < limit := by
    rw [limit_eq]
    refine significant_lt_two_pow (by decide) one_units_pos (Nat.not_le.1 fun hle => ?_)
    exact absurd h (not_lt.2 ((overflow_le_iff x factor).2 hle))
  have hfits := fits_significant hlt
  refine ⟨⟨x.negative, _, hfits⟩, ?_, rfl, abs_sub_le_of_mul_one ?_⟩
  · rw [mul_factor_eq hf hn, round, ofUnits, dif_pos hfits]
  · have herror := abs_significant_sub_le (x.units * factor * one) one_units_pos
    push_cast at herror
    linarith

theorem exists_div_factor (hpos : 0 < factor) :
    ∃ y : Finite, (finite x).div (finite f) = finite y ∧ y.negative = x.negative ∧
      |(y.units * factor : ℚ) - x.units| ≤ x.units / 2 ^ 53 + factor / 2 := by
  have hunits : 0 < f.units := hf ▸ Nat.mul_pos hpos one_units_pos
  have hle : x.units * one ≤ x.units * f.units := by
    rw [hf]
    exact Nat.mul_le_mul_left _ (Nat.le_mul_of_pos_left _ hpos)
  obtain ⟨y, hy, hneg, hsig⟩ := round_of_le (x.negative ^^ f.negative) hunits x.fits hle
  refine ⟨y, ?_, by rw [hneg, hn, Bool.xor_false], abs_sub_le_of_mul_one ?_⟩
  · rw [div, if_neg (Nat.ne_of_gt hunits), hy]
  · have herror := abs_significant_sub_le (x.units * one) hunits
    rw [← hsig, hf] at herror
    push_cast at herror
    rw [mul_assoc]
    linarith

/-- Scaled, rounded to a whole number and scaled back, a number is off by less than one divided by the
factor, and relatively by little. -/
theorem exists_scaled (hpos : 0 < factor) (hsmall : 8 * factor ≤ one)
    (h : |x.toRat| * factor < overflow) :
    ∃ y : Finite, ((finite x).mul (finite f)).roundHalfAway.div (finite f) = finite y ∧
      |y.toRat - x.toRat| ≤ 1 / factor + |x.toRat| / 2 ^ 40 := by
  obtain ⟨p, hp, hp_neg, hp_near⟩ := exists_mul_factor hf hn h
  obtain ⟨q, hq, hq_neg, hq_near⟩ := exists_roundHalfAway p
  obtain ⟨y, hy, hy_neg, hy_near⟩ := exists_div_factor (x := q) hf hn hpos
  have hsign : y.negative = x.negative := by rw [hy_neg, hq_neg, hp_neg]
  have hfactor : (1 : ℚ) ≤ factor := by exact_mod_cast hpos
  have hsmall : (8 * factor : ℚ) ≤ one := by exact_mod_cast hsmall
  have hx : (0 : ℚ) ≤ x.units * factor := mul_nonneg (Nat.cast_nonneg _) (Nat.cast_nonneg _)
  -- the three errors, counted in units of the product
  have hsum : |(y.units * factor : ℚ) - x.units * factor| ≤ one + x.units * factor / 2 ^ 40 := by
    rw [abs_le] at *
    constructor <;> linarith
  refine ⟨y, by rw [hp, hq, hy], ?_⟩
  rw [Finite.abs_toRat_sub hsign, x.abs_toRat, div_le_iff₀ one_pos]
  have hfactor_pos : (0 : ℚ) < factor := lt_of_lt_of_le zero_lt_one hfactor
  have hone_ne := ne_of_gt one_pos
  rw [← sub_mul, abs_mul, abs_of_pos hfactor_pos] at hsum
  refine le_of_mul_le_mul_right (hsum.trans_eq ?_) hfactor_pos
  field_simp

theorem scaled_infinite (h : overflow ≤ |x.toRat| * factor) :
    ((finite x).mul (finite f)).roundHalfAway.div (finite f) = infinite x.negative := by
  have hge := two_pow_le_significant (by decide) one_units_pos ((overflow_le_iff x factor).1 h)
  rw [← limit_eq] at hge
  have hround : (infinite x.negative).roundHalfAway = infinite x.negative := rfl
  rw [mul_factor_eq hf hn, round, ofUnits, dif_neg fun hfits => absurd hfits.1 (Nat.not_lt.2 hge),
    hround, div, hn, Bool.xor_false]

end Factor

section Clamp
variable {low high : Finite}

/-- Bounds take a number no farther from the numbers between them. -/
theorem exists_clamp (x : Finite) (h : low.toRat ≤ high.toRat) :
    ∃ r : Finite, (finite x).clamp (finite low) (finite high) = finite r ∧
      low.toRat ≤ r.toRat ∧ r.toRat ≤ high.toRat ∧
      ∀ v : ℚ, low.toRat ≤ v → v ≤ high.toRat → |r.toRat - v| ≤ |x.toRat - v| := by
  have hlt {a b : Finite} : (finite a).lt (finite b) = decide (a.toRat < b.toRat) := by
    rw [lt, decide_eq_decide, ← not_le, ← not_le, Finite.toRat_le_toRat]
  rw [clamp, hlt, hlt]
  by_cases hlow : x.toRat < low.toRat
  · refine ⟨low, if_pos (decide_eq_true hlow), le_rfl, h, fun v hv _ => ?_⟩
    rw [abs_of_nonpos (by linarith), abs_of_nonpos (by linarith)]
    linarith
  · by_cases hhigh : high.toRat < x.toRat
    · refine ⟨high, ?_, h, le_rfl, fun v _ hv => ?_⟩
      · simp [hlow, hhigh]
      · rw [abs_of_nonneg (by linarith), abs_of_nonneg (by linarith)]
        linarith
    · exact ⟨x, by simp [hlow, hhigh], not_lt.1 hlow, not_lt.1 hhigh, fun _ _ _ => le_rfl⟩

theorem clamp_infinite (negative : Bool) :
    (infinite negative).clamp (finite low) (finite high) =
      finite (if negative then low else high) := by
  cases negative <;> rfl

end Clamp

end Binary64
end Fixture
