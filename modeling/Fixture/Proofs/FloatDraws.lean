import Fixture.Library.Numbers
import Fixture.Proofs.Draws
import Fixture.Proofs.Rounding

/-! Drawn floats stay within their bounds, however the product and the sum are rounded: the largest
fraction of one leaves the product a whole unit in the last place below the distance of the bounds,
and rounding that distance had added half of one at most. -/
namespace Fixture
namespace Binary64

theorem one_units_pos : 0 < one := by decide +kernel

theorem exists_of_isFinite {x : Binary64} (h : x.isFinite = true) : ∃ y, x = finite y := by
  cases x with
  | finite y => exact ⟨y, rfl⟩
  | infinite s => cases h
  | nan => cases h

theorem Finite.units_eq (x : Finite) : x.units = x.signed.natAbs := by
  unfold signed
  split <;> omega

section Sum
variable {low high : Finite}

/-- An integer between two finite numbers is rounded to a finite number between them. -/
theorem round_between {s : Int} (hl : low.signed ≤ s) (hh : s ≤ high.signed) :
    ∃ z : Finite, round (decide (s < 0)) s.natAbs 1 = finite z ∧
      low.signed ≤ z.signed ∧ z.signed ≤ high.signed := by
  have hlow := low.units_eq
  have hhigh := high.units_eq
  by_cases hs : s < 0
  · have hle : s.natAbs ≤ low.units * 1 := by omega
    obtain ⟨z, hz, hn, hu⟩ := round_of_le (decide (s < 0)) Nat.one_pos low.fits hle
    have hz_low := significant_le_of_fits Nat.one_pos low.fits hle
    have hsigned : z.signed = -z.units := by simp [Finite.signed, hn, hs]
    refine ⟨z, hz, by omega, ?_⟩
    by_cases hneg : high.signed < 0
    · have := le_significant_of_fits Nat.one_pos high.fits (by omega : high.units * 1 ≤ s.natAbs)
      omega
    · omega
  · have hle : s.natAbs ≤ high.units * 1 := by omega
    obtain ⟨z, hz, hn, hu⟩ := round_of_le (decide (s < 0)) Nat.one_pos high.fits hle
    have hz_high := significant_le_of_fits Nat.one_pos high.fits hle
    have hsigned : z.signed = z.units := by simp [Finite.signed, hn, hs]
    refine ⟨z, hz, ?_, by omega⟩
    by_cases hpos : 0 < low.signed
    · have := le_significant_of_fits Nat.one_pos low.fits (by omega : low.units * 1 ≤ s.natAbs)
      omega
    · omega

theorem add_between {x y : Finite} (hl : low.signed ≤ x.signed + y.signed)
    (hh : x.signed + y.signed ≤ high.signed) :
    ∃ z : Finite, (finite x).add (finite y) = finite z ∧
      low.signed ≤ z.signed ∧ z.signed ≤ high.signed := by
  rw [add]
  by_cases hs : x.signed + y.signed = 0
  · have hzero : (Finite.zero (x.negative && y.negative)).signed = 0 := by
      simp [Finite.zero, Finite.signed]
    rw [hs] at hl hh
    exact ⟨_, if_pos hs, hzero ▸ hl, hzero ▸ hh⟩
  · simp only [hs, if_false]
    exact round_between hl hh

end Sum

theorem fraction_mul_le {k m p : Nat} (hk : k < p) (hm : p ≤ m + 1) : k * (m + 1) ≤ m * p := by
  obtain ⟨q, rfl⟩ : ∃ q, p = q + 1 := ⟨p - 1, by omega⟩
  calc k * (m + 1) ≤ q * (m + 1) := Nat.mul_le_mul_right _ (Nat.le_of_lt_succ hk)
    _ = m * q + q := by rw [Nat.mul_add, Nat.mul_one, Nat.mul_comm]
    _ ≤ m * q + m := by omega
    _ = m * (q + 1) := by rw [Nat.mul_add, Nat.mul_one]

section Distance
variable {k unit distance : Nat}

theorem significant_fraction_le_of_exact (hk : k < Nat.pow 2 52) (hunit : 0 < unit)
    (he : excessBits precision distance = 0) :
    significant precision (k * unit * significant precision distance 1) (unit * Nat.pow 2 52) ≤
      distance := by
  have hlt := lt_two_pow_excessBits precision distance
  rw [he, Nat.add_zero] at hlt
  have hone : distance * Nat.pow 2 0 = distance := Nat.mul_one distance
  have hround : significant precision distance 1 ≤ distance * Nat.pow 2 0 :=
    significant_le (by decide) Nat.one_pos hlt (by simp)
  have hle : significant precision (k * unit * significant precision distance 1)
      (unit * Nat.pow 2 52) ≤ distance * Nat.pow 2 0 := by
    refine significant_le (by decide) (Nat.mul_pos hunit (Nat.two_pow_pos _)) hlt ?_
    calc k * unit * significant precision distance 1
        ≤ k * unit * (distance * Nat.pow 2 0) := Nat.mul_le_mul_left _ hround
      _ ≤ Nat.pow 2 52 * unit * (distance * Nat.pow 2 0) :=
          Nat.mul_le_mul_right _ (Nat.mul_le_mul_right _ (Nat.le_of_lt hk))
      _ = distance * Nat.pow 2 0 * (unit * Nat.pow 2 52) := by
          rw [Nat.mul_comm, Nat.mul_comm unit]
  rwa [hone] at hle

/-- A distance that loses bits is rounded to units in the last place; without the last of these it
is not above the distance. -/
theorem significant_of_excess {i : Nat} (hi : excessBits precision distance = i + 1) :
    ∃ m, significant precision distance 1 = (m + 1) * Nat.pow 2 (i + 1) ∧ Nat.pow 2 52 ≤ m + 1 ∧
      m + 1 ≤ Nat.pow 2 precision ∧ m * Nat.pow 2 (i + 1) ≤ distance := by
  have hfirst : Nat.pow 2 52 * Nat.pow 2 (i + 1) ≤ distance := by
    have := two_pow_le_of_lt_excessBits (by decide) (by omega : i < excessBits precision distance)
    have hsum : precision + i = 52 + (i + 1) := by
      simp only [precision]
      omega
    rw [hsum] at this
    exact Nat.le_trans (Nat.le_of_eq (Nat.pow_add 2 52 (i + 1)).symm) this
  have hge : Nat.pow 2 52 ≤ nearest distance (Nat.pow 2 (i + 1)) :=
    Nat.le_trans ((Nat.le_div_iff_mul_le (Nat.two_pow_pos _)).2 hfirst) (le_nearest _ _)
  have hle : nearest distance (Nat.pow 2 (i + 1)) ≤ Nat.pow 2 precision := by
    have hlt := lt_two_pow_excessBits precision distance
    rw [hi] at hlt
    exact Nat.le_trans (nearest_le _ _) ((Nat.div_lt_iff_lt_mul (Nat.two_pow_pos _)).2
      (Nat.lt_of_lt_of_eq hlt (Nat.pow_add 2 precision (i + 1))))
  have hup := two_mul_nearest_le (d := Nat.pow 2 (i + 1)) distance (Nat.two_pow_pos (i + 1))
  obtain ⟨m, hm⟩ : ∃ m, nearest distance (Nat.pow 2 (i + 1)) = m + 1 :=
    ⟨_, (Nat.sub_add_cancel (Nat.le_trans (Nat.two_pow_pos 52) hge)).symm⟩
  rw [hm] at hge hle hup
  refine ⟨m, ?_, hge, hle, ?_⟩
  · simp only [significant, Nat.div_one, hi, Nat.one_mul, hm]
  · rw [Nat.add_mul, Nat.one_mul] at hup
    omega

/-- A fraction below one of a distance that was rounded is not above the distance itself. -/
theorem significant_fraction_le (hk : k < Nat.pow 2 52) (hunit : 0 < unit) (distance : Nat) :
    significant precision (k * unit * significant precision distance 1) (unit * Nat.pow 2 52) ≤
      distance := by
  by_cases he : excessBits precision distance = 0
  · exact significant_fraction_le_of_exact hk hunit he
  · obtain ⟨i, hi⟩ := Nat.exists_eq_succ_of_ne_zero he
    obtain ⟨m, hround, hge, hle, hdown⟩ := significant_of_excess hi
    rw [hround]
    -- the fraction takes more off than the unit that rounding may have added
    refine Nat.le_trans (significant_le (by decide) (Nat.mul_pos hunit (Nat.two_pow_pos _)) hle ?_) hdown
    calc k * unit * ((m + 1) * Nat.pow 2 (i + 1))
        = k * (m + 1) * (unit * Nat.pow 2 (i + 1)) := by ac_rfl
      _ ≤ m * Nat.pow 2 52 * (unit * Nat.pow 2 (i + 1)) :=
          Nat.mul_le_mul_right _ (fraction_mul_le hk hge)
      _ = m * Nat.pow 2 (i + 1) * (unit * Nat.pow 2 52) := by ac_rfl

end Distance

theorem significant_zero (precision d : Nat) : significant precision 0 d = 0 := by
  simp [significant, nearest]

theorem Finite.signed_negate (x : Finite) :
    Finite.signed { x with negative := !x.negative } = -x.signed := by
  cases hx : x.negative <;> simp [signed, hx]

theorem sub_eq {low high : Finite} (h : low.signed ≤ high.signed)
    (hf : ((finite high).sub (finite low)).isFinite = true) :
    ∃ z : Finite, (finite high).sub (finite low) = finite z ∧
      z.units = significant precision (high.signed - low.signed).natAbs 1 ∧
      (z.negative = true → z.units = 0) := by
  rw [sub, negate, add, Finite.signed_negate, ← Int.sub_eq_add_neg] at hf ⊢
  by_cases hs : high.signed - low.signed = 0
  · simp only [hs, if_true] at hf ⊢
    exact ⟨_, rfl, (significant_zero _ _).symm, fun _ => rfl⟩
  · have hpos : decide (high.signed - low.signed < 0) = false := by
      rw [decide_eq_false_iff_not]
      omega
    simp only [hs, if_false, hpos, round, ofUnits] at hf ⊢
    split at hf
    · rename_i hfits
      exact ⟨⟨false, _, hfits⟩, dif_pos hfits, rfl, fun hn => by cases hn⟩
    · cases hf

/-- A fraction below one of the distance of two finite numbers, added to the lower one, does not
come past the upper one. -/
theorem interpolate_between {low high u z : Finite} {k unit : Nat} (hk : k < Nat.pow 2 52)
    (hone : one = unit * Nat.pow 2 52) (hu : u.negative = false) (huk : u.units = k * unit)
    (h : low.signed ≤ high.signed)
    (hz : z.units = significant precision (high.signed - low.signed).natAbs 1)
    (hn : z.negative = true → z.units = 0) :
    ∃ x : Finite, ((finite u).mul (finite z)).add (finite low) = finite x ∧
      low.signed ≤ x.signed ∧ x.signed ≤ high.signed := by
  have hunit : 0 < unit := Nat.pos_of_mul_pos_right (hone ▸ one_units_pos)
  have hle : u.units * z.units ≤ z.units * one := by
    rw [huk, hone, Nat.mul_comm, Nat.mul_comm k]
    exact Nat.mul_le_mul_left _ (Nat.mul_le_mul_left _ (Nat.le_of_lt hk))
  obtain ⟨p, hp, hneg, hunits⟩ := round_of_le (u.negative ^^ z.negative) one_units_pos z.fits hle
  have hdistance : p.units ≤ (high.signed - low.signed).natAbs := by
    rw [hunits, huk, hz, hone]
    exact significant_fraction_le hk hunit _
  have hsigned : p.signed = p.units := by
    cases hs : z.negative with
    | false => simp [Finite.signed, hneg, hu, hs]
    | true =>
      have hzero : p.units = 0 := by rw [hunits, hn hs, Nat.mul_zero, significant_zero]
      simp [Finite.signed, hzero]
  rw [mul, hp]
  exact add_between (by omega) (by omega)

end Binary64

namespace Draw
open Binary64

theorem fraction_always : Draw.fraction.Always fun u => ∃ x : Finite, ∃ k, u = .finite x ∧
    x.negative = false ∧ x.units = k * Nat.pow 2 1022 ∧ k < Nat.pow 2 52 := by
  intro w
  have hk : w.toNat / 4096 < Nat.pow 2 52 := by
    have := w.toNat_lt
    simp only [Nat.reducePow, Nat.pow_eq]
    omega
  have hfits : Fits (w.toNat / 4096 * Nat.pow 2 1022) :=
    fits_of_exponent_lt (k := 1022) (Nat.le_trans (Nat.le_of_lt hk) (by decide)) (by decide)
  exact ⟨⟨false, _, hfits⟩, _, by rw [ofUnits, dif_pos hfits], rfl, rfl, hk⟩

/-- A drawn float is finite and within its bounds. -/
theorem float_always (r : FloatRange) : (Draw.float r).Always fun x =>
    x.isFinite = true ∧ r.low.le x = true ∧ x.le r.high = true := by
  obtain ⟨low, high, ⟨hlow, hhigh⟩, ordered, narrow⟩ := r
  obtain ⟨low, rfl⟩ := exists_of_isFinite hlow
  obtain ⟨high, rfl⟩ := exists_of_isFinite hhigh
  have h : low.signed ≤ high.signed := by simpa [lt] using ordered
  obtain ⟨z, hz, hunits, hneg⟩ := sub_eq h narrow
  refine fraction_always.bind ?_
  rintro _ ⟨u, k, rfl, hu, huk, hk⟩
  have hone : one = Nat.pow 2 1022 * Nat.pow 2 52 := by decide +kernel
  obtain ⟨x, hx, hl, hh⟩ := interpolate_between hk hone hu huk h hunits hneg
  rw [always_done, hz, hx]
  exact ⟨rfl, decide_eq_true hl, decide_eq_true hh⟩

end Draw

namespace Binary64

theorem ofUnits_ne_nan (negative : Bool) (units : Nat) : ofUnits negative units ≠ nan := by
  unfold ofUnits
  split <;> simp

theorem round_ne_nan (negative : Bool) (n d : Nat) : round negative n d ≠ nan := by
  rw [round]
  exact ofUnits_ne_nan _ _

theorem mul_ne_nan (x y : Finite) : (finite x).mul (finite y) ≠ nan := by
  rw [mul]
  exact round_ne_nan _ _ _

theorem roundHalfAway_ne_nan {x : Binary64} (h : x ≠ nan) : x.roundHalfAway ≠ nan := by
  cases x with
  | finite x =>
    rw [roundHalfAway]
    exact ofUnits_ne_nan _ _
  | infinite s => exact h
  | nan => exact h

theorem div_ne_nan {x : Binary64} {y : Finite} (h : x ≠ nan) (hy : y.units ≠ 0) :
    x.div (finite y) ≠ nan := by
  cases x with
  | finite x =>
    rw [div, if_neg hy]
    exact round_ne_nan _ _ _
  | infinite s => simp [div]
  | nan => exact absurd rfl h

theorem clamp_isFinite {x low high : Binary64} (h : x ≠ nan) (hl : low.isFinite = true)
    (hh : high.isFinite = true) : (x.clamp low high).isFinite = true := by
  obtain ⟨l, rfl⟩ := exists_of_isFinite hl
  obtain ⟨u, rfl⟩ := exists_of_isFinite hh
  unfold clamp
  split
  · exact hl
  · split
    · exact hh
    · rename_i hlow hhigh
      cases x with
      | finite x => rfl
      | infinite s => cases s <;> simp [lt] at hlow hhigh
      | nan => exact absurd rfl h

theorem ofInt_eq {n : Nat} (h : n ≤ Nat.pow 2 precision) :
    ∃ hf, ofInt n = finite ⟨false, n * one, hf⟩ := by
  have hf : Fits (n * one) := fits_of_exponent_lt (k := 1074) h (by decide)
  exact ⟨hf, round_of_fits false hf⟩

end Binary64

open Binary64 in
/-- Rounding to decimal places, in which the number may become infinite, ends within the bounds. -/
theorem Library.roundTo_isFinite {places : Nat} (h : places ≤ greatestScale) (r : FloatRange)
    {x : Binary64} (hx : x.isFinite = true) : (roundTo places r x).isFinite = true := by
  obtain ⟨x, rfl⟩ := exists_of_isFinite hx
  have hten : Nat.pow 10 places ≤ Nat.pow 2 precision :=
    Nat.le_trans (Nat.pow_le_pow_right (by decide) h) (by decide)
  obtain ⟨hf, hfactor⟩ := ofInt_eq hten
  have hten_pos : 0 < Nat.pow 10 places := Nat.pow_pos (by decide)
  have hpos : Nat.pow 10 places * one ≠ 0 :=
    Nat.mul_ne_zero (Nat.ne_of_gt hten_pos) (Nat.ne_of_gt one_units_pos)
  unfold roundTo
  rw [hfactor]
  exact clamp_isFinite (div_ne_nan (roundHalfAway_ne_nan (mul_ne_nan _ _)) hpos) r.finite.1
    r.finite.2

end Fixture
