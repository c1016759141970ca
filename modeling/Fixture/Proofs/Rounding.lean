import Fixture.Draw.Range

/-! Rounding to significant bits. What is rounded has no more of them than the format, and nothing
is rounded past a number that the format has; so what lies between two such numbers stays there. -/
namespace Fixture

theorem nearest_le_of_le {n d a : Nat} (hd : 0 < d) (h : n ≤ a * d) : nearest n d ≤ a := by
  have hq : n / d ≤ a := Nat.div_le_of_le_mul (by rwa [Nat.mul_comm])
  rcases Nat.lt_or_eq_of_le hq with hlt | heq
  · exact Nat.le_trans (nearest_le n d) hlt
  · have hn : n = a * d := by
      refine Nat.le_antisymm h ?_
      rw [← heq]
      exact Nat.div_mul_le_self n d
    exact Nat.le_of_eq (by rw [hn, nearest_mul a d hd])

theorem two_mul_nearest_le (n : Nat) {d : Nat} (hd : 0 < d) :
    2 * (nearest n d * d) ≤ 2 * n + d := by
  have hdiv := Nat.div_add_mod n d
  have hmod := Nat.mod_lt n hd
  have hdown : n / d * d = d * (n / d) := Nat.mul_comm _ _
  have hup : (n / d + 1) * d = d * (n / d) + d := by rw [Nat.add_mul, Nat.one_mul, hdown]
  simp only [nearest]
  split
  · omega
  · split
    · omega
    · rcases Nat.mod_two_eq_zero_or_one (n / d) with h | h <;> rw [h]
      · rw [Nat.add_zero]
        omega
      · omega

section Significant
variable {precision n d : Nat}

theorem lt_two_pow_excessBits (precision n : Nat) :
    n < Nat.pow 2 (precision + excessBits precision n) := by
  have hlog : n < 2 ^ (n.log2 + 1) := Nat.lt_log2_self
  refine Nat.lt_of_lt_of_le hlog (Nat.pow_le_pow_right (by decide) ?_)
  unfold excessBits
  omega

theorem excessBits_le_of_lt {k : Nat} (hp : 0 < precision) (h : n < Nat.pow 2 (precision + k)) :
    excessBits precision n ≤ k := by
  unfold excessBits
  by_cases hn : n = 0
  · rw [hn, Nat.log2_zero]
    omega
  · have := (Nat.log2_lt hn).2 h
    omega

theorem two_pow_le_of_lt_excessBits {k : Nat} (hp : 0 < precision)
    (h : k < excessBits precision n) : Nat.pow 2 (precision + k) ≤ n := by
  rcases Nat.lt_or_ge n (Nat.pow 2 (precision + k)) with hlt | hge
  · have := excessBits_le_of_lt hp hlt
    omega
  · exact hge

theorem div_two_pow_excessBits_lt (precision n d : Nat) :
    n / (d * Nat.pow 2 (excessBits precision (n / d))) < Nat.pow 2 precision := by
  rw [← Nat.div_div_eq_div_mul]
  refine (Nat.div_lt_iff_lt_mul (Nat.two_pow_pos _)).2 ?_
  exact Nat.lt_of_lt_of_eq (lt_two_pow_excessBits precision (n / d)) (Nat.pow_add 2 precision _)

/-- What is rounded has just the significant bits, or is the power of two past them. -/
theorem significant_eq (precision n d : Nat) :
    ∃ m k, m ≤ Nat.pow 2 precision ∧ significant precision n d = m * Nat.pow 2 k :=
  ⟨_, _, Nat.le_trans (nearest_le _ _) (div_two_pow_excessBits_lt precision n d), rfl⟩

/-- No quotient is rounded up past a number that has only significant bits. -/
theorem significant_le {m k : Nat} (hp : 0 < precision) (hd : 0 < d) (hm : m < Nat.pow 2 precision)
    (h : n ≤ m * Nat.pow 2 k * d) : significant precision n d ≤ m * Nat.pow 2 k := by
  have hq : n / d ≤ m * Nat.pow 2 k := Nat.div_le_of_le_mul (by rwa [Nat.mul_comm])
  have hj : excessBits precision (n / d) ≤ k := by
    refine excessBits_le_of_lt hp (Nat.lt_of_le_of_lt hq ?_)
    exact Nat.lt_of_lt_of_eq (Nat.mul_lt_mul_of_pos_right hm (Nat.two_pow_pos k))
      (Nat.pow_add 2 precision k).symm
  unfold significant
  generalize excessBits precision (n / d) = j at hj
  obtain ⟨i, rfl⟩ := Nat.exists_eq_add_of_le' hj
  have hsum : Nat.pow 2 (i + j) = Nat.pow 2 i * Nat.pow 2 j := Nat.pow_add 2 i j
  rw [hsum, ← Nat.mul_assoc] at h ⊢
  refine Nat.mul_le_mul_right _ (nearest_le_of_le (Nat.mul_pos hd (Nat.two_pow_pos j)) ?_)
  rwa [Nat.mul_comm d, ← Nat.mul_assoc]

theorem mul_excess_le_significant {m : Nat} (hd : 0 < d)
    (h : m * Nat.pow 2 (excessBits precision (n / d)) * d ≤ n) :
    m * Nat.pow 2 (excessBits precision (n / d)) ≤ significant precision n d := by
  unfold significant
  generalize excessBits precision (n / d) = j at h
  refine Nat.mul_le_mul_right _ (Nat.le_trans ?_ (le_nearest _ _))
  refine (Nat.le_div_iff_mul_le (Nat.mul_pos hd (Nat.two_pow_pos j))).2 ?_
  rwa [Nat.mul_comm d, ← Nat.mul_assoc]

/-- No quotient is rounded down past a number that has only significant bits. -/
theorem le_significant {m k : Nat} (hp : 0 < precision) (hd : 0 < d) (hm : m < Nat.pow 2 precision)
    (h : m * Nat.pow 2 k * d ≤ n) : m * Nat.pow 2 k ≤ significant precision n d := by
  rcases Nat.lt_or_ge k (excessBits precision (n / d)) with hj | hj
  · -- the quotient has more bits than the number, and the first of them is kept
    obtain ⟨p, rfl⟩ : ∃ p, precision = p + 1 := ⟨precision - 1, by omega⟩
    obtain ⟨i, hi⟩ : ∃ i, excessBits (p + 1) (n / d) = i + 1 :=
      ⟨excessBits (p + 1) (n / d) - 1, by omega⟩
    have hfirst : Nat.pow 2 p * Nat.pow 2 (excessBits (p + 1) (n / d)) ≤ n / d := by
      have hi' : i < excessBits (p + 1) (n / d) := by omega
      have hp' : p + (i + 1) = p + 1 + i := by omega
      have hlow := two_pow_le_of_lt_excessBits hp hi'
      rw [← hp', ← hi] at hlow
      exact Nat.le_trans (Nat.le_of_eq (Nat.pow_add 2 p _).symm) hlow
    calc m * Nat.pow 2 k
        ≤ Nat.pow 2 (p + 1) * Nat.pow 2 k := Nat.mul_le_mul_right _ (Nat.le_of_lt hm)
      _ = Nat.pow 2 (p + 1 + k) := (Nat.pow_add 2 (p + 1) k).symm
      _ ≤ Nat.pow 2 (p + excessBits (p + 1) (n / d)) :=
          Nat.pow_le_pow_right (by decide) (by omega)
      _ = Nat.pow 2 p * Nat.pow 2 (excessBits (p + 1) (n / d)) := Nat.pow_add 2 p _
      _ ≤ significant (p + 1) n d :=
          mul_excess_le_significant hd ((Nat.le_div_iff_mul_le hd).1 hfirst)
  · obtain ⟨i, hi⟩ := Nat.exists_eq_add_of_le' hj
    have hsum : Nat.pow 2 (i + excessBits precision (n / d)) =
        Nat.pow 2 i * Nat.pow 2 (excessBits precision (n / d)) := Nat.pow_add 2 i _
    rw [hi, hsum, ← Nat.mul_assoc] at h ⊢
    exact mul_excess_le_significant hd h

end Significant

namespace Binary64

theorem fits_mul_two_pow {m k : Nat} (hm : m ≤ Nat.pow 2 precision)
    (h : m * Nat.pow 2 k < limit) : Fits (m * Nat.pow 2 k) := by
  refine ⟨h, Nat.mod_eq_zero_of_dvd ?_⟩
  rcases Nat.lt_or_eq_of_le hm with hlt | rfl
  · have hk : excessBits precision (m * Nat.pow 2 k) ≤ k := by
      refine excessBits_le_of_lt (by decide) ?_
      exact Nat.lt_of_lt_of_eq (Nat.mul_lt_mul_of_pos_right hlt (Nat.two_pow_pos k))
        (Nat.pow_add 2 precision k).symm
    exact Nat.dvd_trans (Nat.pow_dvd_pow 2 hk) (Nat.dvd_mul_left _ _)
  · have hsum : Nat.pow 2 (precision + k) = Nat.pow 2 precision * Nat.pow 2 k :=
      Nat.pow_add 2 precision k
    rw [← hsum]
    refine Nat.pow_dvd_pow 2 (excessBits_le_of_lt (by decide) ?_)
    exact Nat.pow_lt_pow_right (by decide) (by simp only [precision]; omega)

theorem fits_of_exponent_lt {m k : Nat} (hm : m ≤ Nat.pow 2 precision)
    (hk : precision + k < 2098) : Fits (m * Nat.pow 2 k) := by
  refine fits_mul_two_pow hm ?_
  obtain ⟨n, hn⟩ := Nat.exists_eq_add_of_lt hk
  calc m * Nat.pow 2 k ≤ Nat.pow 2 precision * Nat.pow 2 k := Nat.mul_le_mul_right _ hm
    _ = Nat.pow 2 (precision + k) := (Nat.pow_add 2 precision k).symm
    _ < Nat.pow 2 (precision + k + n + 1) := Nat.pow_lt_pow_right (by decide) (by omega)
    _ = limit := congrArg (Nat.pow 2) hn.symm

theorem exists_of_fits {u : Nat} (h : Fits u) :
    ∃ m k, m < Nat.pow 2 precision ∧ u = m * Nat.pow 2 k := by
  obtain ⟨m, hm⟩ := Nat.dvd_of_mod_eq_zero h.2
  refine ⟨m, excessBits precision u, ?_, by rwa [Nat.mul_comm]⟩
  have hlt : u < Nat.pow 2 precision * Nat.pow 2 (excessBits precision u) :=
    Nat.lt_of_lt_of_eq (lt_two_pow_excessBits precision u) (Nat.pow_add 2 precision _)
  generalize excessBits precision u = k at hm hlt
  rw [hm, Nat.mul_comm] at hlt
  exact Nat.lt_of_mul_lt_mul_right hlt

theorem fits_significant {n d : Nat} (h : significant precision n d < limit) :
    Fits (significant precision n d) := by
  obtain ⟨m, k, hm, he⟩ := significant_eq precision n d
  rw [he] at h ⊢
  exact fits_mul_two_pow hm h

theorem significant_le_of_fits {n d u : Nat} (hd : 0 < d) (hu : Fits u) (h : n ≤ u * d) :
    significant precision n d ≤ u := by
  obtain ⟨m, k, hm, rfl⟩ := exists_of_fits hu
  exact significant_le (by decide) hd hm h

theorem le_significant_of_fits {n d u : Nat} (hd : 0 < d) (hu : Fits u) (h : u * d ≤ n) :
    u ≤ significant precision n d := by
  obtain ⟨m, k, hm, rfl⟩ := exists_of_fits hu
  exact le_significant (by decide) hd hm h

theorem round_of_le {n d u : Nat} (negative : Bool) (hd : 0 < d) (hu : Fits u) (h : n ≤ u * d) :
    ∃ x : Finite, round negative n d = .finite x ∧ x.negative = negative ∧
      x.units = significant precision n d := by
  have hle := significant_le_of_fits hd hu h
  have hfits := fits_significant (Nat.lt_of_le_of_lt hle hu.1)
  exact ⟨⟨negative, _, hfits⟩, by simp [round, ofUnits, hfits], rfl, rfl⟩

end Binary64
end Fixture
