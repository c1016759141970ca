import Fixture.Proofs.RoundingErrors
import Fixture.Proofs.SoleOverloads

/-! Floats that are drawn with a number of decimal places. They are compared with what the same words
draw without one: rounding keeps to the bounds, and it only rounds unless the scaled number is past the
largest one. -/
namespace Fixture
open Outcome

open Binary64 in
/-- What rounding `v` to decimal places makes of it within bounds: a number near it, or, where the
product by the power of ten is infinite, the bound on the side of its sign. -/
structure RoundedWithin (low high : Finite) (places : Nat) (v r : Finite) : Prop where
  low_le : low.toRat ≤ r.toRat
  le_high : r.toRat ≤ high.toRat
  near : |v.toRat| * 10 ^ places < overflow → |r.toRat - v.toRat| ≤ 1 / 10 ^ places + |v.toRat| / 2 ^ 40
  past : overflow ≤ |v.toRat| * 10 ^ places → r = if v.negative then low else high

namespace Library
variable {places : Nat} {range : FloatRange} {low high : Binary64.Finite}

open Binary64 in
theorem exists_roundTo {v : Finite} (hplaces : places ≤ greatestScale)
    (hl : range.low = finite low) (hh : range.high = finite high)
    (hlow : low.toRat ≤ v.toRat) (hhigh : v.toRat ≤ high.toRat) :
    ∃ r, roundTo places range (finite v) = finite r ∧ RoundedWithin low high places v r := by
  have hten : Nat.pow 10 places ≤ Nat.pow 2 precision :=
    Nat.le_trans (Nat.pow_le_pow_right (by decide) hplaces) (by decide)
  have hpos : 0 < Nat.pow 10 places := Nat.pow_pos (by decide)
  have hsmall : 8 * Nat.pow 10 places ≤ one := by
    calc 8 * Nat.pow 10 places ≤ 8 * Nat.pow 2 precision := Nat.mul_le_mul_left _ hten
      _ ≤ one := by decide +kernel
  have hcast : (Nat.pow 10 places : ℚ) = 10 ^ places := Nat.cast_pow 10 places
  obtain ⟨hf, hfactor⟩ := ofInt_eq hten
  have horder := hlow.trans hhigh
  simp only [roundTo, hfactor, hl, hh]
  rcases lt_or_ge (|v.toRat| * 10 ^ places) overflow with h | h
  · obtain ⟨y, hy, hnear⟩ := exists_scaled (x := v) (f := ⟨false, _, hf⟩) rfl rfl hpos hsmall
      (by rwa [hcast])
    obtain ⟨r, hr, hr_low, hr_high, hclamp⟩ := exists_clamp y horder
    rw [hcast] at hnear
    refine ⟨r, by rw [hy, hr], hr_low, hr_high, fun _ => ?_, fun hge => absurd h (not_lt.2 hge)⟩
    exact (hclamp v.toRat hlow hhigh).trans hnear
  · have hinfinite := scaled_infinite (x := v) (f := ⟨false, _, hf⟩) rfl rfl
      (by rwa [hcast])
    refine ⟨if v.negative then low else high, ?_, ?_, ?_, fun hlt => absurd h (not_le.2 hlt),
      fun _ => rfl⟩
    · rw [hinfinite]
      exact clamp_infinite v.negative
    · split
      · exact le_rfl
      · exact horder
    · split
      · exact horder
      · exact le_rfl

theorem outcome_drawnFloat {places : Option Nat} {σ : Type} {source : Source σ} {s t : σ}
    {x : Binary64} {r : Binary64.Finite} (h : (Draw.float range).run source s = (x, t))
    (hr : inPlaces places range x = .finite r) :
    (drawnFloat places range).outcome source s = (.ok (.float r), t) := by
  have hrun := Draw.run_bind_of (f := fun x => .done (floatValue (inPlaces places range x))) h
  rw [hr, floatValue, Draw.run] at hrun
  exact hrun

end Library

section Bounds
variable {a b k : Value} {args : Arguments}

theorem Arguments.coerceFrom_cons_eq_ok {d : String} {i : Nat} {kind : ParamKind}
    {kinds : List ParamKind} {v : Value} {vs : List Value} {as : List Argument} :
    coerceFrom d i (kind :: kinds) (v :: vs) = .ok as ↔
      ∃ x xs, kind.coerce v = .ok x ∧ coerceFrom d (i + 1) kinds vs = .ok xs ∧ x :: xs = as := by
  rw [coerceFrom]
  cases kind.coerce v with
  | error m => simp
  | ok x => simp [map_eq_ok]

theorem exists_roundedArguments
    (h : Arguments.coerce "float" [.float, .float, .int] [a, b, k] = .ok args) :
    ∃ x y n, ParamKind.float.coerce a = .ok (.float x) ∧ ParamKind.float.coerce b = .ok (.float y) ∧
      ParamKind.int.coerce k = .ok (.int n) ∧ args = ⟨"float", [.float x, .float y, .int n]⟩ := by
  obtain ⟨as, hall, rfl⟩ := map_eq_ok.1 h
  obtain ⟨_, _, ha, htail, rfl⟩ := Arguments.coerceFrom_cons_eq_ok.1 hall
  obtain ⟨_, _, hb, hlast, rfl⟩ := Arguments.coerceFrom_cons_eq_ok.1 htail
  obtain ⟨_, _, hk, hend, rfl⟩ := Arguments.coerceFrom_cons_eq_ok.1 hlast
  cases hend
  obtain ⟨x, -, rfl⟩ := map_eq_ok.1 ha
  obtain ⟨y, -, rfl⟩ := map_eq_ok.1 hb
  obtain ⟨n, -, rfl⟩ := map_eq_ok.1 hk
  exact ⟨x, y, n.val, ha, hb, hk, rfl⟩

theorem coerce_bounds {x y : Binary64} (ha : ParamKind.float.coerce a = .ok (.float x))
    (hb : ParamKind.float.coerce b = .ok (.float y)) :
    Arguments.coerce "float" [.float, .float] [a, b] = .ok ⟨"float", [.float x, .float y]⟩ :=
  map_eq_ok.2 ⟨_, Arguments.coerceFrom_cons_eq_ok.2 ⟨_, _, ha,
    Arguments.coerceFrom_cons_eq_ok.2 ⟨_, _, hb, rfl, rfl⟩, rfl⟩, rfl⟩

theorem exists_floatBounds {x y : Binary64} {n : Int} {bounds : Option FloatRange}
    (h : Arguments.floatBounds ⟨"float", [.float x, .float y, .int n]⟩ 0 = .ok bounds) :
    ∃ range low high, bounds = some range ∧ range.low = .finite low ∧ range.high = .finite high ∧
      x = .finite low ∧ y = .finite high ∧
      Arguments.floatBounds ⟨"float", [.float x, .float y]⟩ 0 = .ok (some range) := by
  have hshort : Arguments.floatBounds ⟨"float", [.float x, .float y]⟩ 0 =
      Arguments.floatBounds ⟨"float", [.float x, .float y, .int n]⟩ 0 := rfl
  rw [hshort, h]
  have hlength : ¬ Arguments.length ⟨"float", [.float x, .float y, .int n]⟩ < 0 + 2 := by
    show ¬ 3 < 0 + 2
    decide
  rw [Arguments.floatBounds, if_neg hlength] at h
  obtain ⟨_, hx, h⟩ := bind_eq_ok.1 h
  obtain ⟨_, hy, h⟩ := bind_eq_ok.1 h
  cases hx
  cases hy
  split at h
  · rename_i hfinite
    split at h
    · cases h
    · split at h
      · cases h
        obtain ⟨low, rfl⟩ := Binary64.exists_of_isFinite hfinite.1
        obtain ⟨high, rfl⟩ := Binary64.exists_of_isFinite hfinite.2
        exact ⟨_, low, high, rfl, rfl, rfl, rfl, rfl, rfl⟩
      · cases h
  · cases h

theorem scale_eq_ok {x y : Binary64} {n : Int} {places : Option Nat}
    (h : Library.scale ⟨"float", [.float x, .float y, .int n]⟩ = .ok places) :
    ∃ m : Nat, n = m ∧ m ≤ Library.greatestScale ∧ places = some m := by
  have hscale : Library.scale ⟨"float", [.float x, .float y, .int n]⟩ =
      if 0 ≤ n ∧ n ≤ Library.greatestScale then .ok (some n.toNat)
      else .error (.badArgument "float" (.scale Library.greatestScale n)) := rfl
  rw [hscale] at h
  split at h
  · rename_i hn
    cases h
    exact ⟨n.toNat, by omega, by omega, rfl⟩
  · cases h

end Bounds
section Calls
variable (fakers : Library.Fakers) (o : Options) (a b k : Value)

theorem candidates_between : (Catalogue.builtin fakers o).candidates "float" [a, b].length =
    [Library.float [.float, .float]] :=
  Catalogue.candidates_builtin o (g := Library.float [.float, .float]) rfl

theorem candidates_rounded : (Catalogue.builtin fakers o).candidates "float" [a, b, k].length =
    [Library.float [.float, .float, .int]] :=
  Catalogue.candidates_builtin o (g := Library.float [.float, .float, .int]) rfl

end Calls

/-- A checked call of a float with decimal places has finite bounds and a number of places, and the
bounds are accepted without the places too. Both calls draw from one range. -/
theorem exists_float_range {fakers : Library.Fakers} {o : Options} {a b k : Value}
    (hcheck : (Catalogue.builtin fakers o).check ⟨"float", [a, b, k]⟩ = .ok ()) :
    ∃ (range : FloatRange) (low high : Binary64.Finite) (places : Nat),
      (ParamKind.float.coerce a = .ok (.float (.finite low)) ∧
        ParamKind.float.coerce b = .ok (.float (.finite high)) ∧
        ParamKind.int.coerce k = .ok (.int places)) ∧
      (range.low = .finite low ∧ range.high = .finite high ∧ places ≤ Library.greatestScale) ∧
      (Catalogue.builtin fakers o).check ⟨"float", [a, b]⟩ = .ok () ∧
      (Catalogue.builtin fakers o).resolve ⟨"float", [a, b]⟩ = Library.drawnFloat none range ∧
      (Catalogue.builtin fakers o).resolve ⟨"float", [a, b, k]⟩ =
        Library.drawnFloat (some places) range := by
  obtain ⟨args, hargs, hv⟩ := (Catalogue.check_eq_ok (candidates_rounded fakers o a b k)).1 hcheck
  obtain ⟨x, y, n, ha, hb, hk, rfl⟩ := exists_roundedArguments hargs
  obtain ⟨bounds, places, hbounds, hscale⟩ := Library.exists_of_validate_float hv
  obtain ⟨range, low, high, rfl, hl, hh, rfl, rfl, hshort⟩ := exists_floatBounds hbounds
  obtain ⟨places, rfl, hplaces, rfl⟩ := scale_eq_ok hscale
  have hcoerce := coerce_bounds ha hb
  obtain ⟨hbetween, hdraw⟩ := Library.float_of_bounds [.float, .float]
    (Catalogue.builtin fakers o).options hshort rfl
  obtain ⟨-, hrounded⟩ := Library.float_of_bounds [.float, .float, .int]
    (Catalogue.builtin fakers o).options hbounds hscale
  refine ⟨range, low, high, places, ⟨ha, hb, hk⟩, ⟨hl, hh, hplaces⟩,
    (Catalogue.check_eq_ok (candidates_between fakers o a b)).2 ⟨_, hcoerce, hbetween⟩, ?_, ?_⟩
  · rw [Catalogue.resolve_eq (candidates_between fakers o a b) hcoerce hbetween, hdraw, Option.getD_some]
  · rw [Catalogue.resolve_eq (candidates_rounded fakers o a b k) hargs hv, hrounded, Option.getD_some]

/-- What a checked call of a float with decimal places draws is what its bounds alone draw from the
same words, rounded: within the bounds, and near to the number, unless its product by the power of ten
is past the largest float. -/
theorem resolve_rounded_float (fakers : Library.Fakers) (o : Options) (a b k : Value)
    (hcheck : (Catalogue.builtin fakers o).check ⟨"float", [a, b, k]⟩ = .ok ()) :
    ∃ (low high : Binary64.Finite) (places : Nat),
      ParamKind.float.coerce a = .ok (.float (.finite low)) ∧
      ParamKind.float.coerce b = .ok (.float (.finite high)) ∧
      ParamKind.int.coerce k = .ok (.int places) ∧
      (Catalogue.builtin fakers o).check ⟨"float", [a, b]⟩ = .ok () ∧
      ∀ {σ : Type} (source : Source σ) (s : σ), ∃ v r t,
        ((Catalogue.builtin fakers o).resolve ⟨"float", [a, b]⟩).outcome source s =
          (.ok (.float v), t) ∧
        ((Catalogue.builtin fakers o).resolve ⟨"float", [a, b, k]⟩).outcome source s =
          (.ok (.float r), t) ∧
        (low.toRat ≤ v.toRat ∧ v.toRat ≤ high.toRat) ∧ RoundedWithin low high places v r := by
  obtain ⟨range, low, high, places, ⟨ha, hb, hk⟩, ⟨hl, hh, hplaces⟩, hbetween, hdraw, hrounded⟩ :=
    exists_float_range hcheck
  refine ⟨low, high, places, ha, hb, hk, hbetween, fun source s => ?_⟩
  obtain ⟨hfinite, hlow, hhigh⟩ := (Draw.float_always range).run source s
  rcases hrun : (Draw.float range).run source s with ⟨x, t⟩
  rw [hrun] at hfinite hlow hhigh
  obtain ⟨v, rfl⟩ := Binary64.exists_of_isFinite hfinite
  rw [hl] at hlow
  rw [hh] at hhigh
  have hlow := Binary64.Finite.toRat_le_toRat.2 (of_decide_eq_true hlow)
  have hhigh := Binary64.Finite.toRat_le_toRat.2 (of_decide_eq_true hhigh)
  obtain ⟨r, hr, hwithin⟩ := Library.exists_roundTo hplaces hl hh hlow hhigh
  rw [hdraw, hrounded]
  exact ⟨v, r, t, Library.outcome_drawnFloat hrun rfl, Library.outcome_drawnFloat hrun hr,
    ⟨hlow, hhigh⟩, hwithin⟩

/-- A number from one to two, with two decimal places. -/
def hundredths : Call :=
  ⟨"float", [.int 1 (by decide), .text " 2.0 ", .text "2"]⟩

theorem resolve_rounded_float_hundredths :
    (Catalogue.builtin Library.sample {}).check hundredths = .ok () ∧
      ∃ low high, Binary64.ofInt 1 = .finite low ∧ Binary64.ofInt 2 = .finite high ∧
        ∀ {σ : Type} (source : Source σ) (s : σ), ∃ v r t,
          ((Catalogue.builtin Library.sample {}).resolve hundredths).outcome source s =
            (.ok (.float r), t) ∧
          RoundedWithin low high 2 v r := by
  have hcheck : (Catalogue.builtin Library.sample {}).check hundredths = .ok () := by decide +kernel
  have hone : ParamKind.float.coerce (.int 1 (by decide)) = .ok (.float (.ofInt 1)) := rfl
  have htwo : ParamKind.float.coerce (.text " 2.0 ") = .ok (.float (.ofInt 2)) := by decide +kernel
  have hscale : ParamKind.int.coerce (.text "2") = .ok (.int 2) := rfl
  obtain ⟨low, high, places, hlow, hhigh, hplaces, -, hall⟩ :=
    resolve_rounded_float Library.sample {} _ _ _ hcheck
  have hlow := Argument.float.inj (Except.ok.inj (hone.symm.trans hlow))
  have hhigh := Argument.float.inj (Except.ok.inj (htwo.symm.trans hhigh))
  have hplaces := Argument.int.inj (Except.ok.inj (hscale.symm.trans hplaces))
  obtain rfl : places = 2 := by omega
  refine ⟨hcheck, low, high, hlow, hhigh, fun source s => ?_⟩
  obtain ⟨v, r, t, -, hr, -, hwithin⟩ := hall source s
  exact ⟨v, r, t, hr, hwithin⟩

/-- The number nearest to `10 ^ 308`. -/
def largeBound : Binary64.Finite := ⟨false, 156575653125701 * Nat.pow 2 2050, by decide +kernel⟩

def halfOfLarge : Binary64.Finite := ⟨false, 156575653125701 * Nat.pow 2 2049, by decide +kernel⟩

/-- A word that stands for one half. -/
def middleWord : WordCycle := ⟨[9223372036854775808], 0⟩

theorem Draw.run_float (range : FloatRange) {σ : Type} (source : Source σ) (s : σ) :
    (Draw.float range).run source s =
      (((Binary64.ofUnits false ((source.word64 s).1.toNat / 4096 * Nat.pow 2 1022)).mul
        (range.high.sub range.low)).add range.low, (source.word64 s).2) := rfl

theorem run_float_middle {range : FloatRange} (hl : range.low = .ofInt 0)
    (hh : range.high = .finite largeBound) :
    (Draw.float range).run WordCycle.source middleWord =
      (.finite halfOfLarge, { middleWord with taken := 1 }) := by
  have hword : WordCycle.source.word64 middleWord =
      (9223372036854775808, { middleWord with taken := 1 }) := rfl
  have hhalf : ((Binary64.ofUnits false
      (UInt64.toNat 9223372036854775808 / 4096 * Nat.pow 2 1022)).mul
        ((Binary64.finite largeBound).sub (.ofInt 0))).add (.ofInt 0) = .finite halfOfLarge := by
    decide +kernel
  rw [Draw.run_float, hword, hl, hh, hhalf]

/-- Ten decimal places of a number up to `10 ^ 308`. -/
def tenPlaces : Call :=
  ⟨"float", [.int 0 (by decide), .float largeBound, .int 10 (by decide)]⟩

theorem outcome_tenPlaces :
    (Catalogue.builtin Library.sample {}).check tenPlaces = .ok () ∧
      ((Catalogue.builtin Library.sample {}).resolve
        ⟨"float", [.int 0 (by decide), .float largeBound]⟩).outcome WordCycle.source middleWord =
          (.ok (.float halfOfLarge), { middleWord with taken := 1 }) ∧
      ((Catalogue.builtin Library.sample {}).resolve tenPlaces).outcome WordCycle.source middleWord =
        (.ok (.float largeBound), { middleWord with taken := 1 }) := by
  have hcheck : (Catalogue.builtin Library.sample {}).check tenPlaces = .ok () := by decide +kernel
  have hzero : ParamKind.float.coerce (.int 0 (by decide)) = .ok (.float (.ofInt 0)) := rfl
  have hlarge : ParamKind.float.coerce (.float largeBound) = .ok (.float (.finite largeBound)) := rfl
  have hten : ParamKind.int.coerce (.int 10 (by decide)) = .ok (.int 10) := rfl
  obtain ⟨range, low, high, places, ⟨hlow, hhigh, hplaces⟩, ⟨hl, hh, -⟩, -, hdraw, hrounded⟩ :=
    exists_float_range hcheck
  have hlow := Argument.float.inj (Except.ok.inj (hzero.symm.trans hlow))
  have hhigh := Argument.float.inj (Except.ok.inj (hlarge.symm.trans hhigh))
  have hplaces := Argument.int.inj (Except.ok.inj (hten.symm.trans hplaces))
  obtain rfl : places = 10 := by omega
  rw [← hlow] at hl
  rw [← hhigh] at hh
  have hrun := run_float_middle hl hh
  have hround : (((Binary64.finite halfOfLarge).mul (.ofInt (Nat.pow 10 10))).roundHalfAway.div
      (.ofInt (Nat.pow 10 10))).clamp (.ofInt 0) (.finite largeBound) = .finite largeBound := by
    decide +kernel
  rw [← hl, ← hh] at hround
  rw [hdraw]
  refine ⟨hcheck, Library.outcome_drawnFloat hrun rfl, ?_⟩
  rw [tenPlaces, hrounded]
  exact Library.outcome_drawnFloat hrun (hround.trans hh)

/-- Half of the bound is drawn, and with decimal places the bound itself. -/
theorem tenPlaces_not_near :
    ¬ ∀ (o : Options) (a b k : Value) (places : Nat),
        (Catalogue.builtin Library.sample o).check ⟨"float", [a, b, k]⟩ = .ok () →
        ParamKind.int.coerce k = .ok (.int places) →
        ∀ {σ : Type} (source : Source σ) (s t u : σ) (v r : Binary64.Finite),
          ((Catalogue.builtin Library.sample o).resolve ⟨"float", [a, b]⟩).outcome source s =
            (.ok (.float v), t) →
          ((Catalogue.builtin Library.sample o).resolve ⟨"float", [a, b, k]⟩).outcome source s =
            (.ok (.float r), u) →
          |r.toRat - v.toRat| ≤ 1 / 10 ^ places + |v.toRat| / 2 ^ 40 := by
  intro hnear
  obtain ⟨hcheck, hdraw, hrounded⟩ := outcome_tenPlaces
  have hbound := hnear {} _ _ _ 10 hcheck rfl _ _ _ _ _ _ hdraw hrounded
  have hone : (1 : ℚ) ≤ halfOfLarge.toRat := by
    have hsigned : (Binary64.one : Int) ≤ halfOfLarge.signed := by decide +kernel
    rw [Binary64.Finite.toRat, le_div_iff₀ Binary64.one_pos, one_mul]
    exact_mod_cast hsigned
  have hdouble : largeBound.toRat = 2 * halfOfLarge.toRat := by
    have hsigned : largeBound.signed = 2 * halfOfLarge.signed := by decide +kernel
    rw [Binary64.Finite.toRat, Binary64.Finite.toRat, hsigned, Int.cast_mul, mul_div_assoc]
    rfl
  rw [hdouble, abs_of_nonneg (by linarith), abs_of_nonneg (by linarith)] at hbound
  linarith

end Fixture
