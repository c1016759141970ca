import Fixture.Proofs.NumberTexts
import Fixture.Proofs.Rounding

/-! The text of a float reads back as the float, in all its forms: the digits are those of a decimal
that reads back, and what is read depends on the value of a decimal alone, not on where its point or
its zeros stand. -/
namespace Fixture

theorem nearest_mul_mul (n d : Nat) {c : Nat} (hc : 0 < c) :
    nearest (n * c) (d * c) = nearest n d := by
  have hdiv : n * c / (d * c) = n / d := Nat.mul_div_mul_right n d hc
  have hmod : n * c % (d * c) = n % d * c := Nat.mul_mod_mul_right c n d
  have hlt (a b : Nat) : a * c < b * c ↔ a < b := Nat.mul_lt_mul_right hc
  simp only [nearest, hdiv, hmod, ← Nat.mul_assoc, hlt]

theorem significant_mul_mul (precision n d : Nat) {c : Nat} (hc : 0 < c) :
    significant precision (n * c) (d * c) = significant precision n d := by
  have hdiv : n * c / (d * c) = n / d := Nat.mul_div_mul_right n d hc
  simp only [significant, hdiv]
  rw [Nat.mul_right_comm, nearest_mul_mul n _ hc]

namespace Binary64

theorem round_mul_mul (negative : Bool) (n d : Nat) {c : Nat} (hc : 0 < c) :
    round negative (n * c) (d * c) = round negative n d := by
  rw [round, significant_mul_mul precision n d hc, round]

namespace Decimal

/-- The ratio of a decimal, brought to the denominator `10 ^ m`. -/
theorem round_ratio (negative : Bool) (d : Decimal) {m e : Nat} (h : (e : Int) = d.exponent + m) :
    round negative d.ratio.1 d.ratio.2 =
      round negative (d.digits * 10 ^ e * one) (10 ^ m) := by
  obtain ⟨digits, exponent⟩ := d
  cases exponent with
  | ofNat k =>
    have he : e = k + m := by simp only [Int.ofNat_eq_natCast] at h; omega
    have hpos : 0 < 10 ^ m := Nat.pow_pos (by decide)
    have hn : digits * 10 ^ e * one = digits * Nat.pow 10 k * one * 10 ^ m := by
      rw [he, Nat.pow_add, Nat.pow_eq, ← Nat.mul_assoc, Nat.mul_right_comm]
    have hscale := round_mul_mul negative (digits * Nat.pow 10 k * one) 1 hpos
    rw [Nat.one_mul] at hscale
    rw [hn, hscale]
    rfl
  | negSucc k =>
    have hm : m = k + 1 + e := by simp only [Int.negSucc_eq] at h; omega
    have hpos : 0 < 10 ^ e := Nat.pow_pos (by decide)
    have hn : digits * 10 ^ e * one = digits * one * 10 ^ e := Nat.mul_right_comm _ _ _
    have hd : 10 ^ m = Nat.pow 10 (k + 1) * 10 ^ e := by rw [hm, Nat.pow_add, Nat.pow_eq]
    rw [hn, hd]
    exact (round_mul_mul negative _ _ hpos).symm

theorem toBinary_shift (negative : Bool) {n : Nat} (hn : 0 < n) (k : Nat) (e : Int) :
    toBinary negative ⟨n * 10 ^ k, e⟩ = toBinary negative ⟨n, e + k⟩ := by
  have hpos : 0 < n * 10 ^ k := Nat.mul_pos hn (Nat.pow_pos (by decide))
  have htop : e + ((Text.decimal (n * 10 ^ k)).length : Nat) =
      e + k + ((Text.decimal n).length : Nat) := by
    rw [Text.length_decimal_mul_pow hn]
    omega
  have hround : round negative (ratio ⟨n * 10 ^ k, e⟩).1 (ratio ⟨n * 10 ^ k, e⟩).2 =
      round negative (ratio ⟨n, e + k⟩).1 (ratio ⟨n, e + k⟩).2 := by
    have he : ((e + e.natAbs).toNat : Int) = e + e.natAbs := by omega
    have hek : (((e + e.natAbs).toNat + k : Nat) : Int) = e + k + e.natAbs := by omega
    rw [round_ratio negative ⟨n * 10 ^ k, e⟩ he, round_ratio negative ⟨n, e + k⟩ hek,
      Nat.add_comm _ k, Nat.pow_add, Nat.mul_assoc n]
  simp only [toBinary, Nat.ne_of_gt hpos, Nat.ne_of_gt hn, if_false, htop, hround]

end Decimal

namespace Finite
variable {x : Finite} {tie : Tie}

theorem round_units (x : Finite) : round x.negative x.units 1 = finite x :=
  round_of_fits x.negative x.fits

/-- The powers of ten between which the digits of a finite number end. -/
theorem length_exact_bounds (hx : x.units ≠ 0) :
    750 < (Text.decimal (x.units * Nat.pow 5 1074)).length ∧
      (Text.decimal (x.units * Nat.pow 5 1074)).length ≤ 1384 := by
  have hlow : 10 ^ 750 ≤ Nat.pow 5 1074 := by decide +kernel
  have hhigh : limit * Nat.pow 5 1074 ≤ 10 ^ 1384 := by decide +kernel
  have hpos : 0 < Nat.pow 5 1074 := Nat.pow_pos (by decide)
  constructor
  · refine Nat.lt_of_not_le fun hle => ?_
    have hlt := (Text.length_decimal_le_iff (by decide)).1 hle
    have hle : Nat.pow 5 1074 ≤ x.units * Nat.pow 5 1074 :=
      Nat.le_mul_of_pos_left _ (Nat.pos_of_ne_zero hx)
    exact absurd (Nat.lt_of_le_of_lt (Nat.le_trans hlow hle) hlt) (Nat.lt_irrefl _)
  · refine (Text.length_decimal_le_iff (by decide)).2 (Nat.lt_of_lt_of_le ?_ hhigh)
    exact Nat.mul_lt_mul_of_pos_right x.fits.1 hpos

/-- All the digits of a number read back, without any rounding. -/
theorem readsBack_exact (hx : x.units ≠ 0) : x.exact.toBinary x.negative = finite x := by
  obtain ⟨hlow, hhigh⟩ := length_exact_bounds hx
  have hpos : 0 < Nat.pow 5 1074 := Nat.pow_pos (by decide)
  have hdigits : x.exact.digits ≠ 0 := Nat.mul_ne_zero hx (Nat.ne_of_gt hpos)
  have hten : Nat.pow 5 1074 * one = 1 * 10 ^ 1074 := by decide +kernel
  have hround : round x.negative x.exact.ratio.1 x.exact.ratio.2 = finite x := by
    rw [Decimal.round_ratio x.negative x.exact (m := 1074) (e := 0) rfl, ← round_units x]
    have hn : x.exact.digits * 10 ^ 0 * one = x.units * 10 ^ 1074 := by
      simp only [exact, Nat.pow_zero, Nat.mul_one]
      rw [Nat.mul_assoc, hten, Nat.one_mul]
    have hscale := round_mul_mul x.negative x.units 1 (Nat.pow_pos (by decide) : 0 < 10 ^ 1074)
    rw [Nat.one_mul] at hscale
    rw [hn, hscale]
  have htop : ¬ 310 < x.exact.exponent + ((Text.decimal x.exact.digits).length : Int) := by
    simp only [exact]
    omega
  have hbottom : ¬ x.exact.exponent + ((Text.decimal x.exact.digits).length : Int) < -330 := by
    simp only [exact]
    omega
  rw [Decimal.toBinary, if_neg hdigits]
  dsimp only
  rw [if_neg htop, if_neg hbottom]
  exact hround

theorem toBinary_shortest (tie : Tie) (hx : x.units ≠ 0) :
    (x.shortest tie).toBinary x.negative = finite x := by
  unfold shortest
  cases h : x.firstGrid? tie ((List.range 17).map fun n : Nat => x.magnitude - n) with
  | none => exact readsBack_exact hx
  | some d => exact of_decide_eq_true (readsBack_of_firstGrid? h)

theorem digits_shortest_pos (hx : x.units ≠ 0) : 0 < (x.shortest tie).digits := by
  refine Nat.pos_of_ne_zero fun h => ?_
  have hzero := toBinary_shortest tie hx
  rw [Decimal.toBinary, if_pos h] at hzero
  exact hx (congrArg units (Binary64.finite.inj hzero)).symm

end Finite

theorem exists_zeros (ds : List Char) :
    ∃ k, ds = (ds.reverse.dropWhile (· == '0')).reverse ++ List.replicate k '0' := by
  have hsplit := List.takeWhile_append_dropWhile (p := (· == '0')) (l := ds.reverse)
  have hzeros : ds.reverse.takeWhile (· == '0') =
      List.replicate (ds.reverse.takeWhile (· == '0')).length '0' := by
    refine List.eq_replicate_iff.2 ⟨rfl, fun c hc => ?_⟩
    exact beq_iff_eq.1 (List.all_eq_true.1 List.all_takeWhile c hc)
  refine ⟨(ds.reverse.takeWhile (· == '0')).length, ?_⟩
  rw [hzeros] at hsplit
  have hrev := congrArg List.reverse hsplit
  rw [List.reverse_append, List.reverse_reverse, List.reverse_replicate] at hrev
  exact hrev.symm

/-- The significant digits of a number, and that they are read back where the exponent counts from
the last of them. -/
structure Scientific.Denotes (s : Scientific) (x : Finite) : Prop where
  ne_nil : s.digits ≠ []
  isDigit : ∀ c ∈ s.digits, c.isDigit = true
  pos : 0 < Text.digitsValue s.digits
  reads : Decimal.toBinary x.negative
    ⟨Text.digitsValue s.digits, s.exponent + 1 - s.digits.length⟩ = finite x

/-- Zeros at the end of a decimal's digits can be left out. -/
theorem denotes_of_toBinary {x : Finite} {d : Decimal} (hpos : 0 < d.digits)
    (hreads : d.toBinary x.negative = finite x) {ds : List Char} {k : Nat}
    (hds : Text.decimal d.digits = ds ++ List.replicate k '0') :
    Scientific.Denotes ⟨ds, d.exponent + (Text.decimal d.digits).length - 1⟩ x := by
  have hvalue : d.digits = Text.digitsValue ds * 10 ^ k := by
    rw [← Text.digitsValue_decimal (n := d.digits), hds, Text.digitsValue_append_zeros,
      Nat.mul_comm]
  have hdigits : 0 < Text.digitsValue ds := by
    refine Nat.pos_of_ne_zero fun h => ?_
    rw [hvalue, h, Nat.zero_mul] at hpos
    exact Nat.lt_irrefl 0 hpos
  have hlength : (Text.decimal d.digits).length = ds.length + k := by
    rw [hds, List.length_append, List.length_replicate]
  have he : d.exponent + ((Text.decimal d.digits).length : Int) - 1 + 1 - ds.length =
      d.exponent + k := by omega
  refine ⟨?ne_nil, fun c hc => ?isDigit, hdigits, ?reads⟩
  case ne_nil =>
    rintro rfl
    exact Nat.lt_irrefl 0 hdigits
  case isDigit =>
    refine Text.isDigit_of_mem_decimal (n := d.digits) ?_
    rw [hds]
    exact List.mem_append_left _ hc
  case reads =>
    rw [he, ← Decimal.toBinary_shift x.negative hdigits, ← hvalue]
    exact hreads

theorem Finite.denotes_scientific {x : Finite} (tie : Tie) (hx : x.units ≠ 0) :
    (x.scientific tie).Denotes x := by
  obtain ⟨k, hk⟩ := exists_zeros (Text.decimal (x.shortest tie).digits)
  exact denotes_of_toBinary (digits_shortest_pos hx) (toBinary_shortest _ hx) hk

section Reading
variable {w f r s : List Char} {e : Int}

theorem digitRun_append (hw : ∀ c ∈ w, c.isDigit = true) (hr : ∀ c ∈ r.head?, c.isDigit = false) :
    digitRun (w ++ r) = (w, r) := by
  have hrest : r.takeWhile Char.isDigit = [] ∧ r.dropWhile Char.isDigit = r := by
    cases r with
    | nil => exact ⟨rfl, rfl⟩
    | cons c r => simp [hr c rfl]
  rw [digitRun, List.takeWhile_append_of_pos hw, List.dropWhile_append_of_pos hw, hrest.1, hrest.2,
    List.append_nil]

theorem mantissa_point (hw : ∀ c ∈ w, c.isDigit = true) (hf : ∀ c ∈ f, c.isDigit = true)
    (hr : ∀ c ∈ r.head?, c.isDigit = false) : mantissa (w ++ '.' :: (f ++ r)) = (w, f, r) := by
  have hpoint : ∀ c ∈ ('.' :: (f ++ r)).head?, c.isDigit = false := by
    rintro c ⟨⟩
    decide
  simp only [mantissa, digitRun_append hw hpoint, digitRun_append hf hr]

theorem mantissa_whole (hw : ∀ c ∈ w, c.isDigit = true)
    (hr : ∀ c ∈ r.head?, c.isDigit = false ∧ c ≠ '.') : mantissa (w ++ r) = (w, [], r) := by
  rw [mantissa, digitRun_append hw fun c hc => (hr c hc).1]
  cases r with
  | nil => rfl
  | cons c r =>
    have hc := (hr c rfl).2
    split
    · rename_i h
      cases h
      exact absurd rfl hc
    · rename_i h
      cases h
      rfl

theorem unsigned?_eq (negative : Bool) (hs : mantissa s = (w, f, r)) (hw : w ≠ [])
    (he : exponent? r = some e) : unsigned? negative s =
      some (Decimal.toBinary negative ⟨Text.digitsValue (w ++ f), e - f.length⟩) := by
  have hne : ¬ (w = [] ∧ f = []) := fun h => hw h.1
  simp only [unsigned?, hs, if_neg hne, he, Option.map_some]

end Reading

/-- A text without a sign that is read as the float, and as no integer. -/
structure FloatText (x : Finite) (s : List Char) : Prop where
  reads : unsigned? x.negative s = some (finite x)
  head : ∃ c ∈ s.head?, c.isDigit = true
  mark : '.' ∈ s ∨ 'e' ∈ s

namespace Scientific.Denotes
variable {s : Scientific} {x : Finite}

theorem reads_zeros (h : s.Denotes x) (k : Nat) :
    Decimal.toBinary x.negative ⟨Text.digitsValue (s.digits ++ List.replicate k '0'),
      s.exponent + 1 - s.digits.length - k⟩ = finite x := by
  rw [Text.digitsValue_append_zeros, Nat.mul_comm, Decimal.toBinary_shift x.negative h.pos,
    Int.sub_add_cancel]
  exact h.reads

theorem head_isDigit (h : s.Denotes x) : ∃ c r, s.digits = c :: r ∧ c.isDigit = true := by
  obtain ⟨c, r, hs⟩ := List.exists_cons_of_ne_nil h.ne_nil
  exact ⟨c, r, hs, h.isDigit c (by rw [hs]; exact List.mem_cons_self)⟩

theorem text_whole (h : s.Denotes x) {e : Nat} (he : s.exponent = e)
    (hl : s.digits.length ≤ e + 1) :
    FloatText x (s.digits ++ List.replicate (e + 1 - s.digits.length) '0' ++ ['.', '0']) := by
  have hw : ∀ c ∈ s.digits ++ List.replicate (e + 1 - s.digits.length) '0', c.isDigit = true := by
    intro c hc
    rcases List.mem_append.1 hc with hc | hc
    · exact h.isDigit c hc
    · exact Text.isDigit_of_mem_zeros hc
  have hm := mantissa_point (f := ['0']) (r := []) hw (by simp) (by simp)
  refine ⟨?reads, ?head, .inl (by simp)⟩
  case reads =>
    have hne : s.digits ++ List.replicate (e + 1 - s.digits.length) '0' ≠ [] :=
      List.append_ne_nil_of_left_ne_nil h.ne_nil _
    have hzeros := h.reads_zeros (e + 1 - s.digits.length + 1)
    have hexp : s.exponent + 1 - s.digits.length - ((e + 1 - s.digits.length + 1 : Nat) : Int) =
        0 - (['0'].length : Nat) := by
      rw [he, List.length_singleton]
      omega
    rw [hexp, List.replicate_succ', ← List.append_assoc] at hzeros
    exact (unsigned?_eq _ hm hne rfl).trans (congrArg some hzeros)
  case head =>
    obtain ⟨c, r, hs, hc⟩ := h.head_isDigit
    exact ⟨c, by simp [hs], hc⟩

theorem text_point (h : s.Denotes x) {e : Nat} (he : s.exponent = e)
    (hl : e + 1 < s.digits.length) :
    FloatText x (s.digits.take (e + 1) ++ '.' :: s.digits.drop (e + 1)) := by
  have hw : ∀ c ∈ s.digits.take (e + 1), c.isDigit = true :=
    fun c hc => h.isDigit c (List.mem_of_mem_take hc)
  have hf : ∀ c ∈ s.digits.drop (e + 1), c.isDigit = true :=
    fun c hc => h.isDigit c (List.mem_of_mem_drop hc)
  have hm := mantissa_point (r := []) hw hf (by simp)
  rw [List.append_nil] at hm
  obtain ⟨c, r, hs, hc⟩ := h.head_isDigit
  refine ⟨?reads, ⟨c, by simp [hs], hc⟩, .inl (by simp)⟩
  case reads =>
    have hne : s.digits.take (e + 1) ≠ [] := by simp [hs]
    have hexp : 0 - ((s.digits.drop (e + 1)).length : Int) = s.exponent + 1 - s.digits.length := by
      rw [he, List.length_drop]
      omega
    rw [unsigned?_eq _ hm hne rfl, List.take_append_drop, hexp]
    exact congrArg some h.reads

theorem text_fraction (h : s.Denotes x) {e : Nat} (he : s.exponent = .negSucc e) :
    FloatText x ('0' :: '.' :: List.replicate e '0' ++ s.digits) := by
  have hf : ∀ c ∈ List.replicate e '0' ++ s.digits, c.isDigit = true := by
    intro c hc
    rcases List.mem_append.1 hc with hc | hc
    · exact Text.isDigit_of_mem_zeros hc
    · exact h.isDigit c hc
  have hm := mantissa_point (w := ['0']) (r := []) (by simp) hf (by simp)
  rw [List.append_nil] at hm
  refine ⟨?reads, ⟨'0', rfl, rfl⟩, .inl (by simp)⟩
  case reads =>
    have hvalue : Text.digitsValue (['0'] ++ (List.replicate e '0' ++ s.digits)) =
        Text.digitsValue s.digits := by
      rw [← List.append_assoc]
      exact Text.digitsValue_zeros_append (e + 1) s.digits
    have hexp : 0 - ((List.replicate e '0' ++ s.digits).length : Int) =
        s.exponent + 1 - s.digits.length := by
      rw [he, List.length_append, List.length_replicate]
      omega
    have hread := unsigned?_eq x.negative hm (by simp) rfl
    rw [hvalue, hexp] at hread
    exact hread.trans (congrArg some h.reads)

theorem text_positional (h : s.Denotes x) : FloatText x (s.positional ['.', '0']) := by
  unfold positional
  cases he : s.exponent with
  | ofNat e =>
    by_cases hl : s.digits.length ≤ e + 1
    · have hlength : (s.digits ++ List.replicate (e + 1 - s.digits.length) '0').length = e + 1 := by
        rw [List.length_append, List.length_replicate]
        omega
      dsimp only
      rw [if_pos hl, List.take_of_length_le (Nat.le_of_eq hlength)]
      exact h.text_whole he hl
    · have hzeros : e + 1 - s.digits.length = 0 := by omega
      dsimp only
      rw [if_neg hl, hzeros, List.replicate_zero, List.append_nil]
      exact h.text_point he (by omega)
  | negSucc e => exact h.text_fraction he

theorem exponent?_signed (e : Int) :
    exponent? ('e' :: if e < 0 then Text.signedDecimal e else '+' :: Text.signedDecimal e) =
      some e := by
  rw [exponent?, if_pos (.inl rfl)]
  split
  · exact Text.integer?_signedDecimal e
  · rename_i hneg
    obtain ⟨n, rfl⟩ := Int.eq_ofNat_of_zero_le (Int.not_lt.1 hneg)
    rw [Text.integer?]
    exact congrArg (Option.map Int.ofNat) (Text.natural?_decimal n)

theorem text_exponential (h : s.Denotes x) : FloatText x s.exponential := by
  obtain ⟨c, r, hs, hc⟩ := h.head_isDigit
  have hreads := h.reads
  have hdigits := h.isDigit
  unfold exponential
  rw [hs] at hreads hdigits ⊢
  cases r with
  | nil =>
    have hm := mantissa_whole (w := [c])
      (r := 'e' :: if s.exponent < 0 then Text.signedDecimal s.exponent
        else '+' :: Text.signedDecimal s.exponent) hdigits
      (by rintro d ⟨⟩; decide)
    refine ⟨?_, ⟨c, rfl, hc⟩, .inr (by simp)⟩
    have hread := unsigned?_eq x.negative hm (by simp) (exponent?_signed s.exponent)
    refine hread.trans (congrArg some ?_)
    rw [← hreads]
    simp
  | cons d r =>
    have hm := mantissa_point (w := [c]) (f := d :: r)
      (r := 'e' :: if s.exponent < 0 then Text.signedDecimal s.exponent
        else '+' :: Text.signedDecimal s.exponent) (by simpa using hc)
      (fun c hc => hdigits c (List.mem_cons_of_mem _ hc)) (by rintro d ⟨⟩; decide)
    refine ⟨?_, ⟨c, rfl, hc⟩, .inr (by simp)⟩
    have hread := unsigned?_eq x.negative hm (by simp) (exponent?_signed s.exponent)
    have hexp : s.exponent + 1 - ((c :: d :: r).length : Int) =
        s.exponent - ((d :: r).length : Int) := by
      simp only [List.length_cons]
      omega
    rw [hexp] at hreads
    simpa using hread.trans (congrArg some hreads)

end Scientific.Denotes

theorem floatText_zero {x : Finite} (hx : x.units = 0) : FloatText x ['0', '.', '0'] := by
  obtain ⟨negative, units, fits⟩ := x
  cases hx
  have hm : mantissa ['0', '.', '0'] = (['0'], ['0'], []) := by decide
  exact ⟨unsigned?_eq _ hm (by simp) rfl, ⟨'0', rfl, rfl⟩, .inl (by simp)⟩

theorem exists_floatText (x : Finite) : ∃ s, x.text = x.signText ++ s ∧ FloatText x s := by
  by_cases hx : x.units = 0
  · exact ⟨_, by rw [Finite.text, if_pos hx], floatText_zero hx⟩
  · have hdenotes := x.denotes_scientific .even hx
    by_cases he : -5 ≤ (x.scientific .even).exponent ∧ (x.scientific .even).exponent ≤ 15
    · refine ⟨_, ?_, hdenotes.text_positional⟩
      rw [Finite.text, if_neg hx]
      simp only [if_pos he]
    · refine ⟨_, ?_, hdenotes.text_exponential⟩
      rw [Finite.text, if_neg hx]
      simp only [if_neg he]

theorem toLower_of_isDigit {c : Char} (h : c.isDigit = true) : c.toLower = c := by
  have hc := Char.isDigit_iff_toNat.1 h
  have h9 : '9'.toNat = 57 := rfl
  have hA : ¬ ('A'.val ≤ c.val ∧ c.val ≤ 'Z'.val) := by
    rintro ⟨hA, -⟩
    have : 65 ≤ c.toNat := hA
    omega
  exact dif_neg hA

theorem FloatText.word? {x : Finite} {s : List Char} (h : FloatText x s) :
    Binary64.word? x.negative s = some (finite x) := by
  obtain ⟨c, hs, hc⟩ := h.head
  cases s with
  | nil => cases hs
  | cons d s =>
    cases hs
    have hne {t : List Char} {e : Char} (he : e ≠ c) :
        String.ofList ((c :: s).map Char.toLower) ≠ String.ofList (e :: t) := by
      intro h
      have h := String.ofList_injective h
      rw [List.map_cons, toLower_of_isDigit hc] at h
      exact he (List.cons.inj h).1.symm
    have hi : 'i' ≠ c := by rintro rfl; exact absurd hc (by decide)
    have hn : 'n' ≠ c := by rintro rfl; exact absurd hc (by decide)
    have hinf : ¬ (String.ofList ((c :: s).map Char.toLower) = "inf" ∨
        String.ofList ((c :: s).map Char.toLower) = "infinity") := by
      rintro (h | h)
      · exact hne hi h
      · exact hne hi h
    rw [Binary64.word?, if_neg hinf, if_neg (hne hn)]
    exact h.reads

/-- The text of a finite number reads back as the number. -/
theorem read?_text (x : Finite) : read? x.text = some (finite x) := by
  obtain ⟨s, hs, h⟩ := exists_floatText x
  rw [hs, Finite.signText]
  by_cases hneg : x.negative = true
  · rw [if_pos hneg, List.singleton_append, read?]
    have hw := h.word?
    rwa [hneg] at hw
  · rw [if_neg hneg, List.nil_append]
    obtain ⟨c, hc, hdigit⟩ := h.head
    cases s with
    | nil => cases hc
    | cons d s =>
      cases hc
      have hw := h.word?
      rw [Bool.not_eq_true] at hneg
      rw [hneg] at hw
      unfold read?
      split
      · rename_i hplus
        cases hplus
        exact absurd hdigit (by decide)
      · rename_i hminus
        cases hminus
        exact absurd hdigit (by decide)
      · exact hw

theorem integer?_text (x : Finite) : Text.integer? true x.text = none := by
  obtain ⟨s, hs, h⟩ := exists_floatText x
  cases hn : Text.integer? true x.text with
  | none => rfl
  | some n =>
    obtain ⟨c, hc, hne⟩ : ∃ c ∈ s, ¬ (c.isDigit = true ∨ c = '+' ∨ c = '-') := by
      rcases h.mark with hm | hm
      · exact ⟨_, hm, by decide⟩
      · exact ⟨_, hm, by decide⟩
    exact absurd (Text.mem_of_integer? hn (by rw [hs]; exact List.mem_append_right _ hc)) hne

end Binary64
end Fixture
