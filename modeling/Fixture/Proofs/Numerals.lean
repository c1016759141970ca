import Fixture.Text
import Mathlib.Algebra.Group.Nat.Defs

/-! Decimal numerals read back. A numeral's value adds up from its two parts, so zeros in front of it
count for nothing and zeros after it shift it; what is written for a number has the number as its
value. -/
namespace Fixture.Text

theorem digitsValue_eq (ds : List Char) : digitsValue ds = Nat.ofDigitChars 10 ds 0 := rfl

theorem digitsValue_append (ds es : List Char) :
    digitsValue (ds ++ es) = 10 ^ es.length * digitsValue ds + digitsValue es := by
  simp only [digitsValue_eq]
  rw [Nat.ofDigitChars_append, Nat.ofDigitChars_eq_ofDigitChars_zero]

@[simp] theorem digitsValue_replicate_zero (n : Nat) :
    digitsValue (List.replicate n '0') = 0 := by
  rw [digitsValue_eq, Nat.ofDigitChars_replicate_zero, Nat.mul_zero]

theorem digitsValue_zeros_append (n : Nat) (ds : List Char) :
    digitsValue (List.replicate n '0' ++ ds) = digitsValue ds := by
  rw [digitsValue_append, digitsValue_replicate_zero, Nat.mul_zero, Nat.zero_add]

theorem digitsValue_append_zeros (ds : List Char) (n : Nat) :
    digitsValue (ds ++ List.replicate n '0') = 10 ^ n * digitsValue ds := by
  rw [digitsValue_append, digitsValue_replicate_zero, List.length_replicate, Nat.add_zero]

theorem isDigit_of_mem_zeros {n : Nat} {c : Char} (h : c ∈ List.replicate n '0') :
    c.isDigit = true := by
  rw [List.eq_of_mem_replicate h]
  decide

section Decimal
variable {n : Nat} {c : Char}

theorem decimal_ne_nil : decimal n ≠ [] := Nat.toDigits_ne_nil

theorem isDigit_of_mem_decimal (h : c ∈ decimal n) : c.isDigit = true :=
  Nat.isDigit_of_mem_toDigits (by decide) (by decide) h

@[simp] theorem digitsValue_decimal : digitsValue (decimal n) = n :=
  Nat.ofDigitChars_ten_toDigits

theorem length_decimal_le_iff {k : Nat} (hk : 0 < k) : (decimal n).length ≤ k ↔ n < 10 ^ k :=
  Nat.length_toDigits_le_iff (by decide) hk

theorem decimal_mul_ten (hn : 0 < n) : decimal (n * 10) = decimal n ++ ['0'] := by
  have h := Nat.toDigits_append_toDigits (b := 10) (n := n) (d := 0) (by decide) hn (by decide)
  rw [decimal, Nat.mul_comm, ← Nat.add_zero (10 * n), ← h]
  rfl

theorem length_decimal_mul_pow (hn : 0 < n) (k : Nat) :
    (decimal (n * 10 ^ k)).length = (decimal n).length + k := by
  induction k with
  | zero => simp
  | succ k ih =>
    have hpos : 0 < n * 10 ^ k := Nat.mul_pos hn (Nat.pow_pos (by decide))
    rw [Nat.pow_succ, ← Nat.mul_assoc, decimal_mul_ten hpos, List.length_append, ih]
    rfl

end Decimal

theorem natural?_eq_some {s : List Char} {n : Nat} :
    natural? s = some n ↔ s ≠ [] ∧ (∀ c ∈ s, c.isDigit = true) ∧ digitsValue s = n := by
  rw [natural?, ← List.all_eq_true]
  by_cases h : s ≠ [] ∧ s.all Char.isDigit = true
  · rw [if_pos h, Option.some.injEq]
    exact ⟨fun hn => ⟨h.1, h.2, hn⟩, fun hn => hn.2.2⟩
  · rw [if_neg h]
    exact ⟨nofun, fun hn => absurd ⟨hn.1, hn.2.1⟩ h⟩

theorem natural?_decimal (n : Nat) : natural? (decimal n) = some n :=
  natural?_eq_some.2 ⟨decimal_ne_nil, fun _ => isDigit_of_mem_decimal, digitsValue_decimal⟩

section Signed
variable {signed : Bool} {s : List Char} {n : Int}

theorem integer?_of_head (hplus : s.head? ≠ some '+') (hminus : s.head? ≠ some '-') :
    integer? signed s = (natural? s).map Int.ofNat := by
  cases s with
  | nil => rfl
  | cons c s =>
    have hp : c ≠ '+' := fun h => hplus (congrArg some h)
    have hm : c ≠ '-' := fun h => hminus (congrArg some h)
    simp [integer?, hp, hm]

theorem isDigit_of_head_decimal {n : Nat} {c : Char} (h : (decimal n).head? = some c) :
    c.isDigit = true :=
  isDigit_of_mem_decimal (List.mem_of_head? h)

theorem integer?_signedDecimal (n : Int) : integer? true (signedDecimal n) = some n := by
  cases n with
  | ofNat n =>
    have hplus (h : (decimal n).head? = some '+') : False :=
      absurd (isDigit_of_head_decimal h) (by decide)
    have hminus (h : (decimal n).head? = some '-') : False :=
      absurd (isDigit_of_head_decimal h) (by decide)
    rw [signedDecimal, integer?_of_head hplus hminus, natural?_decimal]
    rfl
  | negSucc n =>
    rw [signedDecimal, integer?, if_pos rfl, natural?_decimal]
    rfl

theorem mem_of_integer? (h : integer? signed s = some n) {c : Char} (hc : c ∈ s) :
    c.isDigit = true ∨ c = '+' ∨ c = '-' := by
  have digits {t : List Char} {m : Nat} (ht : natural? t = some m) (hc : c ∈ t) :
      c.isDigit = true := (natural?_eq_some.1 ht).2.1 c hc
  unfold integer? at h
  split at h
  · obtain ⟨m, hm, -⟩ := Option.map_eq_some_iff.1 h
    rcases List.mem_cons.1 hc with rfl | hc
    · exact .inr (.inl rfl)
    · exact .inl (digits hm hc)
  · split at h
    · obtain ⟨m, hm, -⟩ := Option.map_eq_some_iff.1 h
      rcases List.mem_cons.1 hc with rfl | hc
      · exact .inr (.inr rfl)
      · exact .inl (digits hm hc)
    · cases h
  · obtain ⟨m, hm, -⟩ := Option.map_eq_some_iff.1 h
    exact .inl (digits hm hc)

theorem integer?_ne_nil (h : integer? signed s = some n) : s ≠ [] := by
  rintro rfl
  cases h

end Signed

section Padded
variable {width n : Nat} {c : Char}

theorem isDigit_of_mem_padded (h : c ∈ padded width n) : c.isDigit = true := by
  rcases List.mem_append.1 h with h | h
  · exact isDigit_of_mem_zeros h
  · exact isDigit_of_mem_decimal h

@[simp] theorem digitsValue_padded : digitsValue (padded width n) = n := by
  rw [padded, digitsValue_zeros_append, digitsValue_decimal]

theorem padded_ne_nil : padded width n ≠ [] :=
  List.append_ne_nil_of_right_ne_nil _ decimal_ne_nil

theorem length_padded (hw : 0 < width) (h : n < 10 ^ width) : (padded width n).length = width := by
  have hl := (length_decimal_le_iff hw).2 h
  rw [padded, List.length_append, List.length_replicate]
  omega

end Padded

end Fixture.Text
