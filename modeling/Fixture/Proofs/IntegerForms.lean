import Fixture.Proofs.ExactIntegers

/-! One integer in three forms: as an integer, as the float of the same value, and as a text. An
integer type takes the text for what it takes the integer for, blanks around it or not. The float it
takes so within 63 bits only: there an integer past them is refused that the type holds. -/
namespace Fixture

namespace Text
variable {signed : Bool} {m n : Int}

/-- The text of an integer is read as that integer, unless it has a sign where none is read. -/
theorem integer?_signedDecimal_eq_some :
    integer? signed (signedDecimal n) = some m ↔ m = n ∧ (n < 0 → signed = true) := by
  cases n with
  | ofNat n =>
    have hread : integer? signed (decimal n) = some (digitsValue (decimal n) : Int) :=
      (Numeral.plain decimal_ne_nil fun _ => isDigit_of_mem_decimal).integer?
    have hnonneg : ¬ Int.ofNat n < 0 := Int.not_lt.2 (Int.natCast_nonneg n)
    have hsign : (Int.ofNat n < 0 → signed = true) ↔ True := iff_true_intro fun h => absurd h hnonneg
    rw [signedDecimal, hread, digitsValue_decimal, hsign]
    simp [eq_comm]
  | negSucc n =>
    have hneg : Int.negSucc n < 0 := Int.negSucc_lt_zero n
    cases signed with
    | false => simp [signedDecimal, integer?, hneg]
    | true =>
      rw [integer?_signedDecimal]
      simp [eq_comm]

theorem trim_signedDecimal {before after : List Char} (hb : Blank before) (ha : Blank after) :
    trim (before ++ signedDecimal n ++ after) = signedDecimal n := by
  have hread := integer?_signedDecimal n
  have hchars : ∀ c ∈ signedDecimal n, isBlank c = false :=
    fun c hc => (numberChar_of_integer? hread hc).not_blank
  exact trim_eq hchars (integer?_ne_nil hread) hb ha

end Text

namespace IntType
variable {t : IntType} {m n : Int}

theorem signed_of_holds (h : t.Holds n) (hn : n < 0) : t.signed = true := by
  by_cases hs : t.signed = true
  · exact hs
  · have hlow : t.low = 0 := if_neg hs
    have hle : t.low ≤ n := h.1
    omega

theorem takes_int_iff {range : Value.intRange n} :
    t.Takes (.int n range) m ↔ t.Holds m ∧ m = n := by
  simp [Takes, Value.denotes_int_iff, Value.kind, eq_comm]

theorem takes_float_iff {x : Binary64.Finite} (hx : x.signed = n * Binary64.one) :
    t.Takes (.float x) m ↔
      t.Holds m ∧ m = n ∧ -9223372036854775808 < n ∧ n < 9223372036854775808 := by
  have hvalue : x.integer? = some n := Binary64.Finite.integer?_eq_some_iff.2 hx
  simp only [Takes, Value.denotes_float_iff, hvalue, Value.kind, forall_const, Option.some.injEq]
  constructor
  · rintro ⟨hm, rfl, hbits⟩
    exact ⟨hm, rfl, by omega, by omega⟩
  · rintro ⟨hm, rfl, hlow, hhigh⟩
    exact ⟨hm, rfl, by omega⟩

theorem takes_written_iff {before after : String} (hb : Text.Blank before.toList)
    (ha : Text.Blank after.toList) :
    t.Takes (.text (before ++ String.ofList (Text.signedDecimal n) ++ after)) m ↔
      t.Holds m ∧ m = n := by
  have htext : (before ++ String.ofList (Text.signedDecimal n) ++ after).toList =
      before.toList ++ Text.signedDecimal n ++ after.toList := by simp
  rw [Takes, Value.denotes_text_iff, htext, Text.trim_signedDecimal hb ha,
    Text.integer?_signedDecimal_eq_some]
  constructor
  · rintro ⟨hm, ⟨hn, -⟩, -⟩
    exact ⟨hm, hn⟩
  · rintro ⟨hm, rfl⟩
    exact ⟨hm, ⟨rfl, signed_of_holds hm⟩, nofun⟩

end IntType

namespace FieldType
variable {t : IntType} {v : Value}

theorem coerce_int_eq_ok {x : { n // t.Holds n }} :
    (int t).coerce v = .ok x ↔ t.Takes v x.val := by
  rw [coerce_int_eq]
  exact ofOption_eq_ok.trans scalar?_int_eq_some

theorem coerce_int_eq_error (h : ∀ n, ¬ t.Takes v n) :
    (int t).coerce v = .error (.ofValue t.name v) := by
  rw [coerce_int_eq]
  exact ofOption_eq_error fun ⟨n, _⟩ hn => h n (scalar?_int_eq_some.1 hn)

/-- A float of an integral value is coerced like the integer that it equals, exactly unless the type
holds that integer and the integer needs more than 63 bits. -/
theorem coerce_float_iff_coerce_int (t : IntType) {n : Int} (range : Value.intRange n)
    {x : Binary64.Finite} (hx : x.signed = n * Binary64.one) :
    (∀ m, (int t).coerce (.float x) = .ok m ↔ (int t).coerce (.int n range) = .ok m) ↔
      (t.Holds n → -9223372036854775808 < n ∧ n < 9223372036854775808) := by
  constructor
  · intro hall hn
    have hint : (int t).coerce (.int n range) = .ok ⟨n, hn⟩ :=
      coerce_int_eq_ok.2 (IntType.takes_int_iff.2 ⟨hn, rfl⟩)
    have hfloat : t.Takes (.float x) n := coerce_int_eq_ok.1 ((hall ⟨n, hn⟩).2 hint)
    exact ((IntType.takes_float_iff hx).1 hfloat).2.2
  · intro hbits m
    have hsame : t.Takes (.float x) m.val ↔ t.Takes (.int n range) m.val := by
      rw [IntType.takes_float_iff hx, IntType.takes_int_iff]
      constructor
      · rintro ⟨hm, hmn, -⟩
        exact ⟨hm, hmn⟩
      · rintro ⟨hm, hmn⟩
        exact ⟨hm, hmn, hbits (hmn ▸ hm)⟩
    exact coerce_int_eq_ok.trans (hsame.trans coerce_int_eq_ok.symm)

theorem coerce_float_iff_coerce_int_largest :
    let x : Binary64.Finite := ⟨false, 9223372036854774784 * Nat.pow 2 1074, by decide +kernel⟩
    x.signed = 9223372036854774784 * Binary64.one ∧
      ∀ m, (int .nat64).coerce (.float x) = .ok m ↔
        (int .nat64).coerce (.int 9223372036854774784 (by decide)) = .ok m := by
  intro x
  have hx : x.signed = 9223372036854774784 * Binary64.one := by decide +kernel
  exact ⟨hx, (coerce_float_iff_coerce_int .nat64 (by decide) hx).2 fun _ => by decide⟩

/-- The least integer of 64 bits as a float. -/
def leastFloat : Binary64.Finite := ⟨true, Nat.pow 2 1137, by decide +kernel⟩

/-- The least integer past those of 64 bits with a sign, as a float. -/
def pastFloat : Binary64.Finite := ⟨false, Nat.pow 2 1137, by decide +kernel⟩

theorem least_float_refused :
    ¬ (∀ (t : IntType) (n : Int) (range : Value.intRange n) (x : Binary64.Finite),
        x.signed = n * Binary64.one →
          ∀ m, (int t).coerce (.float x) = .ok m ↔ (int t).coerce (.int n range) = .ok m) ∧
      (leastFloat.signed = -9223372036854775808 * Binary64.one ∧
        (int .int64).coerce (.float leastFloat) = .error (.ofValue "i64" (.float leastFloat)) ∧
        (int .int64).coerce (.int (-9223372036854775808) (by decide)) =
          .ok ⟨-9223372036854775808, by decide⟩) ∧
      pastFloat.signed = 9223372036854775808 * Binary64.one ∧
        (int .nat64).coerce (.float pastFloat) = .error (.ofValue "u64" (.float pastFloat)) ∧
        (int .nat64).coerce (.int 9223372036854775808 (by decide)) =
          .ok ⟨9223372036854775808, by decide⟩ := by
  have hleast : leastFloat.signed = -9223372036854775808 * Binary64.one := by decide +kernel
  have hpast : pastFloat.signed = 9223372036854775808 * Binary64.one := by decide +kernel
  have hrefused {t : IntType} {n : Int} {x : Binary64.Finite} (hx : x.signed = n * Binary64.one)
      (hn : ¬ (-9223372036854775808 < n ∧ n < 9223372036854775808)) :
      (int t).coerce (.float x) = .error (.ofValue t.name (.float x)) :=
    coerce_int_eq_error fun m hm => hn ((IntType.takes_float_iff hx).1 hm).2.2
  have hfloat := hrefused (t := .int64) hleast (by decide)
  have hint : (int .int64).coerce (.int (-9223372036854775808) (by decide)) =
      .ok ⟨-9223372036854775808, by decide⟩ := rfl
  refine ⟨fun hall => ?_, ⟨hleast, hfloat, hint⟩, hpast, hrefused hpast (by decide), rfl⟩
  have hok := (hall .int64 _ (by decide) leastFloat hleast _).2 hint
  cases hfloat.symm.trans hok

/-- The text of an integer is coerced like the integer, whatever blanks stand around it. -/
theorem coerce_written_iff_coerce_int (t : IntType) {n : Int} (range : Value.intRange n) :
    ∃ s : String, text.coerce (.int n range) = .ok s ∧
      ∀ before after : String, Text.Blank before.toList → Text.Blank after.toList →
        ∀ m, (int t).coerce (.text (before ++ s ++ after)) = .ok m ↔
          (int t).coerce (.int n range) = .ok m := by
  refine ⟨String.ofList (Text.signedDecimal n), rfl, fun before after hb ha m => ?_⟩
  have hsame : t.Takes (.text (before ++ String.ofList (Text.signedDecimal n) ++ after)) m.val ↔
      t.Takes (.int n range) m.val := by
    rw [IntType.takes_written_iff hb ha, IntType.takes_int_iff]
  exact coerce_int_eq_ok.trans (hsame.trans coerce_int_eq_ok.symm)

theorem coerce_written_iff_coerce_int_spaced :
    Text.Blank "\u2003\n".toList ∧ Text.Blank "\u3000".toList ∧
      ∃ s : String, text.coerce (.int (-128) (by decide)) = .ok s ∧
        (int .int8).coerce (.text ("\u2003\n" ++ s ++ "\u3000")) = .ok ⟨-128, by decide⟩ := by
  have hb : Text.Blank "\u2003\n".toList := List.all_eq_true.1 (by decide)
  have ha : Text.Blank "\u3000".toList := List.all_eq_true.1 (by decide)
  obtain ⟨s, hs, hsame⟩ := coerce_written_iff_coerce_int .int8 (n := -128) (by decide)
  exact ⟨hb, ha, s, hs, (hsame _ _ hb ha _).2 rfl⟩

end FieldType
end Fixture
