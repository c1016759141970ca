import Fixture.Coercion.Basic
import Fixture.Proofs.DirectiveGrammar
import Fixture.Proofs.FloatDraws

/-! The integers that values denote, and that coercion to an integer type takes a value for the
integer it denotes or refuses it: no fraction is cut off and no bit is lost. -/
namespace Fixture

namespace Text

/-- A decimal numeral and its value: digits, at least one, behind a plus or not, or behind a minus
where negative numbers are written so. -/
inductive Numeral (signed : Bool) : List Char → Int → Prop
  | plain {ds : List Char} (hne : ds ≠ []) (hd : ∀ c ∈ ds, c.isDigit = true) :
      Numeral signed ds (digitsValue ds)
  | plus {ds : List Char} (hne : ds ≠ []) (hd : ∀ c ∈ ds, c.isDigit = true) :
      Numeral signed ('+' :: ds) (digitsValue ds)
  | minus {ds : List Char} (hs : signed = true) (hne : ds ≠ [])
      (hd : ∀ c ∈ ds, c.isDigit = true) : Numeral signed ('-' :: ds) (-digitsValue ds)

section
variable {signed : Bool} {s : List Char} {n : Int}

theorem Numeral.of_integer? (h : integer? signed s = some n) : Numeral signed s n := by
  unfold integer? at h
  split at h
  · obtain ⟨m, hm, rfl⟩ := Option.map_eq_some_iff.1 h
    obtain ⟨hne, hd, rfl⟩ := natural?_eq_some.1 hm
    exact .plus hne hd
  · split at h
    · rename_i hs
      obtain ⟨m, hm, rfl⟩ := Option.map_eq_some_iff.1 h
      obtain ⟨hne, hd, rfl⟩ := natural?_eq_some.1 hm
      exact .minus hs hne hd
    · cases h
  · obtain ⟨m, hm, rfl⟩ := Option.map_eq_some_iff.1 h
    obtain ⟨hne, hd, rfl⟩ := natural?_eq_some.1 hm
    exact .plain hne hd

theorem Numeral.integer? (h : Numeral signed s n) : integer? signed s = some n := by
  cases h with
  | plain hne hd =>
    have hplus (h : s.head? = some '+') : False :=
      absurd (hd _ (List.mem_of_head? h)) (by decide)
    have hminus (h : s.head? = some '-') : False :=
      absurd (hd _ (List.mem_of_head? h)) (by decide)
    rw [integer?_of_head hplus hminus, natural?_eq_some.2 ⟨hne, hd, rfl⟩]
    rfl
  | plus hne hd =>
    rw [Text.integer?, natural?_eq_some.2 ⟨hne, hd, rfl⟩]
    rfl
  | minus hs hne hd =>
    rw [Text.integer?, if_pos hs, natural?_eq_some.2 ⟨hne, hd, rfl⟩]
    rfl

theorem integer?_trim_eq_some_iff :
    integer? signed (trim s) = some n ↔ ∃ before t after, Blank before ∧ Blank after ∧
      s = before ++ t ++ after ∧ Numeral signed t n := by
  constructor
  · intro h
    obtain ⟨before, after, hb, ha, hs⟩ := exists_trim s
    exact ⟨before, trim s, after, hb, ha, hs, .of_integer? h⟩
  · rintro ⟨before, t, after, hb, ha, rfl, ht⟩
    have h := ht.integer?
    rw [trim_eq (fun c hc => (numberChar_of_integer? h hc).not_blank) (integer?_ne_nil h) hb ha]
    exact h

end
end Text

theorem natCast_eq_mul_iff {u k : Nat} (hk : 0 < k) {n : Int} :
    (u : Int) = n * k ↔ u % k = 0 ∧ (u / k : Nat) = n := by
  constructor
  · intro h
    have hn : n = (n.toNat : Int) := by
      refine (Int.toNat_of_nonneg (Int.not_lt.1 fun hneg => ?_)).symm
      have := Int.mul_neg_of_neg_of_pos hneg (Int.natCast_pos.2 hk)
      omega
    have hu : u = n.toNat * k := by
      rw [hn] at h
      exact_mod_cast h
    rw [hu, Nat.mul_mod_left, Nat.mul_div_cancel _ hk]
    exact ⟨rfl, hn.symm⟩
  · rintro ⟨hmod, rfl⟩
    exact_mod_cast (Nat.div_mul_cancel (Nat.dvd_of_mod_eq_zero hmod)).symm

/-- The integer that a finite number is, is that many times one exactly. -/
theorem Binary64.Finite.integer?_eq_some_iff {x : Binary64.Finite} {n : Int} :
    x.integer? = some n ↔ x.signed = n * Binary64.one := by
  have hquotient {n : Int} := natCast_eq_mul_iff (u := x.units) Binary64.one_units_pos (n := n)
  unfold integer? signed
  cases x.negative with
  | false =>
    simp only [Bool.false_eq_true, if_false, hquotient, Option.ite_none_right_eq_some,
      Option.some.injEq]
  | true =>
    have hneg : -(x.units : Int) = n * Binary64.one ↔ (x.units : Int) = -n * Binary64.one := by
      rw [Int.neg_mul]
      omega
    simp only [if_true, hneg, hquotient, Option.ite_none_right_eq_some, Option.some.injEq]
    exact and_congr_right fun _ => by omega

namespace Value
open Text

/-- The integer that a value is or writes out. A float is an integer when it is that many times one
exactly. -/
inductive Denotes (signed : Bool) : Value → Int → Prop
  | int (n : Int) (range : intRange n) : Denotes signed (.int n range) n
  | float {x : Binary64.Finite} {n : Int} (h : x.signed = n * Binary64.one) :
      Denotes signed (.float x) n
  | text {before s after : List Char} {n : Int} (hb : Blank before) (ha : Blank after)
      (h : Numeral signed s n) : Denotes signed (.text (String.ofList (before ++ s ++ after))) n

section
variable {signed : Bool} {v : Value} {m n : Int}

theorem denotes_int_iff {range : intRange m} : Denotes signed (.int m range) n ↔ m = n := by
  constructor
  · intro h
    cases h
    rfl
  · rintro rfl
    exact .int m range

theorem denotes_float_iff {x : Binary64.Finite} :
    Denotes signed (.float x) n ↔ x.integer? = some n := by
  rw [Binary64.Finite.integer?_eq_some_iff]
  constructor
  · intro h
    cases h with
    | float h => exact h
  · exact .float

theorem denotes_text_iff {s : String} :
    Denotes signed (.text s) n ↔ integer? signed (trim s.toList) = some n := by
  rw [integer?_trim_eq_some_iff]
  constructor
  · intro h
    cases h with
    | text hb ha h => exact ⟨_, _, _, hb, ha, String.toList_ofList, h⟩
  · rintro ⟨before, t, after, hb, ha, hs, h⟩
    rw [← String.ofList_toList (s := s), hs]
    exact .text hb ha h

theorem Denotes.unique (hm : v.Denotes signed m) (hn : v.Denotes signed n) : m = n := by
  cases v with
  | int k range => exact (denotes_int_iff.1 hm).symm.trans (denotes_int_iff.1 hn)
  | float x => exact Option.some.inj ((denotes_float_iff.1 hm).symm.trans (denotes_float_iff.1 hn))
  | text s => exact Option.some.inj ((denotes_text_iff.1 hm).symm.trans (denotes_text_iff.1 hn))
  | null | bool | list | map => cases hm

theorem asInt?_eq_some_iff :
    v.asInt? signed = some n ↔
      v.Denotes signed n ∧ (v.kind = .float → n.natAbs < 9223372036854775808) := by
  cases v with
  | int k range => simp [asInt?, denotes_int_iff, kind]
  | float x => simp [asInt?, wholeFloat?, denotes_float_iff, kind, Option.filter_eq_some_iff]
  | text s => simp [asInt?, denotes_text_iff, kind]
  | null | bool | list | map => exact ⟨nofun, fun h => nomatch h.1⟩

end
end Value

/-- The integer that the type takes a value for: one of its own that the value denotes, in 63 bits
if the value is a float. -/
def IntType.Takes (t : IntType) (v : Value) (n : Int) : Prop :=
  t.Holds n ∧ v.Denotes t.signed n ∧ (v.kind = .float → n.natAbs < 9223372036854775808)

namespace FieldType

section
variable {α : Type} {expected : String} {v : Value}

theorem ofOption_eq_ok {o : Option α} {x : α} : ofOption expected v o = .ok x ↔ o = some x := by
  cases o <;> simp [ofOption]

theorem ofOption_eq_error {o : Option α} (h : ∀ x, o ≠ some x) :
    ofOption expected v o = .error (.ofValue expected v) := by
  rw [Option.eq_none_iff_forall_ne_some.2 h]
  rfl

variable {t : IntType}

theorem coerce_int_eq : (int t).coerce v = ofOption t.name v ((int t).scalar? v) := by
  cases v <;> rfl

theorem scalar?_int_eq_some {x : { n // t.Holds n }} :
    (int t).scalar? v = some x ↔ t.Takes v x.val := by
  have hscalar : (int t).scalar? v = (v.asInt? t.signed).bind fun n =>
      if h : t.Holds n then some (⟨n, h⟩ : { n // t.Holds n }) else none := rfl
  have hread : (int t).scalar? v = some x ↔ v.asInt? t.signed = some x.val := by
    rw [hscalar]
    constructor
    · intro hv
      obtain ⟨m, hm, hx⟩ := Option.bind_eq_some_iff.1 hv
      split at hx
      · cases hx
        exact hm
      · cases hx
    · intro hx
      rw [hx, Option.bind_some, dif_pos x.property]
  rw [hread, Value.asInt?_eq_some_iff]
  exact (and_iff_right x.property).symm

end

/-- Coercion to an integer type never changes a number. It gives the integer of the type that the
value denotes, of which there is one at most, and is refused where there is none. -/
theorem coerce_int (t : IntType) (v : Value) :
    (∀ n, (∃ h : t.Holds n, (int t).coerce v = .ok ⟨n, h⟩) ↔ t.Takes v n) ∧
      ((∀ n, ¬ t.Takes v n) → (int t).coerce v = .error (.ofValue t.name v)) ∧
      ∀ m n, v.Denotes t.signed m → v.Denotes t.signed n → m = n := by
  have hok {n : Int} (h : t.Holds n) : (int t).coerce v = .ok ⟨n, h⟩ ↔ t.Takes v n := by
    rw [coerce_int_eq]
    exact ofOption_eq_ok.trans scalar?_int_eq_some
  refine ⟨fun n => ⟨fun ⟨h, hn⟩ => (hok h).1 hn, fun hn => ⟨hn.1, (hok hn.1).2 hn⟩⟩,
    fun hnone => ?_, fun m n => Value.Denotes.unique⟩
  rw [coerce_int_eq]
  exact ofOption_eq_error fun ⟨n, h⟩ hn => hnone n (scalar?_int_eq_some.1 hn)

example : (int .nat8).coerce (.text " +255 ") = .ok ⟨255, by decide⟩ := rfl

example : (int .nat8).coerce (.int 256 (by decide)) = .error ⟨"u8", "int 256"⟩ := rfl

end FieldType
end Fixture
