import Fixture.Library.Builtin
import Fixture.Library.Sample
import Fixture.Proofs.WellFormed

/-! The overload that a call is looked up to, against the arguments that it is then given. A value
has the form of a parameter's kind or can be coerced to it, and the two part in one place only: an
integer has the form of an `int` argument even where such an argument cannot hold it. -/
namespace Fixture

namespace ParamKind

/-- The value is an integer past those that an argument of the kind holds. -/
def Overflows : ParamKind → Value → Prop
  | int, .int n _ => 9223372036854775807 < n
  | _, _ => False

instance : (k : ParamKind) → (v : Value) → Decidable (k.Overflows v)
  | int, .int n _ => inferInstanceAs (Decidable (9223372036854775807 < n))
  | int, .null | int, .bool _ | int, .float _ | int, .text _ | int, .list _ | int, .map _ =>
    inferInstanceAs (Decidable False)
  | bool, _ | float, _ | text, _ => inferInstanceAs (Decidable False)

theorem holds_int64_iff {n : Int} (h : Value.intRange n) :
    IntType.int64.Holds n ↔ n ≤ 9223372036854775807 := by
  rw [IntType.holds_int64]
  unfold Value.intRange at h
  omega

theorem exists_coerce_int_iff {n : Int} (h : Value.intRange n) :
    (∃ a, int.coerce (.int n h) = .ok a) ↔ n ≤ 9223372036854775807 := by
  have hcoerce : (FieldType.int .int64).coerce (.int n h) =
      FieldType.ofOption "i64" (.int n h)
        (if hn : IntType.int64.Holds n then some (⟨n, hn⟩ : (FieldType.int .int64).Carrier)
          else none) := rfl
  rw [coerce, Outcome.exists_map_eq_ok, hcoerce, ← holds_int64_iff h]
  by_cases hn : IntType.int64.Holds n
  · rw [dif_pos hn]
    exact ⟨fun _ => hn, fun _ => ⟨_, rfl⟩⟩
  · rw [dif_neg hn]
    refine ⟨?_, fun h => absurd h hn⟩
    rintro ⟨_, h⟩
    cases h

theorem not_overflows_of_coerce {k : ParamKind} {v : Value} {a : Argument}
    (h : k.coerce v = .ok a) : ¬ k.Overflows v := by
  cases k with
  | int =>
    cases v with
    | int n range => exact Int.not_lt.2 ((exists_coerce_int_iff range).1 ⟨a, h⟩)
    | _ => exact id
  | _ => exact id

/-- A value of the form of the kind is an argument of it unless it is too large. -/
theorem exists_coerce_of_fits {k : ParamKind} {v : Value} (h : k.fits v = true)
    (hv : ¬ k.Overflows v) : ∃ a, k.coerce v = .ok a := by
  cases k with
  | bool =>
    cases v with
    | bool b => exact ⟨.bool b, rfl⟩
    | _ => cases h
  | int =>
    cases v with
    | int n range => exact (exists_coerce_int_iff range).2 (Int.not_lt.1 hv)
    | _ => cases h
  | float =>
    cases v with
    | int n range => exact ⟨.float (.ofInt n), rfl⟩
    | float x => exact ⟨.float (.finite x), rfl⟩
    | _ => cases h
  | text =>
    cases v with
    | text s => exact ⟨.text s, rfl⟩
    | _ => cases h

end ParamKind

theorem Arguments.exists_coerceFrom_iff {d : String} {i : Nat} {kinds : List ParamKind}
    {raw : List Value} : (∃ as, coerceFrom d i kinds raw = .ok as) ↔
      ∀ p ∈ kinds.zip raw, ∃ a, p.1.coerce p.2 = .ok a := by
  induction kinds generalizing i raw with
  | nil => simp [coerceFrom]
  | cons k kinds ih =>
    cases raw with
    | nil => simp [coerceFrom]
    | cons v raw =>
      rw [List.zip_cons_cons, List.forall_mem_cons, ← ih (i := i + 1), coerceFrom]
      cases k.coerce v with
      | error m => simp
      | ok a => simp [Outcome.exists_map_eq_ok]

theorem Generator.exists_coerce_iff {g : Generator} {name : String} {args : List Value} :
    (∃ as, g.coerce name args = .ok as) ↔
      g.arity = args.length ∧ ∀ p ∈ g.params.zip args, ∃ a, p.1.coerce p.2 = .ok a := by
  unfold coerce Arguments.coerce arity
  split
  · rename_i hl
    rw [← Arguments.exists_coerceFrom_iff (d := name) (i := 0)]
    simp [Outcome.exists_map_eq_ok, hl]
  · rename_i hl
    simp [hl]

theorem Generator.fits_iff {g : Generator} {args : List Value} :
    g.fits args = true ↔ ∀ p ∈ g.params.zip args, p.1.fits p.2 = true := by
  simp [fits]

namespace Catalogue

theorem coerce_of_firstCoercible {name : String} {args : List Value} {gs : List Generator}
    {g : Generator} (h : firstCoercible name args gs = .ok g) :
    ∃ as, g.coerce name args = .ok as := by
  cases gs with
  | nil => cases h
  | cons k gs =>
    rw [firstCoercible] at h
    split at h
    · rename_i as hk
      cases h
      exact ⟨as, hk⟩
    · split at h
      · rename_i hf
        cases h
        have hok : (g.coerce name args).isOk = true :=
          List.find?_some (p := fun k : Generator => (k.coerce name args).isOk) hf
        cases hg : g.coerce name args with
        | error e => simp [hg, Except.isOk, Except.toBool] at hok
        | ok as => exact ⟨as, rfl⟩
      · cases h

/-- What a look-up finds has the arity of the call, and is found for the forms of the arguments or
because they can be coerced for it. -/
theorem fits_or_coerce_of_lookup {c : Catalogue} {name : String} {args : List Value}
    {g : Generator} (h : c.lookup name args = .ok g) :
    (g.arity = args.length ∧ g.fits args = true) ∨ ∃ as, g.coerce name args = .ok as := by
  rw [lookup] at h
  split at h
  · rename_i hf
    cases h
    have hm := List.mem_filter.1 (List.mem_of_find?_eq_some hf)
    exact .inl ⟨by simpa using hm.2, List.find?_some (p := fun k : Generator => k.fits args) hf⟩
  · exact .inr (coerce_of_firstCoercible h)

end Catalogue

/-- The overload that a look-up finds can be given the arguments exactly when none of them is an
integer above 2^63 - 1 at a parameter of kind `int`. -/
theorem coerces_iff_of_lookup {c : Catalogue} {name : String} {args : List Value} {g : Generator}
    (h : c.lookup name args = .ok g) :
    (∃ as, g.coerce name args = .ok as) ↔ ∀ p ∈ g.params.zip args, ¬ p.1.Overflows p.2 := by
  constructor
  · intro hc p hp
    obtain ⟨a, ha⟩ := (Generator.exists_coerce_iff.1 hc).2 p hp
    exact ParamKind.not_overflows_of_coerce ha
  · intro hnone
    obtain ⟨hl, hfits⟩ | hc := Catalogue.fits_or_coerce_of_lookup h
    · refine Generator.exists_coerce_iff.2 ⟨hl, fun p hp => ?_⟩
      exact ParamKind.exists_coerce_of_fits (Generator.fits_iff.1 hfits p hp) (hnone p hp)
    · exact hc

theorem coerces_of_integer_lookup :
    (Catalogue.builtin Library.sample {}).lookup "integer"
        [.int 9223372036854775807 (by decide)] = .ok (Library.integer [.int]) ∧
      ∃ as, (Library.integer [.int]).coerce "integer" [.int 9223372036854775807 (by decide)] =
        .ok as := by
  have h : (Catalogue.builtin Library.sample {}).lookup "integer"
      [.int 9223372036854775807 (by decide)] = .ok (Library.integer [.int]) := rfl
  exact ⟨h, (coerces_iff_of_lookup h).2 (by decide)⟩

/-- An overload can be found that the arguments cannot be coerced for, in the place of one that they
can be coerced for: the length 2^63 is an integer, so the bounds of the text are taken to be meant,
and it is no integer with a sign of 64 bits; as a text it would be a pool. -/
theorem found_overload_refuses_arguments :
    ¬ (∀ (o : Options) (gs : List Generator) (name : String) (args : List Value) (g : Generator),
        ((Catalogue.empty o).registerAll gs).lookup name args = .ok g →
          ∃ as, g.coerce name args = .ok as) ∧
      (Catalogue.builtin Library.sample {}).lookup "string"
        [.int 9223372036854775808 (by decide), .int 4 (by decide)] = .ok Library.stringBetween ∧
      ∃ as, Library.stringOf.coerce "string"
        [.int 9223372036854775808 (by decide), .int 4 (by decide)] = .ok as := by
  have h : (Catalogue.builtin Library.sample {}).lookup "string"
      [.int 9223372036854775808 (by decide), .int 4 (by decide)] = .ok Library.stringBetween := rfl
  refine ⟨fun hall => ?_, h, ?_⟩
  · obtain ⟨as, ha⟩ := hall {} (Library.builtin Library.sample) _ _ _ h
    have hall := (Generator.exists_coerce_iff.1 ⟨as, ha⟩).2 _ List.mem_cons_self
    obtain ⟨a, ha⟩ := hall
    exact ParamKind.not_overflows_of_coerce ha (by decide)
  · exact ⟨⟨"string", [.text "9223372036854775808", .int 4]⟩, rfl⟩

end Fixture
