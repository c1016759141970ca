import Fixture.Proofs.OverloadOrder
import Fixture.Proofs.Refusals

/-! Arguments coerced to the kinds of the parameters. Coercion goes place by place and ends at the
first value that does not fit; where it succeeds each place has an argument of its kind. So a
generator that reads an argument of its own parameters finds one of the kind it asks for. -/
namespace Fixture
open Outcome

namespace ParamKind

/-- The type that a value for a parameter of the kind is read as. -/
def fieldType : ParamKind → FieldType
  | bool => .bool
  | int => .int .int64
  | float => .float64
  | text => .text

/-- The argument that is handed over for what has been read. -/
def argument : (k : ParamKind) → k.fieldType.Carrier → Argument
  | bool, b => .bool b
  | int, n => .int n.val
  | float, x => .float x
  | text, s => .text s

theorem coerce_eq (k : ParamKind) (v : Value) :
    k.coerce v = (k.fieldType.coerce v).map k.argument := by
  cases k <;> rfl

end ParamKind

namespace Arguments

/-- What the value at an index comes to, read as one of the type of the parameter there. -/
def coercedAt (kinds : List ParamKind) (raw : List Value) (index : Nat) :
    Option (Except Mismatch Argument) :=
  kinds[index]?.bind fun k => raw[index]?.map fun v => (k.fieldType.coerce v).map k.argument

section Places
variable {kinds : List ParamKind} {raw : List Value} {i : Nat}

theorem coercedAt_of_lt (hk : i < kinds.length) (hr : i < raw.length) :
    coercedAt kinds raw i = some (kinds[i].coerce raw[i]) := by
  simp [coercedAt, hk, hr, ParamKind.coerce_eq]

theorem coercedAt_zero (k : ParamKind) (v : Value) :
    coercedAt (k :: kinds) (v :: raw) 0 = some (k.coerce v) :=
  coercedAt_of_lt (Nat.succ_pos _) (Nat.succ_pos _)

/-- The first refused argument is the one that cannot be coerced when all before it can. -/
theorem refused_iff {m : Mismatch} : Refused kinds raw i m ↔
    coercedAt kinds raw i = some (.error m) ∧
      ∀ j < i, ∃ a, coercedAt kinds raw j = some (.ok a) := by
  constructor
  · intro h
    induction h with
    | here h =>
      exact ⟨(coercedAt_zero _ _).trans (congrArg some h), fun j hj => absurd hj (Nat.not_lt_zero j)⟩
    | later h _ ih =>
      refine ⟨ih.1, fun j hj => ?_⟩
      cases j with
      | zero => exact ⟨_, (coercedAt_zero _ _).trans (congrArg some h)⟩
      | succ j => exact ih.2 j (Nat.lt_of_succ_lt_succ hj)
  · rintro ⟨hm, hbefore⟩
    induction i generalizing kinds raw with
    | zero =>
      match kinds, raw with
      | k :: _, v :: _ => exact .here (Option.some.inj ((coercedAt_zero k v).symm.trans hm))
    | succ i ih =>
      obtain ⟨a, ha⟩ := hbefore 0 (Nat.succ_pos i)
      match kinds, raw, ha with
      | k :: _, v :: _, ha =>
        exact .later (Option.some.inj ((coercedAt_zero k v).symm.trans ha))
          (ih hm fun j hj => hbefore (j + 1) (Nat.succ_lt_succ hj))

variable {name : String} {args : Arguments}

theorem exists_coerce_iff (hl : kinds.length = raw.length) :
    (∃ args, coerce name kinds raw = .ok args) ↔
      ∀ i < kinds.length, ∃ a, coercedAt kinds raw i = some (.ok a) := by
  rw [coerce, if_pos hl, exists_map_eq_ok, exists_coerceFrom_iff, List.forall_mem_iff_getElem]
  constructor
  · intro h i hi
    have hr : i < raw.length := hl ▸ hi
    obtain ⟨a, ha⟩ := h i (by simp [hi, hr])
    rw [List.getElem_zip] at ha
    exact ⟨a, (coercedAt_of_lt hi hr).trans (congrArg some ha)⟩
  · intro h i hi
    obtain ⟨hk, hr⟩ : i < kinds.length ∧ i < raw.length := by simpa using hi
    obtain ⟨a, ha⟩ := h i hk
    rw [coercedAt_of_lt hk hr] at ha
    rw [List.getElem_zip]
    exact ⟨a, Option.some.inj ha⟩

theorem coercedAt_of_coerce (h : coerce name kinds raw = .ok args) {a : Argument}
    (ha : args.get? i = some a) :
    kinds[i]? = some a.kind ∧ coercedAt kinds raw i = some (.ok a) := by
  have hkind : kinds[i]? = some a.kind := by
    rw [← kinds_of_coerce h, List.getElem?_map]
    exact congrArg _ ha
  have hplaces := forall₂_of_coerce h
  obtain ⟨hi, rfl⟩ := List.getElem?_eq_some_iff.1 ha
  have hr : i < raw.length := hplaces.length_eq ▸ hi
  have hcoerce := hplaces.get hr hi
  obtain ⟨hk, hkind'⟩ := List.getElem?_eq_some_iff.1 hkind
  refine ⟨hkind, ?_⟩
  rw [coercedAt_of_lt hk hr, hkind']
  exact congrArg some hcoerce

end Places
end Arguments

namespace Arguments
variable {args : Arguments} {kinds : List ParamKind} {k : ParamKind} {i : Nat}

theorem length_of_kinds (h : args.values.map Argument.kind = kinds) :
    args.length = kinds.length := by
  rw [← h, List.length_map, length]

theorem exists_argument (h : args.values.map Argument.kind = kinds) (hi : kinds[i]? = some k) :
    ∃ a, args.get? i = some a ∧ a.kind = k := by
  rwa [← h, List.getElem?_map, Option.map_eq_some_iff] at hi

end Arguments

theorem Refusal.not_missing {params : List ParamKind} {o : Options} {args : Arguments}
    (h : args.values.map Argument.kind = params) (directive : String) (kind : ParamKind)
    (index : Nat) : ¬ Refusal params o args (.badArgument directive (.missing kind index)) := by
  intro hr
  cases hr with
  | missing asked absent =>
    obtain ⟨a, ha, hk⟩ := Arguments.exists_argument h (asked (Arguments.length_of_kinds h))
    exact absent a ha hk
  | ofSense h => cases h

/-- Coercion refuses the number of values exactly if it is not that of the parameters. Otherwise it
goes place by place. It succeeds exactly if each value can be read as one of the type of its
parameter; there are as many arguments as parameters then, each of the kind of its parameter and what
the value at its place is read as. It fails with the first value that cannot be read, and names its
index. So a built-in generator that is given arguments coerced to its own parameters misses none of
them, neither in its check nor in its draw. -/
theorem coerce_by_places (fakers : Library.Fakers) (name : String) (kinds : List ParamKind)
    (raw : List Value) (o : Options) :
    (∀ d n, Arguments.coerce name kinds raw = .error (.unknownDirective d n) ↔
      kinds.length ≠ raw.length ∧ d = name ∧ n = raw.length) ∧
    (kinds.length = raw.length →
      ((∃ args, Arguments.coerce name kinds raw = .ok args) ↔
        ∀ i < kinds.length, ∃ a, Arguments.coercedAt kinds raw i = some (.ok a)) ∧
      (∀ args, Arguments.coerce name kinds raw = .ok args →
        args.directive = name ∧ args.length = kinds.length ∧
        ∀ i a, args.get? i = some a →
          kinds[i]? = some a.kind ∧ Arguments.coercedAt kinds raw i = some (.ok a)) ∧
      ∀ e, Arguments.coerce name kinds raw = .error e ↔
        ∃ i m, Arguments.coercedAt kinds raw i = some (.error m) ∧
          (∀ j < i, ∃ a, Arguments.coercedAt kinds raw j = some (.ok a)) ∧
          e = .mismatch ("@" ++ name ++ "#" ++ toString i) m) ∧
    ∀ g ∈ Library.builtin fakers, ∀ args, Arguments.coerce name g.params raw = .ok args →
      (∀ d k i, g.validate o args ≠ .error (.badArgument d (.missing k i))) ∧
      ∀ (σ : Type) (source : Source σ) (s t : σ) (d : String) (k : ParamKind) (i : Nat),
        (g.generate o args).outcome source s ≠ (.error (.badArgument d (.missing k i)), t) := by
  have hrefused (hl : kinds.length = raw.length) (e : Fault) :
      Arguments.coerce name kinds raw = .error e ↔
        ∃ i m, Arguments.coercedAt kinds raw i = some (.error m) ∧
          (∀ j < i, ∃ a, Arguments.coercedAt kinds raw j = some (.ok a)) ∧
          e = .mismatch ("@" ++ name ++ "#" ++ toString i) m := by
    simp only [Arguments.coerce, if_pos hl, map_eq_error, Arguments.coerceFrom_eq_error,
      Arguments.refused_iff, Nat.zero_add, and_assoc]
  refine ⟨fun d n => ?number, fun hl => ⟨Arguments.exists_coerce_iff hl, fun args h => ?arguments,
    hrefused hl⟩, fun g hg args h => ?supplied⟩
  case number =>
    by_cases hl : kinds.length = raw.length
    · rw [hrefused hl]
      constructor
      · rintro ⟨i, m, -, -, he⟩
        cases he
      · exact fun h => absurd hl h.1
    · rw [Arguments.coerce, if_neg hl]
      constructor
      · rintro ⟨⟩
        exact ⟨hl, rfl, rfl⟩
      · rintro ⟨-, rfl, rfl⟩
        rfl
  case arguments =>
    have hlength := Arguments.length_of_kinds (Arguments.kinds_of_coerce h)
    refine ⟨?_, hlength, fun i a => Arguments.coercedAt_of_coerce h⟩
    rw [Arguments.coerce, if_pos hl] at h
    obtain ⟨as, -, rfl⟩ := map_eq_ok.1 h
    rfl
  case supplied =>
    have hpresent := Refusal.not_missing (o := o) (Arguments.kinds_of_coerce h)
    obtain ⟨hvalidate, hgenerate⟩ := Library.justified_builtin fakers g hg o args
    exact ⟨fun d k i he => hpresent d k i (hvalidate _ he),
      fun σ source s t d k i he => hpresent d k i (hgenerate.of_outcome he)⟩

/-- An integer is taken for a pool of characters, and a length has to be a number. -/
theorem coerce_string_by_places :
    (∃ m, Arguments.coerce "string" [.text, .int] [.int 5 (by decide), .text "x"] =
      .error (.mismatch "@string#1" m)) ∧
    ∃ args, Arguments.coerce "string" [.text, .int] [.int 5 (by decide), .text " 12 "] = .ok args ∧
      args.length = 2 ∧
      ∀ d k i, Library.stringOf.validate {} args ≠ .error (.badArgument d (.missing k i)) := by
  have hpool : (FieldType.text.coerce (.int 5 (by decide))).map ParamKind.text.argument =
      .ok (.text "5") := by
    decide +kernel
  have hlength : ((FieldType.int .int64).coerce (.text " 12 ")).map ParamKind.int.argument =
      .ok (.int 12) := by
    decide +kernel
  have hword : ((FieldType.int .int64).coerce (.text "x")).map ParamKind.int.argument =
      .error ⟨"i64", "text \"x\""⟩ := by
    decide +kernel
  constructor
  · obtain ⟨-, hcoerce, -⟩ := coerce_by_places Library.sample "string" [.text, .int]
      [.int 5 (by decide), .text "x"] {}
    obtain ⟨-, -, hrefused⟩ := hcoerce rfl
    refine ⟨_, (hrefused _).2 ⟨1, _, congrArg some hword, fun j hj => ?_, rfl⟩⟩
    obtain rfl : j = 0 := by omega
    exact ⟨_, congrArg some hpool⟩
  · obtain ⟨-, hcoerce, hsupplied⟩ := coerce_by_places Library.sample "string" [.text, .int]
      [.int 5 (by decide), .text " 12 "] {}
    obtain ⟨hok, hargs, -⟩ := hcoerce rfl
    obtain ⟨args, h⟩ := hok.2 fun i hi => by
      match i with
      | 0 => exact ⟨_, congrArg some hpool⟩
      | 1 => exact ⟨_, congrArg some hlength⟩
    have hmem : Library.stringOf ∈ Library.builtin Library.sample := by
      simp [Library.builtin, Library.texts]
    exact ⟨args, h, (hargs args h).2.1, (hsupplied _ hmem args h).1⟩

end Fixture
