import Fixture.Argument.Basic
import Fixture.Proofs.Attempt
import Mathlib.Data.List.Forall2
import Mathlib.Data.Set.List

/-! What a generator is given: arguments of the kinds of its parameters, each from the value at its
place, whose integers have 64 bits. -/
namespace Fixture
open Outcome

theorem Argument.exists_int (a : Argument) (h : a.kind = .int) : ∃ n, .int n = a := by
  cases a with
  | int n => exact ⟨n, rfl⟩
  | _ => cases h

theorem Argument.exists_text (a : Argument) (h : a.kind = .text) : ∃ s, .text s = a := by
  cases a with
  | text s => exact ⟨s, rfl⟩
  | _ => cases h

theorem ParamKind.holds_of_coerce {k : ParamKind} {v : Value} {n : Int}
    (h : k.coerce v = .ok (.int n)) : IntType.int64.Holds n := by
  cases k with
  | int =>
    obtain ⟨m, -, hm⟩ := map_eq_ok.1 h
    cases hm
    exact m.property
  | _ =>
    obtain ⟨_, -, hm⟩ := map_eq_ok.1 h
    cases hm

/-- Both bounds have 64 bits. -/
def IntRange.InRange (r : IntRange) : Prop := IntType.int64.Holds r.low ∧ IntType.int64.Holds r.high

namespace Arguments

theorem exists_map_of_kinds {α : Type} {mk : α → Argument} {kind : ParamKind}
    (hmk : ∀ a : Argument, a.kind = kind → ∃ x, mk x = a) {as : List Argument} {count : Nat}
    (h : as.map Argument.kind = List.replicate count kind) :
    ∃ xs : List α, xs.length = count ∧ as = xs.map mk := by
  obtain ⟨hlen, hkinds⟩ := List.eq_replicate_iff.1 h
  have hrange : as ∈ Set.range (List.map mk) := by
    rw [Set.range_list_map]
    exact fun a ha => hmk a (hkinds _ (List.mem_map_of_mem ha))
  obtain ⟨xs, rfl⟩ := hrange
  exact ⟨xs, by simpa using hlen, rfl⟩

section Coerced
variable {name : String} {kinds : List ParamKind} {raw : List Value} {args : Arguments}

theorem kinds_of_coerce (h : coerce name kinds raw = .ok args) :
    args.values.map Argument.kind = kinds := by
  unfold coerce at h
  split at h
  · rename_i hl
    obtain ⟨as, ha, rfl⟩ := map_eq_ok.1 h
    exact coerceFrom_kinds hl ha
  · cases h

theorem forall₂_of_coerceFrom {i : Nat} {as : List Argument} (hl : kinds.length = raw.length)
    (h : coerceFrom name i kinds raw = .ok as) :
    List.Forall₂ (fun v a => a.kind.coerce v = .ok a) raw as := by
  induction kinds generalizing i raw as with
  | nil =>
    cases h
    rw [List.length_eq_zero_iff.1 hl.symm]
    exact .nil
  | cons k kinds ih =>
    cases raw with
    | nil => simp at hl
    | cons v raw =>
      rw [coerceFrom] at h
      split at h
      · cases h
      · rename_i a ha
        obtain ⟨as, has, rfl⟩ := map_eq_ok.1 h
        have hhead : a.kind.coerce v = .ok a := by rwa [ParamKind.kind_of_coerce ha]
        exact .cons hhead (ih (by simpa using hl) has)

/-- Each argument is what the value at its place is coerced to. -/
theorem forall₂_of_coerce (h : coerce name kinds raw = .ok args) :
    List.Forall₂ (fun v a => a.kind.coerce v = .ok a) raw args.values := by
  unfold coerce at h
  split at h
  · rename_i hl
    obtain ⟨as, has, rfl⟩ := map_eq_ok.1 h
    exact forall₂_of_coerceFrom hl has
  · cases h

theorem exists_of_mem_coerce (h : coerce name kinds raw = .ok args) {a : Argument}
    (ha : a ∈ args.values) : ∃ v ∈ raw, a.kind.coerce v = .ok a := by
  have hplaces := forall₂_of_coerce h
  clear h
  generalize args.values = as at ha hplaces
  induction hplaces with
  | nil => cases ha
  | cons hv _ ih =>
    rcases List.mem_cons.1 ha with rfl | ha
    · exact ⟨_, List.mem_cons_self, hv⟩
    · obtain ⟨v, hm, hc⟩ := ih ha
      exact ⟨v, List.mem_cons_of_mem _ hm, hc⟩

/-- The integers among the arguments have 64 bits. -/
def InRange (args : Arguments) : Prop := ∀ n, .int n ∈ args.values → IntType.int64.Holds n

theorem inRange_of_coerce (h : coerce name kinds raw = .ok args) : args.InRange := by
  intro n hn
  obtain ⟨v, -, hv⟩ := exists_of_mem_coerce h hn
  exact ParamKind.holds_of_coerce hv

end Coerced

section Read
variable {args : Arguments} {i : Nat}

theorem get?_of_int {n : Int} (h : args.int i = .ok n) : args.get? i = some (.int n) := by
  unfold int at h
  split at h
  · rename_i hi
    cases h
    exact hi
  · cases h

theorem get?_of_count {n : Nat} (h : args.count i = .ok n) : args.get? i = some (.int n) := by
  obtain ⟨m, hm, h⟩ := bind_eq_ok.1 h
  split at h
  · cases h
  · rename_i hnonneg
    cases h
    have hcast : ((m.toNat : Nat) : Int) = m := Int.toNat_of_nonneg (Int.not_lt.1 hnonneg)
    rw [hcast]
    exact get?_of_int hm

theorem mem_of_count {n : Nat} (h : args.count i = .ok n) : .int n ∈ args.values :=
  List.mem_of_getElem? (get?_of_count h)

theorem ensures_int (h : args.InRange) (i : Nat) : Ensures IntType.int64.Holds (args.int i) :=
  fun n hn => h n (List.mem_of_getElem? (get?_of_int hn))

theorem ensures_intBounds (h : args.InRange) (i : Nat) :
    Ensures (fun r => ∀ b, r = some b → b.InRange) (args.intBounds i) := by
  unfold intBounds
  split
  · exact ensures_ok nofun
  · refine (ensures_int h i).bind fun low hlow => (ensures_int h (i + 1)).bind fun high hhigh => ?_
    split
    · refine ensures_ok ?_
      rintro _ ⟨⟩
      exact ⟨hlow, hhigh⟩
    · exact ensures_error _

end Read
end Arguments

end Fixture
