import Fixture.Proofs.Overloads
import Fixture.Proofs.Registrations

/-! Which overload answers a call. Those of the call's name and arity are asked in the order in
which their parameter lists were first registered: first for one whose parameters have the forms of
the arguments, then for one that the arguments can be coerced for. If there is none, the fault is
that of the first of them; an unknown directive is one without any. -/
namespace Fixture

namespace Generator

/-- Each argument has the form of its parameter. -/
def Fits (g : Generator) (args : List Value) : Prop :=
  List.Forall₂ (fun k v => k.fits v = true) g.params args

/-- Each argument can be coerced to the kind of its parameter. -/
def Takes (g : Generator) (args : List Value) : Prop :=
  List.Forall₂ (fun k v => ∃ a, k.coerce v = .ok a) g.params args

end Generator

namespace Arguments

/-- The first argument that cannot be coerced stands at an index, and why it cannot. -/
inductive Refused : List ParamKind → List Value → Nat → Mismatch → Prop
  | here {k : ParamKind} {ks : List ParamKind} {v : Value} {vs : List Value} {m : Mismatch}
      (h : k.coerce v = .error m) : Refused (k :: ks) (v :: vs) 0 m
  | later {k : ParamKind} {ks : List ParamKind} {v : Value} {vs : List Value} {a : Argument}
      {i : Nat} {m : Mismatch} (h : k.coerce v = .ok a) (hr : Refused ks vs i m) :
      Refused (k :: ks) (v :: vs) (i + 1) m

/-- Coercion fails with the first argument that cannot be coerced, and names its index. -/
theorem coerceFrom_eq_error {d : String} {i : Nat} {kinds : List ParamKind} {raw : List Value}
    {e : Fault} : coerceFrom d i kinds raw = .error e ↔
      ∃ j m, Refused kinds raw j m ∧ e = .mismatch ("@" ++ d ++ "#" ++ toString (i + j)) m := by
  induction kinds generalizing i raw with
  | nil =>
    rw [coerceFrom.eq_def]
    constructor
    · intro h
      cases h
    · rintro ⟨j, m, ⟨⟩, -⟩
  | cons k kinds ih =>
    cases raw with
    | nil =>
      rw [coerceFrom.eq_def]
      constructor
      · intro h
        cases h
      · rintro ⟨j, m, ⟨⟩, -⟩
    | cons v raw =>
      rw [coerceFrom]
      cases hk : k.coerce v with
      | error m =>
        constructor
        · intro h
          cases h
          exact ⟨0, m, .here hk, rfl⟩
        · rintro ⟨j, m', hr, rfl⟩
          cases hr with
          | here h =>
            rw [hk] at h
            cases h
            rfl
          | later h =>
            rw [hk] at h
            cases h
      | ok a =>
        rw [Outcome.map_eq_error, ih]
        constructor
        · rintro ⟨j, m, hr, rfl⟩
          exact ⟨j + 1, m, .later hk hr, by rw [Nat.add_right_comm, Nat.add_assoc]⟩
        · rintro ⟨j, m, hr, rfl⟩
          cases hr with
          | here h =>
            rw [hk] at h
            cases h
          | @later _ _ _ _ _ j _ _ hr => exact ⟨j, m, hr, by rw [Nat.add_right_comm, Nat.add_assoc]⟩

end Arguments

namespace Generator
variable {g : Generator} {name : String} {args : List Value}

theorem fits_iff_forall₂ (h : g.arity = args.length) : g.fits args = true ↔ g.Fits args := by
  rw [fits_iff, Fits, List.forall₂_iff_zip]
  exact ⟨fun hp => ⟨h, fun hm => hp _ hm⟩, fun hp p hm => hp.2 hm⟩

theorem takes_iff : g.Takes args ↔ ∃ as, g.coerce name args = .ok as := by
  rw [exists_coerce_iff, Takes, List.forall₂_iff_zip]
  exact and_congr_right fun _ => ⟨fun hp p hm => hp hm, fun hp a b hm => hp _ hm⟩

theorem coerce_eq_error (h : g.arity = args.length) {e : Fault} :
    g.coerce name args = .error e ↔ ∃ i m, Arguments.Refused g.params args i m ∧
      e = .mismatch ("@" ++ name ++ "#" ++ toString i) m := by
  have hl : g.params.length = args.length := h
  simp only [coerce, Arguments.coerce, hl, if_true, Outcome.map_eq_error,
    Arguments.coerceFrom_eq_error, Nat.zero_add]

end Generator

namespace Catalogue

section Answers

/-- The first generator of a list with a property. -/
def First (P : Generator → Prop) (gs : List Generator) (g : Generator) : Prop :=
  ∃ before after, gs = before ++ g :: after ∧ P g ∧ ∀ k ∈ before, ¬ P k

/-- What a call is answered by the overloads of its name and arity, which stand in their order. -/
inductive Answers (name : String) (args : List Value) (gs : List Generator) :
    Except Fault Generator → Prop
  | fitting {g : Generator} (h : First (·.Fits args) gs g) : Answers name args gs (.ok g)
  | coercible {g : Generator} (misfit : ∀ k ∈ gs, ¬ k.Fits args)
      (h : First (·.Takes args) gs g) : Answers name args gs (.ok g)
  | refused {g : Generator} {others : List Generator} {i : Nat} {m : Mismatch}
      (misfit : ∀ k ∈ gs, ¬ k.Fits args) (refused : ∀ k ∈ gs, ¬ k.Takes args)
      (head : gs = g :: others) (h : Arguments.Refused g.params args i m) :
      Answers name args gs (.error (.mismatch ("@" ++ name ++ "#" ++ toString i) m))
  | unknown (h : gs = []) : Answers name args gs (.error (.unknownDirective name args.length))

theorem find?_eq_some_iff {P : Generator → Prop} {p : Generator → Bool} {gs : List Generator}
    (hp : ∀ k ∈ gs, p k = true ↔ P k) {g : Generator} : gs.find? p = some g ↔ First P gs g := by
  rw [List.find?_eq_some_iff_append]
  constructor
  · rintro ⟨hg, before, after, rfl, hb⟩
    refine ⟨before, after, rfl, (hp g (by simp)).1 hg, fun k hk hP => ?_⟩
    have hpk := (hp k (by simp [hk])).2 hP
    simpa [hpk] using hb k hk
  · rintro ⟨before, after, rfl, hg, hb⟩
    refine ⟨(hp g (by simp)).2 hg, before, after, rfl, fun k hk => ?_⟩
    have hpk : ¬ p k = true := fun hpk => hb k hk ((hp k (by simp [hk])).1 hpk)
    simpa using hpk

theorem find?_eq_none_iff {P : Generator → Prop} {p : Generator → Bool} {gs : List Generator}
    (hp : ∀ k ∈ gs, p k = true ↔ P k) : gs.find? p = none ↔ ∀ k ∈ gs, ¬ P k := by
  rw [List.find?_eq_none]
  exact ⟨fun h k hk hP => h k hk ((hp k hk).2 hP), fun h k hk hpk => h k hk ((hp k hk).1 hpk)⟩

variable {name : String} {args : List Value} {gs : List Generator}

theorem isOk_coerce_iff {g : Generator} : (g.coerce name args).isOk = true ↔ g.Takes args := by
  rw [@Generator.takes_iff g name args]
  cases g.coerce name args with
  | ok as => exact ⟨fun _ => ⟨as, rfl⟩, fun _ => rfl⟩
  | error e => exact ⟨nofun, nofun⟩

/-- The second search is over if the head can be given the arguments, and else it goes on in the
rest: it is one search from the head on. -/
theorem firstCoercible_eq_ok_iff {g : Generator} :
    firstCoercible name args gs = .ok g ↔ First (·.Takes args) gs g := by
  rw [← find?_eq_some_iff (p := fun k => (k.coerce name args).isOk) fun _ _ => isOk_coerce_iff]
  cases gs with
  | nil => exact ⟨nofun, nofun⟩
  | cons k gs =>
    rw [firstCoercible, List.find?_cons]
    cases k.coerce name args with
    | ok as => simp [Except.isOk, Except.toBool]
    | error e =>
      cases gs.find? fun k => (k.coerce name args).isOk with
      | some h => simp [Except.isOk, Except.toBool]
      | none => simp [Except.isOk, Except.toBool]

theorem refused_of_firstCoercible {e : Fault} (h : firstCoercible name args gs = .error e) :
    ∀ k ∈ gs, ¬ k.Takes args := by
  rw [← find?_eq_none_iff (p := fun k => (k.coerce name args).isOk) fun _ _ => isOk_coerce_iff]
  cases hf : gs.find? fun k => (k.coerce name args).isOk with
  | none => rfl
  | some g =>
    have hg : First (·.Takes args) gs g := (find?_eq_some_iff fun _ _ => isOk_coerce_iff).1 hf
    rw [firstCoercible_eq_ok_iff.2 hg] at h
    cases h

theorem firstCoercible_of_refused {g : Generator} (refused : ∀ k ∈ g :: gs, ¬ k.Takes args) :
    firstCoercible name args (g :: gs) = (g.coerce name args).map fun _ => g := by
  have hnone : (gs.find? fun k => (k.coerce name args).isOk) = none :=
    (find?_eq_none_iff fun _ _ => isOk_coerce_iff).2 (List.forall_mem_cons.1 refused).2
  rw [firstCoercible, hnone]
  cases g.coerce name args with
  | ok as => rfl
  | error e => rfl

/-- What the two searches find among generators of the arity of the call. -/
theorem search_eq_iff (ha : ∀ g ∈ gs, g.arity = args.length) {r : Except Fault Generator} :
    (match gs.find? (·.fits args) with
      | some g => .ok g
      | none => firstCoercible name args gs) = r ↔ Answers name args gs r := by
  have hfits : ∀ k ∈ gs, k.fits args = true ↔ k.Fits args :=
    fun k hk => Generator.fits_iff_forall₂ (ha k hk)
  constructor
  · rintro rfl
    cases hf : gs.find? (·.fits args) with
    | some g => exact .fitting ((find?_eq_some_iff hfits).1 hf)
    | none =>
      have misfit := (find?_eq_none_iff hfits).1 hf
      cases hc : firstCoercible name args gs with
      | ok g => exact .coercible misfit (firstCoercible_eq_ok_iff.1 hc)
      | error e =>
        cases gs with
        | nil =>
          cases hc
          exact .unknown rfl
        | cons g gs =>
          have refused := refused_of_firstCoercible hc
          rw [firstCoercible_of_refused refused, Outcome.map_eq_error,
            Generator.coerce_eq_error (ha g List.mem_cons_self)] at hc
          obtain ⟨i, m, hr, rfl⟩ := hc
          exact .refused misfit refused rfl hr
  · intro h
    cases h with
    | fitting h => rw [(find?_eq_some_iff hfits).2 h]
    | coercible misfit h =>
      rw [(find?_eq_none_iff hfits).2 misfit]
      exact firstCoercible_eq_ok_iff.2 h
    | refused misfit refused head h =>
      subst head
      rw [(find?_eq_none_iff hfits).2 misfit]
      rw [firstCoercible_of_refused refused, Outcome.map_eq_error]
      exact (Generator.coerce_eq_error (ha _ List.mem_cons_self)).2 ⟨_, _, h, rfl⟩
    | unknown h =>
      subst h
      rfl

theorem lookup_eq_iff {c : Catalogue} {r : Except Fault Generator} :
    c.lookup name args = r ↔ Answers name args (c.candidates name args.length) r :=
  search_eq_iff fun _ hg => by simpa using (List.mem_filter.1 hg).2

end Answers

/-- The generators held under a name after registrations, in the order in which their parameter
lists were first registered. -/
def held (log : List Generator) (name : String) : List Generator :=
  (shapes log name).filterMap (latest? log name)

theorem Sound.overloads_eq {log : List Generator} {c : Catalogue} (h : Sound log c)
    (name : String) : c.overloads name = held log name := by
  have hlatest : (c.overloads name).filterMap (fun g => latest? log name g.params) =
      c.overloads name := by
    rw [List.filterMap_congr fun g hg => h.latest name g hg, List.filterMap_some]
  rw [held, ← h.shapes_eq, List.filterMap_map]
  exact hlatest.symm

theorem contains_eq_false_iff {c : Catalogue} {name : String} {arity : Nat} :
    c.contains name arity = false ↔ c.candidates name arity = [] := by
  rw [contains, candidates, List.any_eq_false, List.filter_eq_nil_iff]

theorem Answers.unknown_iff {name : String} {args : List Value} {gs : List Generator} :
    Answers name args gs (.error (.unknownDirective name args.length)) ↔ gs = [] := by
  constructor
  · intro h
    cases h with
    | unknown h => exact h
  · exact .unknown

/-- After any registrations a look-up answers what the overloads of the name and arity answer in the
order in which their parameter lists were first registered. The directive is unknown if there are no
such overloads, and the catalogue contains it otherwise. -/
theorem lookup_registered_iff (o : Options) (log : List Generator) (name : String)
    (args : List Value) :
    let c := (Catalogue.empty o).registerAll log
    let gs := (held log name).filter (·.arity == args.length)
    (∀ r, c.lookup name args = r ↔ Answers name args gs r) ∧
    (c.lookup name args = .error (.unknownDirective name args.length) ↔ gs = []) ∧
    (c.contains name args.length = false ↔ gs = []) := by
  intro c gs
  have hgs : c.candidates name args.length = gs := by
    rw [candidates, (sound_registerAll o log).overloads_eq]
  have harity : ∀ g ∈ gs, g.arity = args.length := by
    intro g hg
    simpa using (List.mem_filter.1 hg).2
  have hlookup : ∀ r, c.lookup name args = r ↔ Answers name args gs r := by
    intro r
    rw [lookup, hgs]
    exact search_eq_iff harity
  refine ⟨hlookup, (hlookup _).trans Answers.unknown_iff, ?_⟩
  rw [contains_eq_false_iff, hgs]

end Catalogue
end Fixture
