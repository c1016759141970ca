import Fixture.Proofs.OutputKinds
import Fixture.Proofs.ReachedDraws

/-! The integers that calls of `@integer`, `@natural` and `@age` come to. A call states a range, by
its arguments or by their absence; its values are the integers of that range, and all of them, the
range of all integers of 64 bits included. -/
namespace Fixture
open Outcome

/-- The range that a directive's arguments state: from the first to the second, or from zero to the
only one. Without arguments the range is the directive's own. -/
inductive StatesRange : String → List Int → Int → Int → Prop
  | integer : StatesRange "integer" [] (-10000) 10000
  | integerUpTo (high : Int) : StatesRange "integer" [high] 0 high
  | integerBetween (low high : Int) : StatesRange "integer" [low, high] low high
  | natural : StatesRange "natural" [] 0 10000
  | naturalBetween (low high : Int) : StatesRange "natural" [low, high] low high
  | age : StatesRange "age" [] 1 100

/-- The bounds of an integer are the default ones, or zero and the only argument, or the two
arguments. -/
theorem Library.integerBounds_eq_ok {name d : String} {default r : IntRange} {ns : List Int}
    (hlen : ns.length ≤ 2) (h : integerBounds name default ⟨d, ns.map .int⟩ = .ok r) :
    ns = [] ∧ r = default ∨ ns = [r.high] ∧ r.low = 0 ∨ ns = [r.low, r.high] := by
  match ns, hlen with
  | [], _ =>
    cases h
    exact .inl ⟨rfl, rfl⟩
  | [high], _ =>
    have hbounds : integerBounds name default ⟨d, [.int high]⟩ =
        if h : 0 ≤ high then .ok ⟨0, high, h⟩
        else .error (.badArgument name (.negativeHigh high)) := rfl
    rw [List.map_singleton, hbounds] at h
    split at h
    · cases h
      exact .inr (.inl ⟨rfl, rfl⟩)
    · cases h
  | [low, high], _ =>
    obtain ⟨bounds, hbounds, h⟩ := bind_eq_ok.1 h
    cases h
    have hpair : Arguments.intBounds ⟨d, [.int low, .int high]⟩ 0 =
        if h : low ≤ high then .ok (some ⟨low, high, h⟩)
        else Arguments.reject ⟨d, [.int low, .int high]⟩ (.order low high) := rfl
    have hbounds : Arguments.intBounds ⟨d, [.int low, .int high]⟩ 0 = .ok bounds := hbounds
    rw [hpair] at hbounds
    split at hbounds
    · cases hbounds
      exact .inr (.inr rfl)
    · cases hbounds

namespace Generator

/-- For arguments that it accepts the generator draws an integer of the range that they state. -/
def DrawsStated (g : Generator) : Prop :=
  ∀ o args, args.InRange → args.values.map Argument.kind = g.params → g.validate o args = .ok () →
    ∃ (ns : List Int) (r : IntRange), args.values = ns.map .int ∧
      StatesRange g.name ns r.low r.high ∧ (g.name = "natural" → 0 ≤ r.low) ∧ r.InRange ∧
      g.generate o args = Library.uniformInteger r

end Generator

namespace Library
open Generator

theorem exists_bounds {args : Arguments} {count : Nat} {name : String} {default r : IntRange}
    (hin : args.InRange) (hd : default.InRange) (hcount : count ≤ 2)
    (hkinds : args.values.map Argument.kind = List.replicate count .int)
    (h : integerBounds name default args = .ok r) :
    ∃ ns, args.values = ns.map .int ∧ ns.length = count ∧ r.InRange ∧
      (ns = [] ∧ r = default ∨ ns = [r.high] ∧ r.low = 0 ∨ ns = [r.low, r.high]) := by
  obtain ⟨ns, rfl, hns⟩ := Arguments.exists_map_of_kinds Argument.exists_int hkinds
  have hr : r.InRange := ensures_integerBounds hin name hd r h
  obtain ⟨directive, values⟩ := args
  obtain rfl : values = ns.map .int := hns
  exact ⟨ns, rfl, rfl, hr, integerBounds_eq_ok hcount h⟩

theorem drawsStated_integer {count : Nat} (hcount : count ≤ 2) :
    (integer (List.replicate count .int)).DrawsStated := by
  intro o args hin hkinds hv
  obtain ⟨draw, hplan, hdraw⟩ := exists_draw_ofPlan hv
  obtain ⟨r, hr, hlast⟩ := bind_eq_ok.1 hplan
  cases hlast
  obtain ⟨ns, hns, -, hrange, hbounds⟩ :=
    exists_bounds hin ⟨by decide, by decide⟩ hcount hkinds hr
  have hstates : StatesRange "integer" ns r.low r.high := by
    rcases hbounds with ⟨rfl, rfl⟩ | ⟨rfl, hlow⟩ | rfl
    · exact .integer
    · rw [hlow]
      exact .integerUpTo r.high
    · exact .integerBetween r.low r.high
  have hname : (integer (List.replicate count .int)).name ≠ "natural" := by
    show "integer" ≠ "natural"
    decide
  exact ⟨ns, r, hns, hstates, fun h => absurd h hname, hrange, hdraw⟩

theorem drawsStated_natural {count : Nat} (hcount : count ≤ 2) (hone : count ≠ 1) :
    (natural (List.replicate count .int)).DrawsStated := by
  intro o args hin hkinds hv
  obtain ⟨draw, hplan, hdraw⟩ := exists_draw_ofPlan hv
  obtain ⟨r, hr, hlast⟩ := bind_eq_ok.1 hplan
  obtain ⟨ns, hns, rfl, hrange, hbounds⟩ :=
    exists_bounds hin ⟨by decide, by decide⟩ hcount hkinds hr
  have hstates : StatesRange "natural" ns r.low r.high := by
    rcases hbounds with ⟨rfl, rfl⟩ | ⟨rfl, -⟩ | rfl
    · exact .natural
    · exact absurd rfl hone
    · exact .naturalBetween r.low r.high
  by_cases hneg : r.low < 0
  · rw [if_pos hneg] at hlast
    cases hlast
  · rw [if_neg hneg] at hlast
    cases hlast
    exact ⟨ns, r, hns, hstates, fun _ => Int.not_lt.1 hneg, hrange, hdraw⟩

theorem drawsStated_age : age.DrawsStated := by
  intro o args _ hkinds _
  have hnil : args.values = [] := List.map_eq_nil_iff.1 hkinds
  exact ⟨[], { low := 1, high := 100 }, hnil, .age, fun h => absurd h (by decide),
    ⟨by decide, by decide⟩, rfl⟩

section Faked
variable {fakers : Fakers}

theorem filter_integers (fakers : Fakers) :
    (builtin fakers).filter (fun g => g.name ∈ ["integer", "natural", "age"]) =
      [integer [], integer [.int], integer [.int, .int], natural [], natural [.int, .int], age] := rfl

theorem drawsStated_builtin {g : Generator} (hg : g ∈ builtin fakers)
    (hname : g.name ∈ ["integer", "natural", "age"]) : g.DrawsStated := by
  have hm : g ∈ (builtin fakers).filter fun g => g.name ∈ ["integer", "natural", "age"] :=
    List.mem_filter.2 ⟨hg, decide_eq_true hname⟩
  have hall : ∀ g ∈ (builtin fakers).filter (fun g => g.name ∈ ["integer", "natural", "age"]),
      g.DrawsStated := by
    rw [filter_integers]
    simp only [List.forall_mem_cons]
    have hinteger (count : Nat) (h : count ≤ 2) := drawsStated_integer h
    have hnatural (count : Nat) (h : count ≤ 2 ∧ count ≠ 1) := drawsStated_natural h.1 h.2
    exact ⟨hinteger 0 (by decide), hinteger 1 (by decide), hinteger 2 (by decide),
      hnatural 0 (by decide), hnatural 2 (by decide), drawsStated_age, by simp⟩
  exact hall g hm

end Faked

theorem uniformInteger_covers {r : IntRange} (h : r.InRange) :
    (∀ {σ : Type} (source : Source σ) (s : σ), ∃ n range t, r.low ≤ n ∧ n ≤ r.high ∧
      (uniformInteger r).outcome source s = (.ok (.int n range), t)) ∧
    ∀ n, r.low ≤ n → n ≤ r.high → ∃ range words,
      (uniformInteger r).outcome WordCycle.source ⟨words, 0⟩ =
        (.ok (.int n range), ⟨words, words.length⟩) := by
  have hlow := IntType.holds_int64.1 h.1
  have hhigh := IntType.holds_int64.1 h.2
  have hvalue {n : Int} (hn : r.low ≤ n) (hn' : n ≤ r.high) : Value.intRange n := by
    unfold Value.intRange
    omega
  constructor
  · intro σ source s
    have halways := (Draw.integer_always r hlow.1 hhigh.2).bind
      (Q := fun v => ∃ n range, r.low ≤ n ∧ n ≤ r.high ∧ v = Value.int n range)
      (f := fun n => .done (.ofInt n))
      fun n hn => ⟨n, hvalue hn.1 hn.2, hn.1, hn.2, Value.ofInt_of_range (hvalue hn.1 hn.2)⟩
    obtain ⟨v, t, ho, n, range, hn, hn', rfl⟩ :=
      Attempt.exists_of_always (ε := Fault) halways source s
    exact ⟨n, range, t, hn, hn', ho⟩
  · intro n hn hn'
    have hreach := (Draw.integer_reaches r hlow.1 hhigh.2 hn hn').map (f := Value.ofInt)
    rw [Value.ofInt_of_range (hvalue hn hn')] at hreach
    obtain ⟨words, ho⟩ := Attempt.exists_of_reaches (ε := Fault) hreach
    exact ⟨hvalue hn hn', words, ho⟩

end Library

/-- A checked call of an integer directive states a range by the integers that its arguments are
coerced to. With every source it comes to an integer of the range, which for natural numbers does
not begin below zero, and to each integer of the range with some source. -/
theorem resolve_integer_range (fakers : Library.Fakers) (o : Options) (c : Call)
    (hname : c.name ∈ ["integer", "natural", "age"])
    (hcheck : (Catalogue.builtin fakers o).check c = .ok ()) :
    ∃ ns low high, List.Forall₂ (fun v n => ParamKind.int.coerce v = .ok (.int n)) c.args ns ∧
      StatesRange c.name ns low high ∧ (c.name = "natural" → 0 ≤ low) ∧
      (∀ {σ : Type} (source : Source σ) (s : σ), ∃ n range t, low ≤ n ∧ n ≤ high ∧
        ((Catalogue.builtin fakers o).resolve c).outcome source s = (.ok (.int n range), t)) ∧
      ∀ n, low ≤ n → n ≤ high → ∃ range words,
        ((Catalogue.builtin fakers o).resolve c).outcome WordCycle.source ⟨words, 0⟩ =
          (.ok (.int n range), ⟨words, words.length⟩) := by
  obtain ⟨g, args, -, hargs, ⟨hm, hg⟩, hv, hresolve⟩ := Catalogue.exists_of_check hcheck
  rw [← hg] at hname ⊢
  obtain ⟨ns, r, hns, hstates, hnatural, hin, hdraw⟩ :=
    Library.drawsStated_builtin hm hname o args (Arguments.inRange_of_coerce hargs)
      (Arguments.kinds_of_coerce hargs) hv
  have hplaces := Arguments.forall₂_of_coerce hargs
  rw [hns, List.forall₂_map_right_iff] at hplaces
  rw [hresolve, hdraw]
  exact ⟨ns, r.low, r.high, hplaces, hstates, hnatural, Library.uniformInteger_covers hin⟩

/-- All integers of 64 bits, of which the least is drawn. -/
def allIntegers : Call :=
  ⟨"integer", [.int (-9223372036854775808) (by decide), .text " 9223372036854775807 "]⟩

theorem resolve_integer_range_allIntegers :
    (Catalogue.builtin Library.sample {}).check allIntegers = .ok () ∧ ∃ range words,
      ((Catalogue.builtin Library.sample {}).resolve allIntegers).outcome WordCycle.source
        ⟨words, 0⟩ = (.ok (.int (-9223372036854775808) range), ⟨words, words.length⟩) := by
  have hcheck : (Catalogue.builtin Library.sample {}).check allIntegers = .ok () := rfl
  obtain ⟨ns, low, high, hargs, hstates, -, -, hall⟩ :=
    resolve_integer_range Library.sample {} allIntegers (by decide) hcheck
  have hlow : ParamKind.int.coerce allIntegers.args[0] = .ok (.int (-9223372036854775808)) := rfl
  have hhigh : ParamKind.int.coerce allIntegers.args[1] = .ok (.int 9223372036854775807) := rfl
  generalize allIntegers.name = name at hstates
  cases hstates with
  | integerBetween low high | naturalBetween low high =>
    obtain ⟨hfirst, hsecond⟩ : _ ∧ _ := by simpa [allIntegers] using hargs
    cases hlow.symm.trans hfirst
    cases hhigh.symm.trans hsecond
    exact ⟨hcheck, hall _ (by decide) (by decide)⟩
  | _ => simp [allIntegers] at hargs

end Fixture
