import Fixture.Proofs.SoleOverloads

/-! How the calls of the built-in generators come out. The check of a call decides it beforehand,
but for the length of a text that is not given, and for an expression, which words are sought for. -/
namespace Fixture

section Outcomes
variable {σ : Type} {source : Source σ} {s : σ} {o : Options} {args : Arguments}

/-- The expression that a call is made with, if it is one, can be sampled from the source. -/
def Call.Samples (c : Call) (o : Options) (source : Source σ) (s : σ) : Prop :=
  ∀ v p sampler, c = ⟨"regex", [v]⟩ → ParamKind.text.coerce v = .ok (.text p) →
    Regex.sampler? o.maxRepeat p.toList = some sampler →
      ∃ cs t, sampler.draw.outcome source s = (.ok cs, t)

namespace Library
open Generator

theorem outcome_regex (hv : regex.validate o args = .ok ())
    (hs : ∀ p sampler, args.text 0 = .ok p → Regex.sampler? o.maxRepeat p.toList = some sampler →
      ∃ cs t, sampler.draw.outcome source s = (.ok cs, t)) :
    ∃ v t, (regex.generate o args).outcome source s = (.ok v, t) := by
  obtain ⟨draw, hplan, hdraw⟩ := exists_draw_ofPlan hv
  have hgenerate : regex.generate o args = draw := hdraw
  obtain ⟨p, hp, hlast⟩ := Outcome.bind_eq_ok.1 hplan
  split at hlast
  · rename_i sampler hsampler
    cases hlast
    obtain ⟨cs, t, hcs⟩ := hs p sampler hp hsampler
    refine ⟨.text (String.ofList cs), t, ?_⟩
    rw [hgenerate, drawnText, Attempt.outcome_stopping]
    simp only [Attempt.outcome_bind, hcs, Attempt.outcome_pure]
    rfl
  · cases hlast

section BareText
variable (o args)

theorem generate_string : string.generate o args =
    (drawTextBetween defaultPool (defaultLengths o)).stopping := rfl

variable {o} in
theorem outcome_string_of_drawn {n : Nat} {t : σ}
    (hrange : (defaultLengths o).low ≠ (defaultLengths o).high)
    (hn : (Draw.natural (defaultLengths o)).run source s = (n, t)) :
    (string.generate o args).outcome source s =
      (drawText defaultPool n).stopping.outcome source t := by
  have hdraw : drawTextBetween defaultPool (defaultLengths o) =
      ExceptT.lift (Draw.natural (defaultLengths o)) >>= drawText defaultPool := if_neg hrange
  rw [generate_string, Attempt.outcome_stopping, Attempt.outcome_stopping, hdraw,
    Attempt.outcome_bind, Attempt.outcome_draw, hn]

variable {o} in
theorem outcome_string_of_long {n : Nat} {t : σ}
    (hrange : (defaultLengths o).low ≠ (defaultLengths o).high)
    (hn : (Draw.natural (defaultLengths o)).run source s = (n, t)) (hlong : maxCapacity < n) :
    (string.generate o args).outcome source s = (.error (.stopped .capacity), t) := by
  have hstop : drawText defaultPool n = throw .capacity := if_neg (Nat.not_le.2 hlong)
  rw [outcome_string_of_drawn args hrange hn, hstop]
  rfl

/-- A text without a length is drawn, or its drawn length is past the room for a text. -/
theorem outcome_string (source : Source σ) (s : σ) :
    (∃ v t, (string.generate o args).outcome source s = (.ok v, t)) ∨
      ∃ n t, (Draw.natural (defaultLengths o)).run source s = (n, t) ∧ maxCapacity < n ∧
        (string.generate o args).outcome source s = (.error (.stopped .capacity), t) := by
  by_cases hone : (defaultLengths o).low = (defaultLengths o).high
  · have hroom : (defaultLengths o).high ≤ maxCapacity := by
      rw [← hone]
      show 1 ≤ maxCapacity
      decide
    left
    rw [generate_string, drawTextBetween_eq _ hroom, Attempt.stopping_lift, Attempt.outcome_draw]
    exact ⟨_, _, rfl⟩
  · rcases hn : (Draw.natural (defaultLengths o)).run source s with ⟨n, t⟩
    by_cases hroom : n ≤ maxCapacity
    · left
      rw [outcome_string_of_drawn args hone hn, drawText_eq _ hroom, Attempt.stopping_lift,
        Attempt.outcome_draw]
      exact ⟨_, _, rfl⟩
    · have hlong : maxCapacity < n := Nat.not_le.1 hroom
      exact .inr ⟨n, t, rfl, hlong, outcome_string_of_long args hone hn hlong⟩

end BareText

end Library

/-- A call that passes its check has a value, unless it is a bare call for a text whose drawn length
is past the room for a text. -/
theorem Catalogue.outcome_of_check {fakers : Library.Fakers} (hf : fakers.Yields) {c : Call}
    (h : (builtin fakers o).check c = .ok ()) (hs : c.Samples o source s) :
    (∃ v t, ((builtin fakers o).resolve c).outcome source s = (.ok v, t)) ∨
      c = ⟨"string", []⟩ ∧ ∃ n t,
        (Draw.natural (Library.defaultLengths o)).run source s = (n, t) ∧ Library.maxCapacity < n ∧
        ((builtin fakers o).resolve c).outcome source s = (.error (.stopped .capacity), t) := by
  obtain ⟨g, args, -, hargs, ⟨hg, hname⟩, hv, hresolve⟩ := exists_of_check h
  obtain ⟨name, vs⟩ := c
  obtain rfl : g.name = name := hname
  have hkinds := Arguments.kinds_of_coerce hargs
  have hplaces := Arguments.forall₂_of_coerce hargs
  rw [hresolve]
  rcases Library.steady_builtin hf g hg with rfl | rfl | hsteady
  · obtain hvalues : args.values = [] := List.map_eq_nil_iff.1 hkinds
    rw [hvalues, List.forall₂_nil_right_iff] at hplaces
    obtain rfl : vs = [] := hplaces
    exact (Library.outcome_string o args source s).imp_right fun hlong => ⟨rfl, hlong⟩
  · have htexts : args.values.map Argument.kind = List.replicate 1 .text := hkinds
    obtain ⟨ss, hlen, hvalues⟩ := Arguments.exists_map_of_kinds Argument.exists_text htexts
    obtain ⟨p, rfl⟩ := List.length_eq_one_iff.1 hlen
    rw [hvalues] at hplaces
    obtain ⟨v, us, hv', hus, rfl⟩ := List.forall₂_cons_right_iff.1 hplaces
    rw [List.map_nil, List.forall₂_nil_right_iff] at hus
    obtain rfl : us = [] := hus
    have htext : args.text 0 = .ok p := by simp [Arguments.text, Arguments.get?, hvalues]
    refine .inl (Library.outcome_regex hv fun p' sampler hp hsampler => ?_)
    obtain rfl : p = p' := Except.ok.inj (htext.symm.trans hp)
    exact hs v p sampler rfl hv' hsampler
  · exact .inl ((hsteady o args (Arguments.inRange_of_coerce hargs) hv).outcome source s)

end Outcomes

end Fixture
