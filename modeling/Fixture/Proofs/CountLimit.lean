import Fixture.Proofs.Refusals
import Fixture.Proofs.SoleOverloads

/-! The limit on lengths and counts. A call is held to it for the counts that are among its
arguments. Four directives without arguments stand for a count of words or sentences, and they are
held to the limit as if that count had been asked for. -/
namespace Fixture
open Outcome

/-- The fault is a count above the limit. -/
def Fault.AboveLimit (e : Fault) (count limit : Nat) : Prop :=
  ∃ directive, e = .badArgument directive (.aboveLimit count limit)

/-- If the fault is a count above the limit, the limit is that of the options and the count is one
of the arguments. -/
def Arguments.Asked (args : Arguments) (o : Options) (e : Fault) : Prop :=
  ∀ count limit, e.AboveLimit count limit →
    limit = o.maxCount ∧ limit < count ∧ .int count ∈ args.values

namespace Generator

/-- The limit is applied to counts among the arguments only. -/
def LimitsAsked (g : Generator) : Prop := ∀ o args, Blames (args.Asked o) (g.validate o args)

end Generator

namespace Library
open Generator

theorem limitsAsked_builtin (fakers : Fakers) :
    ∀ g ∈ builtin fakers, g.arity ≠ 0 → g.LimitsAsked := by
  rintro g hg ha o args e he count limit ⟨d, rfl⟩
  have hparams : g.params ≠ [] := fun h => ha (congrArg List.length h)
  cases (justified_builtin fakers g hg o args).1 _ he with
  | aboveLimit above given => exact ⟨rfl, above, given hparams⟩
  | ofSense h => cases h

/-- The most words or sentences that a directive without arguments stands for. -/
def impliedCount : String → Nat
  | "word" | "sentence" => 12
  | "paragraph" => 7
  | "title" => 6
  | _ => 0

theorem checkCount_zero (directive : String) (limit : Nat) :
    checkCount directive 0 limit = .ok () :=
  if_neg (Nat.not_lt_zero limit)

theorem validate_placeholder {name description : String} {low high : Nat}
    {draw : NatRange → Attempt Stop String} (h : low ≤ high) (hpos : high ≠ 0) (o : Options)
    (args : Arguments) : (placeholder name description low high draw).validate o args =
      checkCount name high o.maxCount := by
  have hplan : countRange name o low high =
      (checkCount name high o.maxCount).map fun _ => ⟨low, high, h⟩ := by
    rw [countRange, dif_pos h, if_neg hpos]
    cases checkCount name high o.maxCount <;> rfl
  simp only [placeholder, Generator.ofPlan, hplan]
  cases checkCount name high o.maxCount <;> rfl

theorem not_bare {k : ParamKind} {ks : List ParamKind} {p : Prop}
    (h : (k :: ks).length = 0) : p :=
  absurd h (Nat.succ_ne_zero ks.length)

section Faked
variable (fakers : Fakers) (o : Options)

theorem validate_bare_ok : ∀ g ∈ numbers ++ texts ++ moments ++ people fakers,
    g.arity = 0 → g.validate o ⟨g.name, []⟩ = .ok () := by
  have hnumbers : ∀ g ∈ numbers, g.arity = 0 → g.validate o ⟨g.name, []⟩ = .ok () := by
    simp only [numbers, List.forall_mem_cons]
    exact ⟨fun _ => rfl, not_bare, fun _ => rfl, not_bare, not_bare, fun _ => rfl, not_bare,
      fun _ => rfl, not_bare, not_bare, by simp⟩
  have htexts : ∀ g ∈ texts, g.arity = 0 → g.validate o ⟨g.name, []⟩ = .ok () := by
    simp only [texts, List.forall_mem_append, List.forall_mem_cons]
    exact ⟨⟨fun _ => rfl, not_bare, fun _ => rfl, not_bare, not_bare, not_bare, fun _ => rfl,
      not_bare, by simp⟩,
      List.forall_mem_map.2 fun _ _ _ => rfl⟩
  have hmoments : ∀ g ∈ moments, g.arity = 0 → g.validate o ⟨g.name, []⟩ = .ok () := by
    simp only [moments, List.forall_mem_cons]
    exact ⟨fun _ => rfl, not_bare, not_bare, fun _ => rfl, fun _ => rfl, not_bare, not_bare,
      fun _ => rfl, by simp⟩
  have hpeople : ∀ g ∈ people fakers, g.arity = 0 → g.validate o ⟨g.name, []⟩ = .ok () := by
    simp only [people, List.forall_mem_cons]
    exact ⟨fun _ => rfl, not_bare, fun _ => rfl, not_bare, fun _ => rfl, not_bare, fun _ => rfl,
      fun _ => rfl, fun _ => rfl, fun _ => rfl, fun _ => rfl, fun _ => rfl, fun _ => rfl,
      fun _ => rfl, fun _ => rfl, fun _ => rfl, fun _ => rfl, fun _ => rfl, fun _ => rfl,
      fun _ => rfl, fun _ => rfl, by simp⟩
  simp only [List.forall_mem_append]
  exact ⟨⟨⟨hnumbers, htexts⟩, hmoments⟩, hpeople⟩

theorem validate_bare_prose : ∀ g ∈ prose fakers, g.arity = 0 →
    g.validate o ⟨g.name, []⟩ = checkCount g.name (impliedCount g.name) o.maxCount := by
  have bare (name description : String) (low high : Nat) (draw : NatRange → Attempt Stop String)
      (h : low ≤ high ∧ high ≠ 0 ∧ impliedCount name = high) (args : Arguments) :
      (placeholder name description low high draw).validate o args =
        checkCount name (impliedCount name) o.maxCount := by
    rw [validate_placeholder h.1 h.2.1, h.2.2]
  simp only [prose, List.forall_mem_cons]
  exact ⟨fun _ => bare _ _ _ _ _ (by decide) _, not_bare,
    fun _ => bare _ _ _ _ _ (by decide) _, not_bare,
    fun _ => bare _ _ _ _ _ (by decide) _, not_bare,
    fun _ => bare _ _ _ _ _ (by decide) _, by simp⟩

/-- Without arguments there is nothing to refuse but the count that is implied. -/
theorem validate_bare : ∀ g ∈ builtin fakers, g.arity = 0 →
    g.validate o ⟨g.name, []⟩ = checkCount g.name (impliedCount g.name) o.maxCount := by
  have himplied : ∀ g ∈ numbers ++ texts ++ moments ++ people fakers, impliedCount g.name = 0 := by
    have hheads : ∀ h ∈ (numbers ++ texts ++ moments ++ people sample).map head,
        impliedCount h.1 = 0 := by
      decide
    rw [List.map_append, ← heads_people fakers, ← List.map_append, List.forall_mem_map] at hheads
    exact hheads
  intro g hg ha
  rcases List.mem_append.1 hg with hg | hg
  · rw [validate_bare_ok fakers o g hg ha, himplied g hg, checkCount_zero]
  · exact validate_bare_prose fakers o g hg ha

end Faked
end Library

namespace Catalogue

/-- A call that is not looked up, or whose arguments are not coerced, is refused for another reason
than the limit. -/
theorem not_aboveLimit_of_lookup {c : Catalogue} {name : String} {args : List Value} {e : Fault}
    (h : c.lookup name args = .error e) (count limit : Nat) : ¬ e.AboveLimit count limit := by
  rintro ⟨d, rfl⟩
  cases lookup_eq_iff.1 h

theorem not_aboveLimit_of_coerce {g : Generator} {name : String} {args : List Value} {e : Fault}
    (h : g.coerce name args = .error e) (count limit : Nat) : ¬ e.AboveLimit count limit := by
  rintro ⟨d, rfl⟩
  by_cases ha : g.arity = args.length
  · obtain ⟨i, m, -, hm⟩ := (Generator.coerce_eq_error ha).1 h
    cases hm
  · have hl : ¬ g.params.length = args.length := ha
    rw [Generator.coerce, Arguments.coerce, if_neg hl] at h
    cases h

end Catalogue

/-- The check of a bare directive comes to what the limit says of the count that the directive
implies: it succeeds unless that count is above the limit. For all other calls a count above the
limit is one of the arguments of the call. -/
theorem bare_call_limited (fakers : Library.Fakers) (o : Options) :
    (∀ g ∈ Library.builtin fakers, g.arity = 0 → (Catalogue.builtin fakers o).check ⟨g.name, []⟩ =
      checkCount g.name (Library.impliedCount g.name) o.maxCount) ∧
    ∀ (c : Call) (e : Fault) (count limit : Nat), (Catalogue.builtin fakers o).check c = .error e →
      e.AboveLimit count limit → limit = o.maxCount ∧ limit < count ∧
        (c.args = [] ∧ count = Library.impliedCount c.name ∨
          ∃ v ∈ c.args, ParamKind.int.coerce v = .ok (.int count)) := by
  have hbare : ∀ g ∈ Library.builtin fakers, g.arity = 0 →
      (Catalogue.builtin fakers o).check ⟨g.name, []⟩ =
        checkCount g.name (Library.impliedCount g.name) o.maxCount := by
    intro g hg ha
    rw [Catalogue.check_bare o hg ha, Library.validate_bare fakers o g hg ha]
  refine ⟨hbare, fun c e count limit hcheck hlimit => ?_⟩
  have hprepare := map_eq_error.1 hcheck
  rcases bind_eq_error.1 hprepare with hlookup | ⟨g, hlookup, hrest⟩
  · exact absurd hlimit (Catalogue.not_aboveLimit_of_lookup hlookup _ _)
  rcases bind_eq_error.1 hrest with hcoerce | ⟨args, hcoerce, hrest⟩
  · exact absurd hlimit (Catalogue.not_aboveLimit_of_coerce hcoerce _ _)
  rcases bind_eq_error.1 hrest with hvalidate | ⟨-, -, hpure⟩
  swap
  · cases hpure
  obtain ⟨hg, hname⟩ := Catalogue.mem_builtin_of_lookup hlookup
  by_cases ha : g.arity = 0
  · obtain ⟨name, vs⟩ := c
    have harity : g.arity = vs.length := (Generator.exists_coerce_iff.1 ⟨args, hcoerce⟩).1
    obtain rfl : vs = [] := List.length_eq_zero_iff.1 (harity.symm.trans ha)
    obtain rfl : g.name = name := hname
    rw [hbare g hg ha] at hcheck
    obtain ⟨d, rfl⟩ := hlimit
    unfold checkCount at hcheck
    split at hcheck
    · rename_i hlt
      cases hcheck
      exact ⟨rfl, hlt, .inl ⟨rfl, rfl⟩⟩
    · cases hcheck
  · rw [Catalogue.options_builtin] at hvalidate
    obtain ⟨hmax, hlt, hmem⟩ :=
      Library.limitsAsked_builtin fakers g hg ha o args e hvalidate count limit hlimit
    exact ⟨hmax, hlt, .inr (Arguments.exists_of_mem_coerce hcoerce hmem)⟩

theorem bare_paragraph_limited :
    (Catalogue.builtin Library.sample { maxCount := 7 }).check ⟨"paragraph", []⟩ = .ok () ∧
      ∃ v ∈ [Value.int 8 (by decide)], ParamKind.int.coerce v = .ok (.int 8) := by
  obtain ⟨hbare, hasked⟩ := bare_call_limited Library.sample { maxCount := 7 }
  have hmem : Library.placeholder "paragraph" Library.paragraphDescription 3 7
      (Library.drawParagraph Library.sample) ∈ Library.builtin Library.sample := by
    simp [Library.builtin, Library.prose]
  have hwords : (Catalogue.builtin Library.sample { maxCount := 7 }).check
      ⟨"words", [.int 8 (by decide)]⟩ = .error (.badArgument "words" (.aboveLimit 8 7)) := rfl
  refine ⟨hbare _ hmem rfl, ?_⟩
  obtain ⟨-, -, ⟨hnil, -⟩ | hgiven⟩ := hasked _ _ 8 7 hwords ⟨_, rfl⟩
  · cases hnil
  · exact hgiven

/-- A single word is refused under a limit of five words, as if twelve had been asked for. -/
theorem bare_word_above_limit :
    ¬ (∀ (o : Options), ∀ g ∈ Library.builtin Library.sample, g.arity = 0 →
        (Catalogue.builtin Library.sample o).check ⟨g.name, []⟩ = .ok ()) ∧
      (Catalogue.builtin Library.sample { maxCount := 5 }).check ⟨"word", []⟩ =
        .error (.badArgument "word" (.aboveLimit 12 5)) := by
  have hword : (Catalogue.builtin Library.sample { maxCount := 5 }).check ⟨"word", []⟩ =
      .error (.badArgument "word" (.aboveLimit 12 5)) := rfl
  refine ⟨fun hall => ?_, hword⟩
  have hmem : Library.placeholder "word" "single lorem word" 4 12
      (fun _ => ExceptT.lift Library.sample.word) ∈ Library.builtin Library.sample := by
    simp [Library.builtin, Library.prose]
  have hok := hall { maxCount := 5 } _ hmem rfl
  cases hword.symm.trans hok

end Fixture
