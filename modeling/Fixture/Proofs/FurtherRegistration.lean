import Fixture.Proofs.CheckedCalls
import Fixture.Proofs.OverloadOrder

/-! What a further registration changes. Calls of another name or arity are answered as before. A
call that was answered is answered in the same slot, unless it was answered by coercion and the new
generator has the forms of the arguments. -/
namespace Fixture.Catalogue

section First
variable {P : Generator → Prop} {g k m : Generator} {gs : List Generator}

theorem place_cons_of_eq (h : m.params = g.params) : (place g (m :: gs)).1 = g :: gs := by
  simp [place, h]

theorem place_cons_of_ne (h : m.params ≠ g.params) :
    (place g (m :: gs)).1 = m :: (place g gs).1 := by
  simp [place, h]

theorem first_cons_iff : First P (m :: gs) k ↔ P m ∧ k = m ∨ ¬ P m ∧ First P gs k := by
  constructor
  · rintro ⟨before, after, hgs, hk, hb⟩
    cases before with
    | nil =>
      cases hgs
      exact .inl ⟨hk, rfl⟩
    | cons x before =>
      cases hgs
      rw [List.forall_mem_cons] at hb
      exact .inr ⟨hb.1, before, after, rfl, hk, hb.2⟩
  · rintro (⟨hm, rfl⟩ | ⟨hm, before, after, rfl, hk, hb⟩)
    · exact ⟨[], gs, rfl, hm, nofun⟩
    · exact ⟨m :: before, after, rfl, hk, List.forall_mem_cons.2 ⟨hm, hb⟩⟩

theorem First.mem (h : First P gs k) : k ∈ gs := by
  obtain ⟨before, after, rfl, -⟩ := h
  simp

theorem First.holds (h : First P gs k) : P k := by
  obtain ⟨before, after, -, hk, -⟩ := h
  exact hk

/-- Whether a generator has the property depends on its parameter list only. -/
def OfParams (P : Generator → Prop) : Prop := ∀ k m, k.params = m.params → P k → P m

theorem ofParams_fits (args : List Value) : OfParams (·.Fits args) := by
  intro k m h hk
  unfold Generator.Fits at hk ⊢
  rwa [← h]

theorem ofParams_takes (args : List Value) : OfParams (·.Takes args) := by
  intro k m h hk
  unfold Generator.Takes at hk ⊢
  rwa [← h]

variable (hP : OfParams P)
include hP

/-- The first generator with the property stays it, or the new one stands in its slot. -/
theorem First.place (h : First P gs k) :
    First P (place g gs).1 (if k.params = g.params then g else k) := by
  induction gs with
  | nil => exact absurd h.mem List.not_mem_nil
  | cons m gs ih =>
    by_cases hm : m.params = g.params
    · rw [place_cons_of_eq hm]
      rcases first_cons_iff.1 h with ⟨hp, rfl⟩ | ⟨hp, h⟩
      · rw [if_pos hm]
        exact first_cons_iff.2 (.inl ⟨hP _ _ hm hp, rfl⟩)
      · have hk : k.params ≠ g.params := fun hk => hp (hP _ _ (hk.trans hm.symm) h.holds)
        rw [if_neg hk]
        exact first_cons_iff.2 (.inr ⟨fun hg => hp (hP _ _ hm.symm hg), h⟩)
    · rw [place_cons_of_ne hm]
      rcases first_cons_iff.1 h with ⟨hp, rfl⟩ | ⟨hp, h⟩
      · rw [if_neg hm]
        exact first_cons_iff.2 (.inl ⟨hp, rfl⟩)
      · exact first_cons_iff.2 (.inr ⟨hp, ih h⟩)

theorem first_place_self (hg : P g) (hnone : ∀ k ∈ gs, ¬ P k) : First P (place g gs).1 g := by
  induction gs with
  | nil => exact ⟨[], [], rfl, hg, nofun⟩
  | cons m gs ih =>
    rw [List.forall_mem_cons] at hnone
    have hm : m.params ≠ g.params := fun hm => hnone.1 (hP _ _ hm.symm hg)
    rw [place_cons_of_ne hm]
    exact first_cons_iff.2 (.inr ⟨hnone.1, ih hnone.2⟩)

end First

section Answers
variable {g k : Generator} {gs : List Generator} {name : String} {args : List Value}

theorem Answers.mem (h : Answers name args gs (.ok k)) : k ∈ gs := by
  cases h with
  | fitting h => exact h.mem
  | coercible _ h => exact h.mem

theorem Answers.misfit (h : Answers name args gs (.ok k)) (hk : ¬ k.Fits args) :
    ∀ m ∈ gs, ¬ m.Fits args := by
  cases h with
  | fitting h => exact absurd h.holds hk
  | coercible misfit _ => exact misfit

/-- The answer stays in its slot, unless it was found by coercion and the new generator fits. -/
theorem Answers.place (h : Answers name args gs (.ok k))
    (hstays : ¬ (¬ k.Fits args ∧ g.Fits args)) :
    Answers name args (place g gs).1 (.ok (if k.params = g.params then g else k)) := by
  cases h with
  | fitting h => exact .fitting (h.place (ofParams_fits args))
  | coercible misfit h =>
    have hg : ¬ g.Fits args := fun hg => hstays ⟨misfit k h.mem, hg⟩
    refine .coercible (fun m hm => ?_) (h.place (ofParams_takes args))
    rcases mem_place hm with rfl | hm
    · exact hg
    · exact misfit m hm

theorem Answers.place_self (h : Answers name args gs (.ok k)) (hk : ¬ k.Fits args)
    (hg : g.Fits args) : Answers name args (Catalogue.place g gs).1 (.ok g) :=
  .fitting (first_place_self (ofParams_fits args) hg (h.misfit hk))

end Answers

section Candidates
variable {g k : Generator} {hs : List Generator} {log : List Generator} {c : Catalogue}
  {name : String} {args : List Value}

theorem filter_place_of_ne {arity : Nat} (h : arity ≠ g.arity) :
    (place g hs).1.filter (·.arity == arity) = hs.filter (·.arity == arity) := by
  have hg : (g.arity == arity) = false := by simpa using h.symm
  induction hs with
  | nil => simp [place, hg]
  | cons m hs ih =>
    by_cases hm : m.params = g.params
    · have harity : m.arity = g.arity := congrArg List.length hm
      simp [place_cons_of_eq hm, harity, hg]
    · simp [place_cons_of_ne hm, List.filter_cons, ih]

theorem filter_place : (place g hs).1.filter (·.arity == g.arity) =
    (place g (hs.filter (·.arity == g.arity))).1 := by
  induction hs with
  | nil => simp [place]
  | cons m hs ih =>
    by_cases hm : m.params = g.params
    · have harity : m.arity = g.arity := congrArg List.length hm
      simp [place_cons_of_eq hm, harity]
    · rw [place_cons_of_ne hm]
      by_cases ha : m.arity = g.arity
      · simp [ha, place_cons_of_ne hm, ih]
      · simp [ha, ih]

theorem Sound.candidates_register (h : Sound log c) (g : Generator) (name : String) (arity : Nat) :
    (c.register g).1.candidates name arity =
      if name = g.name ∧ arity = g.arity then (place g (c.candidates name arity)).1
      else c.candidates name arity := by
  rw [candidates, candidates, h.overloads_register]
  by_cases hname : name = g.name
  · by_cases ha : arity = g.arity
    · rw [if_pos hname, if_pos ⟨hname, ha⟩, hname, ha, filter_place]
    · rw [if_pos hname, if_neg (fun hn => ha hn.2), filter_place_of_ne ha, hname]
  · rw [if_neg hname, if_neg (fun hn => hname hn.1)]

theorem Sound.lookup_register_of_ne (h : Sound log c)
    (hother : ¬ (name = g.name ∧ args.length = g.arity)) :
    (c.register g).1.lookup name args = c.lookup name args := by
  rw [lookup_eq_iff, h.candidates_register, if_neg hother]
  exact lookup_eq_iff.1 rfl

theorem Sound.lookup_register_iff (h : Sound log c) (hname : name = g.name)
    (ha : args.length = g.arity) {r : Except Fault Generator} :
    (c.register g).1.lookup name args = r ↔
      Answers name args (Catalogue.place g (c.candidates name args.length)).1 r := by
  rw [lookup_eq_iff, h.candidates_register, if_pos ⟨hname, ha⟩]

theorem Sound.register_eq_none (h : Sound log c)
    (hnew : ∀ m ∈ c.overloads g.name, m.params ≠ g.params) : (c.register g).2 = none := by
  rw [h.register_eq_find?]
  exact List.find?_eq_none.2 fun m hm hp => hnew m hm (beq_iff_eq.1 hp)

theorem Sound.register_eq_some (h : Sound log c) (hk : k ∈ c.overloads g.name)
    (hp : k.params = g.params) : (c.register g).2 = some k := by
  rw [h.register_eq_find?]
  cases hf : (c.overloads g.name).find? (·.params == g.params) with
  | none => exact absurd (beq_iff_eq.2 hp) (List.find?_eq_none.1 hf k hk)
  | some m =>
    have hm : m.params = g.params := by simpa using List.find?_some hf
    have hmem := List.mem_of_find?_eq_some hf
    rw [List.inj_on_of_nodup_map (h.nodup_params _) hmem hk (hm.trans hp.symm)]

end Candidates

/-- After any registrations a further one changes the calls of its name and arity only. A call that
was answered is answered by the same generator, or by the new one where that replaced it. The
exception is a call that was answered by coercion and has the forms of the new parameters: no
generator had these, and the new one answers it. -/
theorem lookup_register (o : Options) (log : List Generator) (g : Generator) (name : String)
    (args : List Value) :
    let c := (empty o).registerAll log
    let c' := (c.register g).1
    (name ≠ g.name ∨ args.length ≠ g.arity → c'.lookup name args = c.lookup name args) ∧
    ∀ k, c.lookup name args = .ok k →
      (name = g.name ∧ k.params = g.params →
        (c.register g).2 = some k ∧ c'.lookup name args = .ok g) ∧
      (name = g.name ∧ ¬ k.Fits args ∧ g.Fits args →
        (c.register g).2 = none ∧ c'.lookup name args = .ok g) ∧
      (¬ (name = g.name ∧ (k.params = g.params ∨ ¬ k.Fits args ∧ g.Fits args)) →
        c'.lookup name args = .ok k) := by
  intro c c'
  have h : Sound log c := sound_registerAll o log
  refine ⟨fun hother => h.lookup_register_of_ne (by tauto), fun k hk => ?_⟩
  have hanswer := lookup_eq_iff.1 hk
  obtain ⟨hmem, harity⟩ := List.mem_filter.1 hanswer.mem
  have harity : k.arity = args.length := by simpa using harity
  refine ⟨?replaced, ?taken, ?kept⟩
  case replaced =>
    rintro ⟨hname, hp⟩
    have ha : args.length = g.arity := by rw [← harity, Generator.arity, hp, Generator.arity]
    have hstays : ¬ (¬ k.Fits args ∧ g.Fits args) :=
      fun hfits => hfits.1 (ofParams_fits args g k hp.symm hfits.2)
    have hplace := hanswer.place hstays
    rw [if_pos hp] at hplace
    exact ⟨h.register_eq_some (hname ▸ hmem) hp, (h.lookup_register_iff hname ha).2 hplace⟩
  case taken =>
    rintro ⟨hname, hmisfit, hfits⟩
    have ha : args.length = g.arity := hfits.length_eq.symm
    constructor
    · refine h.register_eq_none fun m hm hp => ?_
      have hfits : m.Fits args := ofParams_fits args g m hp.symm hfits
      have hcandidate : m ∈ c.candidates name args.length :=
        List.mem_filter.2 ⟨hname ▸ hm, beq_iff_eq.2 hfits.length_eq⟩
      exact hanswer.misfit hmisfit m hcandidate hfits
    · exact (h.lookup_register_iff hname ha).2 (hanswer.place_self hmisfit hfits)
  case kept =>
    intro hkept
    by_cases hslot : name = g.name ∧ args.length = g.arity
    · have hp : k.params ≠ g.params := fun hp => hkept ⟨hslot.1, .inl hp⟩
      have hstays : ¬ (¬ k.Fits args ∧ g.Fits args) := fun hfits => hkept ⟨hslot.1, .inr hfits⟩
      have hplace := hanswer.place hstays
      rw [if_neg hp] at hplace
      exact (h.lookup_register_iff hslot.1 hslot.2).2 hplace
    · exact (h.lookup_register_of_ne hslot).trans hk

/-- An integer that is spelled out in words. -/
def spelledInteger : Generator :=
  .ofDraw "integer" [.text] .int "integer in words" fun _ _ => return .ofInt 5

/-- A text was coerced to the bound of an integer, and is then taken as it is. -/
theorem lookup_register_spelledInteger :
    (builtin Library.sample {}).lookup "integer" [.text "5"] = .ok (Library.integer [.int]) ∧
      ¬ (Library.integer [.int]).Fits [.text "5"] ∧ spelledInteger.Fits [.text "5"] ∧
      ((builtin Library.sample {}).register spelledInteger).1.lookup "integer" [.text "5"] =
        .ok spelledInteger ∧
      ((builtin Library.sample {}).register spelledInteger).1.lookup "integer" [.int 5 (by decide)] =
        .ok (Library.integer [.int]) := by
  have htext : (builtin Library.sample {}).lookup "integer" [.text "5"] =
      .ok (Library.integer [.int]) := rfl
  have hint : (builtin Library.sample {}).lookup "integer" [.int 5 (by decide)] =
      .ok (Library.integer [.int]) := rfl
  have hmisfit : ¬ (Library.integer [.int]).Fits [.text "5"] := by
    rintro (_ | ⟨h, -⟩)
    cases h
  have hfits : spelledInteger.Fits [.text "5"] := .cons rfl .nil
  have hother : ¬ spelledInteger.Fits [.int 5 (by decide)] := by
    rintro (_ | ⟨h, -⟩)
    cases h
  obtain ⟨-, htexts⟩ :=
    lookup_register {} (Library.builtin Library.sample) spelledInteger "integer" [.text "5"]
  obtain ⟨-, hints⟩ := lookup_register {} (Library.builtin Library.sample) spelledInteger "integer"
    [.int 5 (by decide)]
  refine ⟨htext, hmisfit, hfits, ((htexts _ htext).2.1 ⟨rfl, hmisfit, hfits⟩).2, ?_⟩
  refine (hints _ hint).2.2 ?_
  rintro ⟨-, hp | ⟨-, h⟩⟩
  · cases hp
  · exact hother h

end Fixture.Catalogue
