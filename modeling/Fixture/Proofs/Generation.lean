import Fixture.Draw.Sources
import Fixture.Proofs.Attempt
import Fixture.Proofs.WellFormed

/-! Generation from compiled rules. It ends with an object of the type, or fails for one of two
reasons: something does not fit the field it is written to, or a generator fails on arguments that
it has accepted. -/
namespace Fixture

/-- The directives of a specification, at any depth. -/
inductive Spec.Draws : Spec → Call → Prop
  | directive (c : Call) : Draws (.directive c) c
  | item {items : List Spec} {x : Spec} {c : Call} (hx : x ∈ items) (h : Draws x c) :
      Draws (.sequence items) c
  | rule {b : Binding} {r : Rule} {c : Call} (hr : r ∈ b.rules) (h : Draws r.spec c) :
      Draws (.nested b) c

def Binding.Draws (b : Binding) (c : Call) : Prop := ∃ r ∈ b.rules, r.spec.Draws c

theorem Binding.Holds.draws {root b : Binding} {scope : String} {c : Call}
    (h : root.Holds b scope) (hc : b.Draws c) : root.Draws c := by
  induction h with
  | root => exact hc
  | nested _ hr hs ih =>
    obtain ⟨r', hr', hc⟩ := hc
    exact ih ⟨_, hr, hs ▸ .rule hr' hc⟩
  | item _ hr hs hi ih =>
    obtain ⟨r', hr', hc⟩ := hc
    exact ih ⟨_, hr, hs ▸ .item (List.mem_of_getElem? hi) (.rule hr' hc)⟩

section Faults
variable {σ : Type} (catalogue : Catalogue) (source : Source σ)

/-- The generator chosen for a call accepts its arguments and then fails, `t` being left of the
source. -/
inductive FailedDraw (c : Call) (e : Fault) (t : σ) : Prop
  | intro {g : Generator} {args : Arguments} {s : σ}
      (chosen : catalogue.lookup c.name c.args = .ok g)
      (coerced : g.coerce c.name c.args = .ok args)
      (accepted : g.validate catalogue.options args = .ok ())
      (failed : (g.generate catalogue.options args).outcome source s = (.error e, t))

/-- Why a binding gives no object: the field of a rule refuses what the rule came to, or a draw
fails. -/
inductive GenerationFault (root : Binding) : Fault → σ → Prop
  | misfit {b : Binding} {scope : String} {r : Rule} {o : Object} {a : Assignment} {m : Mismatch}
      {s t : σ} (h : root.Holds b scope) (hr : r ∈ b.rules) (target : o.type = b.schema.type)
      (given : (r.spec.assignment catalogue r.field.form (joinPath scope r.segment)).outcome
        source s = (.ok a, t))
      (refused : r.field.assign o a = .error (.mismatch m)) :
      GenerationFault root (.mismatch (joinPath scope r.segment) m) t
  | draw {c : Call} {e : Fault} {t : σ} (hc : root.Draws c)
      (failed : FailedDraw catalogue source c e t) : GenerationFault root e t

end Faults

section Resolve
variable {σ : Type} {catalogue : Catalogue} {source : Source σ} {s t : σ} {e : Fault}

theorem Catalogue.prepare_eq_ok {c : Call} {g : Generator} {args : Arguments} :
    catalogue.prepare c = .ok (g, args) ↔ catalogue.lookup c.name c.args = .ok g ∧
      g.coerce c.name c.args = .ok args ∧ g.validate catalogue.options args = .ok () := by
  simp only [prepare, Outcome.bind_eq_ok, pure, Except.pure, Except.ok.injEq, Prod.mk.injEq]
  constructor
  · rintro ⟨g, hg, args, ha, _, hv, rfl, rfl⟩
    exact ⟨hg, ha, hv⟩
  · rintro ⟨hg, ha, hv⟩
    exact ⟨g, hg, args, ha, (), hv, rfl, rfl⟩

/-- A call that passed its check fails only in its draw. -/
theorem failedDraw_of_resolve {c : Call} (hc : catalogue.check c = .ok ())
    (h : (catalogue.resolve c).outcome source s = (.error e, t)) :
    FailedDraw catalogue source c e t := by
  obtain ⟨⟨g, args⟩, hp, -⟩ := Outcome.map_eq_ok.1 hc
  obtain ⟨hg, ha, hv⟩ := Catalogue.prepare_eq_ok.1 hp
  rw [Catalogue.resolve, hp] at h
  exact .intro hg ha hv h

theorem resolveItems_error {xs : List Spec} {path : String} {i : Nat}
    (h : (resolveItems catalogue xs path i).outcome source s = (.error e, t)) :
    ∃ x ∈ xs, ∃ j u, (x.resolve catalogue (itemPath path j)).outcome source u = (.error e, t) := by
  induction xs generalizing i s with
  | nil => simp [resolveItems] at h
  | cons x xs ih =>
    rw [resolveItems] at h
    obtain h | ⟨v, u, -, h⟩ := Attempt.outcome_bind_error h
    · exact ⟨x, List.mem_cons_self, i, s, h⟩
    · obtain h | ⟨vs, w, -, h⟩ := Attempt.outcome_bind_error h
      · obtain ⟨y, hy, hf⟩ := ih h
        exact ⟨y, List.mem_cons_of_mem _ hy, hf⟩
      · simp at h

theorem resolve_error {spec : Spec} (hv : spec.IsValue catalogue) {path : String}
    (h : (spec.resolve catalogue path).outcome source s = (.error e, t)) :
    ∃ c, spec.Draws c ∧ FailedDraw catalogue source c e t := by
  induction hv generalizing path s with
  | literal v => simp [Spec.resolve] at h
  | directive hc =>
    rw [Spec.resolve] at h
    exact ⟨_, .directive _, failedDraw_of_resolve hc h⟩
  | sequence _ ih =>
    rw [Spec.resolve] at h
    obtain h | ⟨vs, u, -, h⟩ := Attempt.outcome_bind_error h
    · obtain ⟨x, hx, j, u, hf⟩ := resolveItems_error h
      obtain ⟨c, hc, hf⟩ := ih x hx hf
      exact ⟨c, .item hx hc, hf⟩
    · simp at h

end Resolve

section Build
variable {types : Types} {catalogue : Catalogue} {σ : Type} {source : Source σ} {s t : σ}
  {e : Fault} {root : Binding}

theorem construct_of_isSome {schema : Schema} (h : schema.initial.isSome = true) :
    ∃ slots, schema.initial = some slots ∧ schema.construct = .ok ⟨schema.type, slots⟩ := by
  obtain ⟨slots, hs⟩ := Option.isSome_iff_exists.1 h
  exact ⟨slots, hs, by simp [Schema.construct, hs]⟩

mutual
theorem build_error (hroot : root.WellFormed types catalogue) : ∀ (b : Binding) {scope : String}
    {s : σ}, root.Holds b scope → (b.build catalogue scope).outcome source s = (.error e, t) →
    GenerationFault catalogue source root e t
  | ⟨schema, rules⟩, scope, s, hh, h => by
    have hw := hroot.of_holds hh
    obtain ⟨slots, -, hc⟩ := construct_of_isSome hw.constructible
    rw [Binding.build, hc, Attempt.lift_ok_bind] at h
    exact buildRules_error hroot rules hh (fun r hr => hr) rfl h
termination_by structural b => b

/-- The rules are some of those of `b`, and the object is one of its schema. -/
theorem buildRules_error (hroot : root.WellFormed types catalogue) : ∀ (rules : List Rule)
    {b : Binding} {scope : String} {o : Object} {s : σ}, root.Holds b scope →
    (∀ r ∈ rules, r ∈ b.rules) → o.type = b.schema.type →
    (buildRules catalogue rules scope o).outcome source s = (.error e, t) →
    GenerationFault catalogue source root e t
  | [], b, scope, o, s, _, _, _, h => by simp [buildRules] at h
  | ⟨segment, field, spec⟩ :: rules, b, scope, o, s, hh, hb, ho, h => by
    have hr := hb _ List.mem_cons_self
    rw [buildRules] at h
    obtain h | ⟨a, u, ha, h⟩ := Attempt.outcome_bind_error h
    · -- what the field is to get does not come about
      exact assignment_error hroot spec hh hr rfl h
    · obtain h | ⟨o', w, hw, h⟩ := Attempt.outcome_bind_error h
      · -- it does, and the field refuses it
        rw [Attempt.outcome_lift] at h
        obtain ⟨hw, rfl⟩ := Prod.mk.inj h
        obtain ⟨m, hm, rfl⟩ := writeField_eq_error ((hroot.of_holds hh).assignable _ hr) hw
        exact .misfit hh hr ho ha hm
      · rw [Attempt.outcome_lift] at hw
        have ho' := type_of_writeField (Prod.mk.inj hw).1
        exact buildRules_error hroot rules hh (fun r hr => hb r (List.mem_cons_of_mem _ hr))
          (ho'.trans ho) h
termination_by structural rules => rules

theorem assignment_error (hroot : root.WellFormed types catalogue) : ∀ (spec : Spec)
    {b : Binding} {scope : String} {r : Rule} {s : σ}, root.Holds b scope → r ∈ b.rules →
    r.spec = spec → (spec.assignment catalogue r.field.form (joinPath scope r.segment)).outcome
      source s = (.error e, t) →
    GenerationFault catalogue source root e t
  | spec, b, scope, r, s, hh, hr, he, h => by
    have hs := (hroot.of_holds hh).suited r hr
    rw [he] at hs
    generalize r.field.form = form at hs h
    cases hs with
    | value hv =>
      rw [Spec.assignment] at h
      obtain h | ⟨v, u, -, h⟩ := Attempt.outcome_bind_error h
      · obtain ⟨c, hc, hf⟩ := resolve_error hv h
        exact .draw (hh.draws ⟨r, hr, he ▸ hc⟩) hf
      · simp at h
    | nested =>
      rw [Spec.assignment] at h
      obtain h | ⟨o, u, -, h⟩ := Attempt.outcome_bind_error h
      · exact build_error hroot _ (hh.nested hr he) h
      · simp at h
    | optional =>
      rw [Spec.assignment] at h
      obtain h | ⟨o, u, -, h⟩ := Attempt.outcome_bind_error h
      · exact build_error hroot _ (hh.nested hr he) h
      · simp at h
    | absent => simp [Spec.assignment] at h
    | list hi =>
      rw [Spec.assignment] at h
      obtain h | ⟨os, u, -, h⟩ := Attempt.outcome_bind_error h
      · exact buildItems_error hroot _ hh hr he (fun k => by simp) hi h
      · simp at h
termination_by structural spec => spec

/-- The items are those of the rule's list from position `i` on. -/
theorem buildItems_error (hroot : root.WellFormed types catalogue) : ∀ (xs : List Spec)
    {items : List Spec} {slot : String} {t' : TypeName} {i : Nat} {b : Binding} {scope : String}
    {r : Rule} {s : σ}, root.Holds b scope → r ∈ b.rules → r.spec = .sequence items →
    (∀ k, items[i + k]? = xs[k]?) → (∀ x ∈ xs, x.Suits types catalogue (.nested slot t')) →
    (buildItems catalogue xs (joinPath scope r.segment) i).outcome source s = (.error e, t) →
    GenerationFault catalogue source root e t
  | [], _, _, _, _, _, _, _, _, _, _, _, _, _, h => by simp [buildItems] at h
  | x :: xs, items, slot, t', i, b, scope, r, s, hh, hr, he, hk, hs, h => by
    cases hs x List.mem_cons_self with
    | nested =>
      rw [buildItems] at h
      obtain h | ⟨o, u, -, h⟩ := Attempt.outcome_bind_error h
      · exact build_error hroot _ (hh.item hr he (by simpa using hk 0)) h
      · obtain h | ⟨os, w, -, h⟩ := Attempt.outcome_bind_error h
        · refine buildItems_error hroot xs hh hr he (fun k => ?_)
            (fun y hy => hs y (List.mem_cons_of_mem _ hy)) h
          have := hk (k + 1)
          rwa [List.getElem?_cons_succ, Nat.add_left_comm, Nat.add_comm] at this
        · simp at h
termination_by structural xs => xs
end

theorem type_of_buildRules {rules : List Rule} {scope : String} {o o' : Object}
    (h : (buildRules catalogue rules scope o).outcome source s = (.ok o', t)) :
    o'.type = o.type := by
  induction rules generalizing o s with
  | nil =>
    rw [buildRules, Attempt.outcome_pure] at h
    cases h
    rfl
  | cons r rules ih =>
    obtain ⟨segment, field, spec⟩ := r
    rw [buildRules] at h
    obtain ⟨a, u, -, h⟩ := Attempt.outcome_bind_ok h
    obtain ⟨o₁, w, hw, h⟩ := Attempt.outcome_bind_ok h
    rw [Attempt.outcome_lift] at hw
    rw [ih h, type_of_writeField (Prod.mk.inj hw).1]

theorem type_of_build {b : Binding} {scope : String} {o : Object}
    (h : (b.build catalogue scope).outcome source s = (.ok o, t)) : o.type = b.schema.type := by
  obtain ⟨schema, rules⟩ := b
  rw [Binding.build] at h
  obtain ⟨o₀, u, hc, h⟩ := Attempt.outcome_bind_ok h
  rw [type_of_buildRules h]
  rw [Attempt.outcome_lift, Schema.construct] at hc
  cases hi : schema.initial with
  | none => simp [hi] at hc
  | some slots =>
    simp only [hi, Prod.mk.injEq, Except.ok.injEq] at hc
    rw [← hc.1]

theorem generate_eq_build {type : TypeName} {rules : Value} {f : Factory}
    (h : Factory.compile types catalogue type rules = .ok f) (s : σ) :
    f.generate.outcome source s = (f.binding.build catalogue "").outcome source s := by
  obtain ⟨ht, b, hb, -, rfl⟩ := Factory.compile_eq_ok.1 h
  have hs := (wellFormed_of_compile hb).1
  rw [Factory.generate, Attempt.outcome_bind]
  cases hr : (b.build catalogue "").outcome source s with
  | mk r u =>
    cases r with
    | error e => rfl
    | ok o =>
      have ho : o.type = type := by rw [type_of_build hr, hs, ht]
      simp [Object.ofType, ho]

/-- Rules that compiled do not go wrong by their structure, at any depth. A generated object is of
the type; where there is none, a field has refused what its rule came to, or a generator has failed
on arguments that it accepts. -/
theorem generate_ok_or_fault {type : TypeName} {rules : Value} {f : Factory}
    (h : Factory.compile types catalogue type rules = .ok f) (source : Source σ) (s : σ) :
    (∃ o t, f.generate.outcome source s = (.ok o, t) ∧ o.type = type) ∨
      ∃ e t, f.generate.outcome source s = (.error e, t) ∧
        GenerationFault catalogue source f.binding e t := by
  rw [generate_eq_build h]
  obtain ⟨ht, b, hb, -, rfl⟩ := Factory.compile_eq_ok.1 h
  obtain ⟨hs, hw⟩ := wellFormed_of_compile hb
  cases hr : (b.build catalogue "").outcome source s with
  | mk r t =>
    cases r with
    | ok o =>
      left
      refine ⟨o, t, rfl, ?_⟩
      rw [type_of_build hr, hs, ht]
    | error e =>
      right
      exact ⟨e, t, rfl, build_error hw b .root hr⟩

theorem generate_drawnName_ok_or_fault :
    Factory.compile Sample.types Sample.catalogue "Person" (Sample.rules (.text "@word")) =
        .ok Sample.drawnName ∧
      ((∃ o t, Sample.drawnName.generate.outcome WordCycle.source ⟨[7], 0⟩ = (.ok o, t) ∧
          o.type = "Person") ∨
        ∃ e t, Sample.drawnName.generate.outcome WordCycle.source ⟨[7], 0⟩ = (.error e, t) ∧
          GenerationFault Sample.catalogue WordCycle.source Sample.drawnName.binding e t) :=
  ⟨Sample.compile_drawnName,
    generate_ok_or_fault Sample.compile_drawnName WordCycle.source ⟨[7], 0⟩⟩

end Build

end Fixture
