import Fixture.Proofs.Generation

/-! The check of literals against generation. Without directives a binding asks for nothing of the
source, and what it comes to is what the check says of it. -/
namespace Fixture

variable {types : Types} {catalogue : Catalogue}

def Spec.DirectiveFree (spec : Spec) : Prop := ∀ c, ¬ spec.Draws c

def Binding.DirectiveFree (b : Binding) : Prop := ∀ c, ¬ b.Draws c

theorem Binding.DirectiveFree.rule {b : Binding} (h : b.DirectiveFree) {r : Rule}
    (hr : r ∈ b.rules) : r.spec.DirectiveFree := fun c hc => h c ⟨r, hr, hc⟩

theorem Spec.directiveFree_literal (v : Value) : (Spec.literal v).DirectiveFree := by
  rintro c ⟨⟩

theorem Spec.directiveFree_nested {b : Binding} :
    (Spec.nested b).DirectiveFree ↔ b.DirectiveFree := by
  constructor
  · rintro h c ⟨r, hr, hc⟩
    exact h c (.rule hr hc)
  · rintro h c (_ | _ | ⟨hr, hc⟩)
    exact h c ⟨_, hr, hc⟩

theorem Spec.directiveFree_sequence {items : List Spec} :
    (Spec.sequence items).DirectiveFree ↔ ∀ x ∈ items, x.DirectiveFree := by
  constructor
  · intro h x hx c hc
    exact h c (.item hx hc)
  · rintro h c (_ | ⟨hx, hc⟩)
    exact h _ hx c hc

section Plain

/-- The texts in a value, at any depth; the keys of maps are none. -/
inductive Value.HasText : Value → String → Prop
  | here (s : String) : HasText (.text s) s
  | item {items : List Value} {v : Value} {s : String} (hv : v ∈ items) (h : HasText v s) :
      HasText (.list items) s
  | entry {entries : List (String × Value)} {e : String × Value} {s : String} (he : e ∈ entries)
      (h : HasText e.2 s) : HasText (.map entries) s

/-- No text in the value is a directive. -/
def Value.Plain (v : Value) : Prop := ∀ s, v.HasText s → isDirective s = false

theorem Value.Plain.item {items : List Value} (h : (Value.list items).Plain) {v : Value}
    (hv : v ∈ items) : v.Plain := fun s hs => h s (.item hv hs)

theorem Value.Plain.entry {entries : List (String × Value)} (h : (Value.map entries).Plain)
    {e : String × Value} (he : e ∈ entries) : e.2.Plain := fun s hs => h s (.entry he hs)

theorem Value.Plain.ofEntries {entries : List (String × Value)} (h : (Value.map entries).Plain)
    {scope : String} {t : PathTree} (ht : PathTree.ofEntries scope entries = .ok t) :
    t.All Value.Plain := PathTree.all_ofEntries (fun _ he => h.entry he) ht

mutual
theorem directiveFree_of_classify : ∀ (v : Value) {path : String} {spec : Spec},
    classify catalogue v path = .ok spec → v.Plain → spec.DirectiveFree
  | v, path, spec, h, hp => by
    cases classify_eq_ok.1 h with
    | literal => exact Spec.directiveFree_literal _
    | directive hd =>
      rw [hp _ (.here _)] at hd
      cases hd
    | list hs =>
      exact Spec.directiveFree_sequence.2
        (directiveFree_of_classifyItems _ hs fun v hv => hp.item hv)
termination_by structural v => v

theorem directiveFree_of_classifyItems : ∀ (vs : List Value) {path : String} {i : Nat}
    {specs : List Spec}, classifyItems catalogue vs path i = .ok specs → (∀ v ∈ vs, v.Plain) →
      ∀ x ∈ specs, x.DirectiveFree
  | [], _, _, _, h, _ => by
    cases h
    simp
  | v :: vs, path, i, specs, h, hp => by
    obtain ⟨x, xs, hx, hxs, rfl⟩ := classifyItems_cons_eq_ok.1 h
    intro y hy
    rcases List.mem_cons.1 hy with rfl | hy
    · exact directiveFree_of_classify v hx (hp v List.mem_cons_self)
    · exact directiveFree_of_classifyItems vs hxs
        (fun v hv => hp v (List.mem_cons_of_mem _ hv)) y hy
end

theorem NestedRules.plain {path : String} {direct : Option Value} {children tree : PathTree}
    (h : NestedRules path direct children tree) (hd : ∀ v ∈ direct, v.Plain)
    (hc : children.All Value.Plain) : tree.All Value.Plain := by
  cases h with
  | deeper => exact hc
  | map h => exact ((hd _ rfl).ofEntries h).overlay hc
  | replaced => exact hc

mutual
theorem directiveFree_of_bindTree : ∀ (b : Binding) {schema : Schema} {tree : PathTree}
    {scope : String}, bindTree types catalogue schema tree scope = .ok b → tree.All Value.Plain →
      b.DirectiveFree
  | ⟨_, rules⟩, schema, tree, scope, h, ht => by
    obtain ⟨-, -, rules', hn, he⟩ := bindTree_eq_ok.1 h
    cases he
    rintro c ⟨r, hr, hc⟩
    exact directiveFree_of_bindNodes rules hn ht r hr c hc
termination_by structural b => b

theorem directiveFree_of_bindNodes : ∀ (rules : List Rule) {schema : Schema} {tree : PathTree}
    {scope : String}, bindNodes types catalogue schema tree scope = .ok rules →
      tree.All Value.Plain → ∀ r ∈ rules, r.spec.DirectiveFree
  | [], _, _, _, _, _ => by simp
  | ⟨segment, field, spec⟩ :: rules, schema, tree, scope, h, ht => by
    cases tree with
    | nil =>
      rw [bindNodes_nil] at h
      cases h
    | cons s direct children rest =>
      obtain ⟨_, _, _, -, ha, hs, hm, he⟩ := bindNodes_cons_eq_ok.1 h
      cases he
      intro r hr
      rcases List.mem_cons.1 hr with rfl | hr
      · exact directiveFree_of_fieldBound spec ((bindField_eq_ok ha).1 hs) ht.1 ht.2.1
      · exact directiveFree_of_bindNodes rules hm ht.2.2 r hr
termination_by structural rules => rules

theorem directiveFree_of_fieldBound : ∀ (spec : Spec) {form : FieldForm} {direct : Option Value}
    {children : PathTree} {path : String},
    FieldBound types catalogue path form direct children spec → (∀ v ∈ direct, v.Plain) →
      children.All Value.Plain → spec.DirectiveFree
  | spec, form, direct, children, path, h, hd, hc => by
    cases h with
    | value h => exact directiveFree_of_classify _ h (hd _ rfl)
    | nested hn hb =>
      exact Spec.directiveFree_nested.2 (directiveFree_of_bindTree _ hb (hn.plain hd hc))
    | optional hn hb =>
      exact Spec.directiveFree_nested.2 (directiveFree_of_bindTree _ hb (hn.plain hd hc))
    | absent => exact Spec.directiveFree_literal _
    | list h =>
      exact Spec.directiveFree_sequence.2
        (directiveFree_of_bindItems _ h fun v hv => (hd _ rfl).item hv)
termination_by structural spec => spec

theorem directiveFree_of_bindItems : ∀ (items : List Spec) {t : TypeName} {vs : List Value}
    {path : String} {i : Nat}, bindItems types catalogue (types t) vs path i = .ok items →
      (∀ v ∈ vs, v.Plain) → ∀ x ∈ items, x.DirectiveFree
  | [], _, _, _, _, _, _ => by simp
  | .nested b :: xs, t, vs, path, i, h, hp => by
    cases vs with
    | nil =>
      rw [bindItems_nil] at h
      cases h
    | cons v vs =>
      obtain ⟨entries, tree, _, more, rfl, ht, hb, hm, he⟩ := bindItems_cons_eq_ok.1 h
      cases he
      intro y hy
      rcases List.mem_cons.1 hy with rfl | hy
      · have hplain := (hp _ List.mem_cons_self).ofEntries ht
        exact Spec.directiveFree_nested.2 (directiveFree_of_bindTree b hb hplain)
      · exact directiveFree_of_bindItems xs hm (fun v hv => hp v (List.mem_cons_of_mem _ hv)) y hy
  | .literal _ :: _, _, _, _, _, h, _ | .directive _ :: _, _, _, _, _, h, _
  | .sequence _ :: _, _, _, _, _, h, _ => (nomatch nested_of_bindItems h)
termination_by structural items => items
end

theorem directiveFree_of_compile {schema : Schema} {rules : Value} {b : Binding}
    (h : compile types catalogue schema rules = .ok b) (hp : rules.Plain) : b.DirectiveFree := by
  obtain ⟨entries, tree, rfl, ht, hb⟩ := compile_eq_ok.1 h
  exact directiveFree_of_bindTree b hb (hp.ofEntries ht)

end Plain

section Literals

theorem literalItems?_of_forall {items : List Spec}
    (h : ∀ x ∈ items, ∃ v, x.literal? = some v ∧ ∀ path, x.resolve catalogue path = pure v) :
    ∃ vs, literalItems? items = some vs ∧
      ∀ path i, resolveItems catalogue items path i = pure vs := by
  induction items with
  | nil => exact ⟨[], rfl, fun _ _ => rfl⟩
  | cons x xs ih =>
    obtain ⟨v, hl, hr⟩ := h x List.mem_cons_self
    obtain ⟨vs, hls, hrs⟩ := ih fun y hy => h y (List.mem_cons_of_mem _ hy)
    refine ⟨v :: vs, ?_, ?_⟩
    · simp [literalItems?, hl, hls]
    · intro path i
      simp [resolveItems, hr, hrs]

theorem literal?_of_isValue {spec : Spec} (hv : spec.IsValue catalogue) (hd : spec.DirectiveFree) :
    ∃ v, spec.literal? = some v ∧ ∀ path, spec.resolve catalogue path = pure v := by
  induction hv with
  | literal v => exact ⟨v, rfl, fun _ => rfl⟩
  | directive hc => exact absurd (.directive _) (hd _)
  | sequence _ ih =>
    have hitems := Spec.directiveFree_sequence.1 hd
    obtain ⟨vs, hl, hr⟩ := literalItems?_of_forall fun x hx => ih x hx (hitems x hx)
    refine ⟨.list vs, ?_, ?_⟩
    · simp [Spec.literal?, hl]
    · intro path
      simp [Spec.resolve, hr]

end Literals

/-- An attempt that asks for nothing of the source and fails exactly where and as a check does. What
it comes to otherwise satisfies `P`. -/
def Agrees {α : Type} (x : Attempt Fault α) (check : Except Fault Unit) (P : α → Prop) : Prop :=
  ∃ r : Except Fault α, x = liftM r ∧ check = r.map (fun _ => ()) ∧ ∀ a, r = .ok a → P a

namespace Agrees

variable {α β : Type} {x : Attempt Fault α} {check : Except Fault Unit} {P : α → Prop}

theorem ok (a : α) (h : P a) : Agrees (pure a) (.ok ()) P := by
  refine ⟨.ok a, rfl, rfl, ?_⟩
  rintro _ ⟨⟩
  exact h

theorem error (e : Fault) : Agrees (liftM (.error e : Except Fault α)) (.error e) P :=
  ⟨.error e, rfl, rfl, nofun⟩

theorem bind {f : α → Attempt Fault β} {next : Except Fault Unit} {Q : β → Prop} :
    Agrees x check P → (∀ a, P a → Agrees (f a) next Q) →
      Agrees (x >>= f) (match check with | .ok () => next | .error e => .error e) Q := by
  rintro ⟨r, rfl, rfl, hP⟩ hf
  cases r with
  | ok a => exact hf a (hP a rfl)
  | error e => exact error e

theorem map (h : Agrees x check P) {f : α → β} {Q : β → Prop} (hf : ∀ a, P a → Q (f a)) :
    Agrees (do return f (← x)) check Q := by
  obtain ⟨r, rfl, rfl, hP⟩ := h
  cases r with
  | ok a => exact ok (f a) (hf a (hP a rfl))
  | error e => exact error e

end Agrees

section Agreement

theorem Spec.Suits.of_isValue {spec : Spec} {form : FieldForm} (h : spec.Suits types catalogue form)
    (hf : form.isValue = true) : spec.IsValue catalogue ∧ ∃ slot t, form = .value slot t := by
  cases h with
  | value hv => exact ⟨hv, _, _, rfl⟩
  | _ => cases hf

mutual
theorem build_agrees : ∀ (b : Binding) {scope : String}, b.WellFormed types catalogue →
    b.DirectiveFree → types.SelfDescribing b.schema →
    Agrees (b.build catalogue scope) (b.checkLiterals scope) (·.type = b.schema.type)
  | ⟨schema, rules⟩, scope, hw, hd, hs => by
    obtain ⟨slots, -, hc⟩ := construct_of_isSome hw.constructible
    rw [Binding.build, Binding.checkLiterals, hc, Attempt.lift_ok_bind]
    exact buildRules_agrees rules hw hd hs (fun r hr => hr) rfl rfl
termination_by structural b => b

/-- The check writes to an object of its own, which lacks what nested rules give. -/
theorem buildRules_agrees : ∀ (rules : List Rule) {b : Binding} {scope : String} {o o' : Object},
    b.WellFormed types catalogue → b.DirectiveFree → types.SelfDescribing b.schema →
    (∀ r ∈ rules, r ∈ b.rules) → o.type = b.schema.type → o'.type = b.schema.type →
    Agrees (buildRules catalogue rules scope o) (checkRuleLiterals rules scope o')
      (·.type = b.schema.type)
  | [], b, scope, o, o', _, _, _, _, ho, _ => by
    rw [buildRules, checkRuleLiterals]
    exact .ok o ho
  | ⟨segment, field, spec⟩ :: rules, b, scope, o, o', hw, hd, hs, hb, ho, ho' => by
    have hr := hb _ List.mem_cons_self
    have hrest := fun r hr => hb r (List.mem_cons_of_mem _ hr)
    have hsuit := hw.suited _ hr
    have howner := hw.owner hr
    have hassign := hw.assignable _ hr
    have hfree := hd.rule hr
    have hwrite : ∀ {o : Object}, o.type = b.schema.type → ∀ a, writeField o field segment
        (joinPath scope segment) a = _ :=
      fun ho a => writeField_eq (ho.trans howner.symm) hassign
    rw [buildRules, checkRuleLiterals]
    by_cases hf : field.form.isValue = true
    · -- both write the same value
      obtain ⟨hv, slot, t, hform⟩ : _ ∧ ∃ slot t, field.form = .value slot t :=
        hsuit.of_isValue hf
      obtain ⟨v, hl, hres⟩ := literal?_of_isValue hv hfree
      simp only [hwrite ho, hwrite ho', hform, FieldForm.isValue, if_true, hl, Spec.assignment,
        hres, pure_bind]
      cases FieldForm.content (.value slot t) (.value v) with
      | ok c => exact buildRules_agrees rules hw hd hs hrest ho ho'
      | error m => exact .error _
    · -- only generation writes, and what was built fits the field
      rw [if_neg hf]
      refine (assignment_agrees spec hsuit (by simpa using hf) hfree fun t ht =>
        hs.step (Schema.mem_of_field? (hw.declared _ hr)) ht).bind ?_
      rintro a ⟨slot, c, hc⟩
      rw [hwrite ho, hc]
      exact buildRules_agrees rules hw hd hs hrest ho ho'
termination_by structural rules => rules

theorem assignment_agrees : ∀ (spec : Spec) {form : FieldForm} {path : String},
    spec.Suits types catalogue form → form.isValue = false → spec.DirectiveFree →
    (∀ t, form.objectType? = some t → (types t).type = t ∧ types.SelfDescribing (types t)) →
    Agrees (spec.assignment catalogue form path) (spec.checkNested path)
      (fun a => ∃ slot c, form.content a = .ok (slot, c))
  | spec, form, path, h, hf, hd, ht => by
    cases h with
    | value => cases hf
    | nested hs hw =>
      obtain ⟨htype, hself⟩ := ht _ rfl
      rw [Spec.assignment, Spec.checkNested]
      have hfree := Spec.directiveFree_nested.1 hd
      refine (build_agrees _ hw hfree (hs ▸ hself)).map fun o ho => ?_
      rw [hs, htype] at ho
      exact ⟨_, _, by rw [FieldForm.content, Object.ofType_eq_ok.2 ⟨ho, rfl⟩]; rfl⟩
    | optional hs hw =>
      obtain ⟨htype, hself⟩ := ht _ rfl
      rw [Spec.assignment, Spec.checkNested]
      have hfree := Spec.directiveFree_nested.1 hd
      refine (build_agrees _ hw hfree (hs ▸ hself)).map fun o ho => ?_
      rw [hs, htype] at ho
      exact ⟨_, _, by rw [FieldForm.content, Object.ofType_eq_ok.2 ⟨ho, rfl⟩]; rfl⟩
    | absent =>
      rw [Spec.assignment]
      exact .ok _ ⟨_, _, rfl⟩
    | list hi =>
      obtain ⟨htype, hself⟩ := ht _ rfl
      rw [Spec.assignment, Spec.checkNested]
      have hitems := Spec.directiveFree_sequence.1 hd
      refine (buildItems_agrees _ hi hitems htype hself).map fun os hos => ?_
      exact ⟨_, _, by rw [FieldForm.content, Object.mapM_ofType_eq_ok.2 ⟨hos, rfl⟩]; rfl⟩
termination_by structural spec => spec

theorem buildItems_agrees : ∀ (items : List Spec) {slot : String} {t : TypeName} {path : String}
    {i : Nat}, (∀ x ∈ items, x.Suits types catalogue (.nested slot t)) →
    (∀ x ∈ items, x.DirectiveFree) → (types t).type = t → types.SelfDescribing (types t) →
    Agrees (buildItems catalogue items path i) (checkItemLiterals items path i)
      (fun os => ∀ o ∈ os, o.type = t)
  | [], _, _, path, i, _, _, _, _ => by
    rw [buildItems, checkItemLiterals]
    exact .ok _ (by simp)
  | x :: xs, slot, t, path, i, hi, hd, ht, hself => by
    have hrest := fun y hy => hi y (List.mem_cons_of_mem x hy)
    have hdrest := fun y hy => hd y (List.mem_cons_of_mem x hy)
    have hx := hd x List.mem_cons_self
    cases hi x List.mem_cons_self with
    | nested hs hw =>
      rw [buildItems, checkItemLiterals]
      refine (build_agrees _ hw (Spec.directiveFree_nested.1 hx) (hs ▸ hself)).bind fun o ho => ?_
      refine (buildItems_agrees xs hrest hdrest ht hself).map fun os hos => ?_
      rw [hs, ht] at ho
      exact List.forall_mem_cons.2 ⟨ho, hos⟩
termination_by structural items => items
end

/-- Rules that are no directives compile to a binding without directives. Such a binding takes
nothing from the source. It gives an object exactly where the check passes, and the fault of the
check where it does not; so an accepted one gives the same object with every source. -/
theorem checkLiterals_agrees_build {schema : Schema} {rules : Value} {b : Binding}
    (h : compile types catalogue schema rules = .ok b) (hs : types.SelfDescribing schema) :
    (rules.Plain → b.DirectiveFree) ∧
      (b.DirectiveFree →
        (∀ scope, ∃ r : Except Fault Object, b.checkLiterals scope = r.map (fun _ => ()) ∧
          ∀ {σ : Type} (source : Source σ) (s : σ),
            (b.build catalogue scope).outcome source s = (r, s)) ∧
        ∀ {type : TypeName} {f : Factory}, types type = schema →
          Factory.compile types catalogue type rules = .ok f →
            ∃ o : Object, o.type = type ∧ ∀ {σ : Type} (source : Source σ) (s : σ),
              f.generate.outcome source s = (.ok o, s)) := by
  obtain ⟨hschema, hw⟩ := wellFormed_of_compile h
  refine ⟨directiveFree_of_compile h, fun hd => ?_⟩
  have hagree : ∀ scope, Agrees (b.build catalogue scope) (b.checkLiterals scope)
      (·.type = b.schema.type) := fun scope => build_agrees b hw hd (hschema ▸ hs)
  refine ⟨fun scope => ?_, fun {type f} htype hf => ?_⟩
  · obtain ⟨r, hb, hc, -⟩ := hagree scope
    refine ⟨r, hc, fun source s => ?_⟩
    rw [hb, Attempt.outcome_lift]
  · obtain ⟨r, hb, hc, ho⟩ := hagree ""
    obtain ⟨hself, b', hb', hl, rfl⟩ := Factory.compile_eq_ok.1 hf
    rw [htype, h] at hb'
    cases hb'
    rw [hl] at hc
    obtain ⟨o, rfl, -⟩ := Outcome.map_eq_ok.1 hc.symm
    refine ⟨o, ?_, fun source s => ?_⟩
    · rw [ho o rfl, hschema, ← htype, hself]
    · rw [generate_eq_build hf, hb, Attempt.outcome_lift]

theorem Sample.plain_rules : (rules (.text "Ada")).Plain := by
  rintro s (_ | _ | ⟨he, h⟩)
  simp only [List.mem_cons, List.not_mem_nil, or_false] at he
  rcases he with rfl | rfl | rfl | rfl | rfl
  · cases h with
    | entry he h =>
      cases List.mem_singleton.1 he
      cases h
      rfl
  · cases h
    rfl
  · cases h
    rfl
  · cases h with
    | item hv h =>
      cases List.mem_singleton.1 hv
      cases h with
      | entry he h =>
        cases List.mem_singleton.1 he
        cases h
        rfl
  · cases h

theorem givenName_agrees :
    Sample.givenName.binding.DirectiveFree ∧
      (∃ r : Except Fault Object,
        Sample.givenName.binding.checkLiterals "" = r.map (fun _ => ()) ∧
          ∀ {σ : Type} (source : Source σ) (s : σ),
            (Sample.givenName.binding.build Sample.catalogue "").outcome source s = (r, s)) ∧
      ∃ o : Object, o.type = "Person" ∧ ∀ {σ : Type} (source : Source σ) (s : σ),
        Sample.givenName.generate.outcome source s = (.ok o, s) := by
  have h := checkLiterals_agrees_build Sample.compile_givenRules Sample.selfDescribing
  have hd := h.1 Sample.plain_rules
  exact ⟨hd, (h.2 hd).1 "", (h.2 hd).2 rfl Sample.compile_givenName⟩

end Agreement
end Fixture
