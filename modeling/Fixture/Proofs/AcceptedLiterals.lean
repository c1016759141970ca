import Fixture.Proofs.LiteralCheck

/-! What accepted rules say of their literals. A rule of a value field without directives has a
value that fits the field, at every depth, and nothing more is asked: what stands beside a directive
in an array is first taken into the field when objects are generated. -/
namespace Fixture

variable {types : Types} {catalogue : Catalogue}

/-- Every rule of a value field that has no directives fits its field, at any depth. -/
def Binding.LiteralsFit (root : Binding) : Prop :=
  ∀ b scope, root.Holds b scope → ∀ r ∈ b.rules, ∀ slot t v, r.field.form = .value slot t →
    r.spec.literal? = some v → ∃ x, t.coerce v = .ok x

section Steps

/-- What the check of a rule's literals has found where it succeeds. -/
structure Rule.Checked (r : Rule) (scope : String) : Prop where
  fits : r.field.form.isValue = true → ∀ v, r.spec.literal? = some v →
    ∃ c, r.field.form.content (.value v) = .ok c
  nested : r.field.form.isValue = false → r.spec.checkNested (joinPath scope r.segment) = .ok ()

theorem content_of_writeField {o o' : Object} {field : Field} {segment path : String}
    {a : Assignment} (h : writeField o field segment path a = .ok o') :
    ∃ c, field.form.content a = .ok c := by
  unfold writeField Field.assign at h
  split at h
  · obtain ⟨_, -, h⟩ := Outcome.bind_eq_ok.1 (Outcome.mapError_eq_ok.1 (Outcome.mapError_eq_ok.1 h))
    obtain ⟨c, hc, -⟩ := Outcome.bind_eq_ok.1 h
    exact ⟨c, hc⟩
  · cases h

theorem checked_of_checkRuleLiterals {rules : List Rule} {scope : String} {o : Object}
    (h : checkRuleLiterals rules scope o = .ok ()) : ∀ r ∈ rules, r.Checked scope := by
  induction rules generalizing o with
  | nil => simp
  | cons r rules ih =>
    obtain ⟨segment, field, spec⟩ := r
    rw [checkRuleLiterals] at h
    rw [List.forall_mem_cons]
    split at h
    · rename_i hf
      cases hl : spec.literal? with
      | none =>
        simp only [hl] at h
        refine ⟨⟨fun _ v hv => ?_, fun hn => ?_⟩, ih h⟩
        · cases hl.symm.trans hv
        · cases hf.symm.trans hn
      | some v =>
        simp only [hl] at h
        split at h
        · rename_i hw
          refine ⟨⟨fun _ w hv => ?_, fun hn => ?_⟩, ih h⟩
          · cases hl.symm.trans hv
            exact content_of_writeField hw
          · cases hf.symm.trans hn
        · cases h
    · rename_i hf
      split at h
      · rename_i hn
        exact ⟨⟨fun hv => absurd hv hf, fun _ => hn⟩, ih h⟩
      · cases h

theorem checked_of_checkLiterals {b : Binding} {scope : String}
    (h : b.checkLiterals scope = .ok ()) : ∀ r ∈ b.rules, r.Checked scope := by
  obtain ⟨schema, rules⟩ := b
  rw [Binding.checkLiterals] at h
  split at h
  · exact checked_of_checkRuleLiterals h
  · cases h

theorem checkLiterals_of_checkItemLiterals {items : List Spec} {path : String} {i : Nat}
    (h : checkItemLiterals items path i = .ok ()) {k : Nat} {b : Binding}
    (hk : items[k]? = some (.nested b)) : b.checkLiterals (itemPath path (i + k)) = .ok () := by
  induction items generalizing i k with
  | nil => simp at hk
  | cons x xs ih =>
    cases k with
    | zero =>
      obtain rfl : x = .nested b := by simpa using hk
      rw [checkItemLiterals] at h
      split at h
      · assumption
      · cases h
    | succ k =>
      rw [List.getElem?_cons_succ] at hk
      rw [Nat.add_comm k, ← Nat.add_assoc]
      cases x with
      | nested b' =>
        rw [checkItemLiterals] at h
        split at h
        · exact ih h hk
        · cases h
      | literal | directive | sequence =>
        rw [checkItemLiterals] at h
        · exact ih h hk
        · simp

end Steps

section Acceptance

theorem Spec.Suits.isValue_of_nested {b : Binding} {form : FieldForm}
    (h : (Spec.nested b).Suits types catalogue form) : form.isValue = false := by
  cases h with
  | value hv => cases hv
  | nested | optional => rfl

theorem Spec.Suits.isValue_of_mem {items : List Spec} {b : Binding} {form : FieldForm}
    (h : (Spec.sequence items).Suits types catalogue form) (hb : .nested b ∈ items) :
    form.isValue = false := by
  cases h with
  | value hv =>
    cases hv with
    | sequence hv => cases hv _ hb
  | list => rfl

theorem Binding.Holds.checkLiterals {root b : Binding} {scope : String} (hh : root.Holds b scope)
    (hw : root.WellFormed types catalogue) (h : root.checkLiterals "" = .ok ()) :
    b.checkLiterals scope = .ok () := by
  induction hh with
  | root => exact h
  | nested hh hr hs ih =>
    have hsuit := (hw.of_holds hh).suited _ hr
    rw [hs] at hsuit
    have hn := (checked_of_checkLiterals ih _ hr).nested hsuit.isValue_of_nested
    rw [hs, Spec.checkNested] at hn
    exact hn
  | item hh hr hs hi ih =>
    have hsuit := (hw.of_holds hh).suited _ hr
    rw [hs] at hsuit
    have hn := (checked_of_checkLiterals ih _ hr).nested
      (hsuit.isValue_of_mem (List.mem_of_getElem? hi))
    rw [hs, Spec.checkNested] at hn
    simpa using checkLiterals_of_checkItemLiterals hn hi

/-- The literal of a rule does not fit its field. -/
inductive LiteralFault (root : Binding) : Fault → Prop
  | intro {b : Binding} {scope slot : String} {r : Rule} {t : FieldType} {v : Value} {m : Mismatch}
      (h : root.Holds b scope) (hr : r ∈ b.rules) (form : r.field.form = .value slot t)
      (literal : r.spec.literal? = some v) (refused : t.coerce v = .error m) :
      LiteralFault root (.mismatch (joinPath scope r.segment) m)

mutual
/-- A check that fails has found a literal that does not fit its field. -/
theorem checkLiterals_error {root : Binding} (hroot : root.WellFormed types catalogue) :
    ∀ (b : Binding) {scope : String} {e : Fault}, root.Holds b scope →
      b.checkLiterals scope = .error e → LiteralFault root e
  | ⟨schema, rules⟩, scope, e, hh, h => by
    obtain ⟨slots, -, hc⟩ := construct_of_isSome (hroot.of_holds hh).constructible
    rw [Binding.checkLiterals, hc] at h
    exact checkRuleLiterals_error hroot rules hh (fun r hr => hr) rfl h
termination_by structural b => b

theorem checkRuleLiterals_error {root : Binding} (hroot : root.WellFormed types catalogue) :
    ∀ (rules : List Rule) {b : Binding} {scope : String} {o : Object} {e : Fault},
      root.Holds b scope → (∀ r ∈ rules, r ∈ b.rules) → o.type = b.schema.type →
      checkRuleLiterals rules scope o = .error e → LiteralFault root e
  | [], _, _, _, _, _, _, _, h => by
    cases h
  | ⟨segment, field, spec⟩ :: rules, b, scope, o, e, hh, hb, ho, h => by
    have hr := hb _ List.mem_cons_self
    have hrest := fun r hr => hb r (List.mem_cons_of_mem _ hr)
    have hw := hroot.of_holds hh
    have hsuit := hw.suited _ hr
    rw [checkRuleLiterals] at h
    by_cases hf : field.form.isValue = true
    · obtain ⟨-, slot, t, hform⟩ : _ ∧ ∃ slot t, field.form = .value slot t := hsuit.of_isValue hf
      simp only [hf, if_true] at h
      cases hl : spec.literal? with
      | none =>
        simp only [hl] at h
        exact checkRuleLiterals_error hroot rules hh hrest ho h
      | some v =>
        simp only [hl, writeField_eq (ho.trans (hw.owner hr).symm) (hw.assignable _ hr), hform,
          FieldForm.content] at h
        cases hc : t.coerce v with
        | ok x =>
          simp only [hc, Except.map] at h
          exact checkRuleLiterals_error hroot rules hh hrest ((o.type_set _ _).trans ho) h
        | error m =>
          simp only [hc, Except.map] at h
          cases h
          exact .intro hh hr hform hl hc
    · rw [if_neg hf] at h
      cases hn : spec.checkNested (joinPath scope segment) with
      | ok u =>
        simp only [hn] at h
        exact checkRuleLiterals_error hroot rules hh hrest ho h
      | error e' =>
        simp only [hn] at h
        cases h
        exact checkNested_error hroot spec hh hr rfl hn
termination_by structural rules => rules

theorem checkNested_error {root : Binding} (hroot : root.WellFormed types catalogue) :
    ∀ (spec : Spec) {b : Binding} {scope : String} {r : Rule} {e : Fault}, root.Holds b scope →
      r ∈ b.rules → r.spec = spec → spec.checkNested (joinPath scope r.segment) = .error e →
      LiteralFault root e
  | .nested b', b, scope, r, e, hh, hr, hs, h => by
    rw [Spec.checkNested] at h
    exact checkLiterals_error hroot b' (hh.nested hr hs) h
  | .sequence items, b, scope, r, e, hh, hr, hs, h => by
    rw [Spec.checkNested] at h
    exact checkItemLiterals_error hroot items hh hr hs (fun k => by simp) h
  | .literal _, _, _, _, _, _, _, _, h | .directive _, _, _, _, _, _, _, _, h => by
    simp [Spec.checkNested] at h
termination_by structural spec => spec

/-- The items are those of the rule's list from position `i` on. -/
theorem checkItemLiterals_error {root : Binding} (hroot : root.WellFormed types catalogue) :
    ∀ (xs : List Spec) {items : List Spec} {i : Nat} {b : Binding} {scope : String} {r : Rule}
      {e : Fault}, root.Holds b scope → r ∈ b.rules → r.spec = .sequence items →
      (∀ k, items[i + k]? = xs[k]?) →
      checkItemLiterals xs (joinPath scope r.segment) i = .error e → LiteralFault root e
  | [], _, _, _, _, _, _, _, _, _, _, h => by
    cases h
  | .nested b' :: xs, items, i, b, scope, r, e, hh, hr, hs, hk, h => by
    rw [checkItemLiterals] at h
    split at h
    · refine checkItemLiterals_error hroot xs hh hr hs (fun k => ?_) h
      rw [Nat.add_assoc, Nat.add_comm 1, hk, List.getElem?_cons_succ]
    · rename_i hb
      cases h
      exact checkLiterals_error hroot b' (hh.item hr hs (by simpa using hk 0)) hb
  | .literal _ :: xs, items, i, b, scope, r, e, hh, hr, hs, hk, h
  | .directive _ :: xs, items, i, b, scope, r, e, hh, hr, hs, hk, h
  | .sequence _ :: xs, items, i, b, scope, r, e, hh, hr, hs, hk, h => by
    rw [checkItemLiterals] at h
    · refine checkItemLiterals_error hroot xs hh hr hs (fun k => ?_) h
      rw [Nat.add_assoc, Nat.add_comm 1, hk, List.getElem?_cons_succ]
    · simp
termination_by structural xs => xs
end

/-- The check accepts exactly the bindings whose literals fit, at any depth. -/
theorem checkLiterals_eq_ok_iff {root : Binding} (hw : root.WellFormed types catalogue) :
    root.checkLiterals "" = .ok () ↔ root.LiteralsFit := by
  constructor
  · intro h b scope hh r hr slot t v hform hl
    have hv : r.field.form.isValue = true := by rw [hform, FieldForm.isValue]
    have hc := (checked_of_checkLiterals (hh.checkLiterals hw h) r hr).fits hv v hl
    rw [hform, FieldForm.content] at hc
    exact Outcome.exists_map_eq_ok.1 hc
  · intro hfit
    cases h : root.checkLiterals "" with
    | ok u => rfl
    | error e =>
      cases checkLiterals_error hw root .root h with
      | intro hh hr hform hl hm =>
        obtain ⟨x, hx⟩ := hfit _ _ hh _ hr _ _ _ hform hl
        cases hm.symm.trans hx

theorem accepted_iff_literalsFit {type : TypeName} {rules : Value} {b : Binding}
    (ht : (types type).type = type) (hb : compile types catalogue (types type) rules = .ok b) :
    (∃ f, Factory.compile types catalogue type rules = .ok f) ↔ b.LiteralsFit := by
  rw [← checkLiterals_eq_ok_iff (wellFormed_of_compile hb).2]
  constructor
  · rintro ⟨f, hf⟩
    obtain ⟨-, _, hb', hl, -⟩ := Factory.compile_eq_ok.1 hf
    cases hb.symm.trans hb'
    exact hl
  · intro hl
    exact ⟨_, Factory.compile_eq_ok.2 ⟨ht, b, hb, hl, rfl⟩⟩

theorem literalsFit_of_compile {type : TypeName} {rules : Value} {f : Factory}
    (h : Factory.compile types catalogue type rules = .ok f) : f.binding.LiteralsFit := by
  obtain ⟨ht, b, hb, -, rfl⟩ := Factory.compile_eq_ok.1 h
  exact (accepted_iff_literalsFit ht hb).1 ⟨_, h⟩

end Acceptance

section Lists

theorem exists_literal?_of_literalItems? {items : List Spec} {vs : List Value}
    (h : literalItems? items = some vs) {x : Spec} (hx : x ∈ items) :
    ∃ v ∈ vs, x.literal? = some v := by
  induction items generalizing vs with
  | nil => cases hx
  | cons y ys ih =>
    rw [literalItems?] at h
    obtain ⟨v, hv, h⟩ := Option.bind_eq_some_iff.1 h
    obtain ⟨ws, hws, h⟩ := Option.bind_eq_some_iff.1 h
    cases h
    rcases List.mem_cons.1 hx with rfl | hx
    · exact ⟨v, List.mem_cons_self, hv⟩
    · obtain ⟨w, hw, hl⟩ := ih hws hx
      exact ⟨w, List.mem_cons_of_mem _ hw, hl⟩

theorem FieldType.exists_coerce_list_iff {t : FieldType} {vs : List Value} :
    (∃ x, (FieldType.list t).coerce (.list vs) = .ok x) ↔ ∀ v ∈ vs, ∃ x, t.coerce v = .ok x := by
  show (∃ x, (vs.mapM t.coerce : Except Mismatch (List t.Carrier)) = .ok x) ↔ _
  induction vs with
  | nil => simp [pure, Except.pure]
  | cons v vs ih =>
    rw [List.forall_mem_cons, ← ih, List.mapM_cons]
    simp only [Outcome.bind_eq_ok, pure, Except.pure, Except.ok.injEq]
    constructor
    · rintro ⟨_, x, hx, xs, hxs, rfl⟩
      exact ⟨⟨x, hx⟩, xs, hxs⟩
    · rintro ⟨⟨x, hx⟩, xs, hxs⟩
      exact ⟨_, x, hx, xs, hxs, rfl⟩

theorem Binding.LiteralsFit.items {root b : Binding} (h : root.LiteralsFit)
    (hw : root.WellFormed types catalogue) {scope : String} (hh : root.Holds b scope) {r : Rule}
    (hr : r ∈ b.rules) {slot : String} {t : FieldType} {items : List Spec}
    (hform : r.field.form = .value slot (.list t)) (hs : r.spec = .sequence items)
    (hd : ∀ x ∈ items, x.DirectiveFree) :
    ∀ x ∈ items, ∃ v, x.literal? = some v ∧ ∃ y, t.coerce v = .ok y := by
  have hsuit := (hw.of_holds hh).suited r hr
  have hv : r.field.form.isValue = true := by rw [hform, FieldForm.isValue]
  obtain ⟨hvalue, -⟩ := hsuit.of_isValue hv
  rw [hs] at hvalue
  obtain ⟨w, hl, -⟩ := literal?_of_isValue hvalue (Spec.directiveFree_sequence.2 hd)
  rw [Spec.literal?, Option.map_eq_some_iff] at hl
  obtain ⟨vs, hvs, rfl⟩ := hl
  have hall := FieldType.exists_coerce_list_iff.1
    (h b scope hh r hr slot (.list t) (.list vs) hform (by rw [hs, Spec.literal?, hvs]; rfl))
  intro x hx
  obtain ⟨v, hv, hl⟩ := exists_literal?_of_literalItems? hvs hx
  exact ⟨v, hl, hall v hv⟩

end Lists

section Misfits
variable {σ : Type} {source : Source σ} {s u : σ}

theorem type_of_buildItems {items : List Spec} {slot path : String} {t : TypeName} {i : Nat}
    {os : List Object} (hi : ∀ x ∈ items, x.Suits types catalogue (.nested slot t))
    (h : (buildItems catalogue items path i).outcome source s = (.ok os, u)) :
    ∀ o ∈ os, o.type = (types t).type := by
  induction items generalizing i os s with
  | nil =>
    rw [buildItems] at h
    cases h
    simp
  | cons x xs ih =>
    cases hi x List.mem_cons_self with
    | nested hs =>
      rw [buildItems] at h
      obtain ⟨o, w, hb, h⟩ := Attempt.outcome_bind_ok h
      obtain ⟨rest, w', hrest, h⟩ := Attempt.outcome_bind_ok h
      cases h
      refine List.forall_mem_cons.2 ⟨?_, ih (fun y hy => hi y (List.mem_cons_of_mem _ hy)) hrest⟩
      rw [type_of_build hb, hs]

theorem not_content_of_refused {field : Field} {o : Object} {a : Assignment} {m : Mismatch}
    (ho : o.type = field.owner) (ha : field.form.isAssignable = true)
    (h : field.assign o a = .error (.mismatch m)) : ¬ ∃ c, field.form.content a = .ok c := by
  rintro ⟨c, hc⟩
  have hw : writeField o field "" "" a = _ := writeField_eq ho ha
  rw [hc, writeField, h] at hw
  cases hw

theorem FieldForm.exists_content_object {form : FieldForm} {t : TypeName} {o : Object}
    (hf : form.nestedType? = some t) (ho : o.type = t) : ∃ c, form.content (.object o) = .ok c := by
  cases form with
  | nested | optional =>
    cases hf
    exact ⟨_, by rw [FieldForm.content, Object.ofType_eq_ok.2 ⟨ho, rfl⟩]; rfl⟩
  | _ => cases hf

/-- What does not fit its field comes from a rule that draws, or is an object of a type whose schema
is that of another. -/
theorem draws_of_misfit {b : Binding} {r : Rule} {o : Object} {path : String} {a : Assignment}
    {m : Mismatch} (hw : b.WellFormed types catalogue) (hr : r ∈ b.rules)
    (hfit : ∀ slot t v, r.field.form = .value slot t → r.spec.literal? = some v →
      ∃ x, t.coerce v = .ok x)
    (target : o.type = b.schema.type)
    (given : (r.spec.assignment catalogue r.field.form path).outcome source s = (.ok a, u))
    (refused : r.field.assign o a = .error (.mismatch m)) :
    (∃ c, r.spec.Draws c) ∨
      ∃ t, r.field.form.objectType? = some t ∧ (types t).type ≠ t := by
  have hcontent := not_content_of_refused (target.trans (hw.owner hr).symm) (hw.assignable r hr)
    refused
  have hsuit := hw.suited r hr
  generalize r.field.form = form at hfit given hcontent hsuit
  generalize r.spec = spec at hfit given hsuit
  cases hsuit with
  | value hv =>
    refine Or.inl (Classical.not_forall_not.1 fun hd => ?_)
    obtain ⟨v, hl, hres⟩ := literal?_of_isValue hv hd
    rw [Spec.assignment, hres, pure_bind] at given
    cases given
    obtain ⟨x, hx⟩ := hfit _ _ v rfl hl
    exact hcontent ⟨_, by rw [FieldForm.content, hx]; rfl⟩
  | nested hs =>
    refine Or.inr ⟨_, rfl, fun ht => hcontent ?_⟩
    rw [Spec.assignment] at given
    obtain ⟨o', w, hb, given⟩ := Attempt.outcome_bind_ok given
    cases given
    exact FieldForm.exists_content_object rfl ((type_of_build hb).trans (hs ▸ ht))
  | optional hs =>
    refine Or.inr ⟨_, rfl, fun ht => hcontent ?_⟩
    rw [Spec.assignment] at given
    obtain ⟨o', w, hb, given⟩ := Attempt.outcome_bind_ok given
    cases given
    exact FieldForm.exists_content_object rfl ((type_of_build hb).trans (hs ▸ ht))
  | absent =>
    rw [Spec.assignment] at given
    cases given
    exact absurd ⟨_, rfl⟩ hcontent
  | list hi =>
    refine Or.inr ⟨_, rfl, fun ht => hcontent ?_⟩
    rw [Spec.assignment] at given
    obtain ⟨os, w, hb, given⟩ := Attempt.outcome_bind_ok given
    cases given
    have hos := type_of_buildItems hi hb
    rw [ht] at hos
    exact ⟨_, by rw [FieldForm.content, Object.mapM_ofType_eq_ok.2 ⟨hos, rfl⟩]; rfl⟩

end Misfits

/-- The literals of accepted rules fit their fields. In an array without directives every item fits
the type of the list's elements, at any depth. So generation fails in a draw or at a rule that
draws, unless the schema of a type is that of another one. -/
theorem accepted_literals_fit {type : TypeName} {rules : Value} {f : Factory}
    (h : Factory.compile types catalogue type rules = .ok f) :
    f.binding.LiteralsFit ∧
    (∀ b scope, f.binding.Holds b scope → ∀ r ∈ b.rules, ∀ slot t items,
      r.field.form = .value slot (.list t) → r.spec = .sequence items →
      (∀ x ∈ items, x.DirectiveFree) →
        ∀ x ∈ items, ∃ v, x.literal? = some v ∧ ∃ y, t.coerce v = .ok y) ∧
    ∀ {σ : Type} (source : Source σ) (s : σ) e u, f.generate.outcome source s = (.error e, u) →
      (∃ c, f.binding.Draws c ∧ FailedDraw catalogue source c e u) ∨
      ∃ b scope, f.binding.Holds b scope ∧ ∃ r ∈ b.rules, ∃ m,
        e = .mismatch (joinPath scope r.segment) m ∧
          ((∃ c, r.spec.Draws c) ∨
            ∃ t, r.field.form.objectType? = some t ∧ (types t).type ≠ t) := by
  have hfit := literalsFit_of_compile h
  obtain ⟨-, b, hb, -, rfl⟩ := Factory.compile_eq_ok.1 h
  have hw := (wellFormed_of_compile hb).2
  refine ⟨hfit, fun b' scope hh r hr slot t items => hfit.items hw hh hr, ?_⟩
  intro σ source s e u he
  rw [generate_eq_build h] at he
  cases build_error hw b .root he with
  | draw hc hf => exact .inl ⟨_, hc, hf⟩
  | misfit hh hr target given refused =>
    exact .inr ⟨_, _, hh, _, hr, _, rfl,
      draws_of_misfit (hw.of_holds hh) hr (hfit _ _ hh _ hr) target given refused⟩

/-! Posts with tags, and rules for them that are accepted. -/
namespace Sample

def post : Schema :=
  Schema.constructible { type := "Post", name := "Post" } [("tags", .datum (.list .text) [])]
    |>.declare "tags" (.value "tags" (.list .text))

def tagged (items : List Spec) : Factory :=
  ⟨"Post", ⟨post, [⟨"tags", ⟨"tags", "Post", .value "tags" (.list .text)⟩, .sequence items⟩]⟩,
    Sample.catalogue⟩

theorem compile_tags {vs : List Value} {items : List Spec}
    (h : classifyItems Sample.catalogue vs "tags" 0 = .ok items)
    (hl : (tagged items).binding.checkLiterals "" = .ok ()) :
    Factory.compile (fun _ => post) Sample.catalogue "Post" (.map [("tags", .list vs)]) =
      .ok (tagged items) := by
  refine Factory.compile_eq_ok.2 ⟨rfl, _, compile_eq_ok.2 ⟨_, _, rfl, rfl, ?_⟩, hl, rfl⟩
  refine bindTree_eq_ok.2 ⟨rfl, rfl, _, ?_, rfl⟩
  refine bindNodes_cons_eq_ok.2 ⟨_, _, _, rfl, rfl, (bindField_eq_ok rfl).2 (.value ?_),
    bindNodes_nil, rfl⟩
  exact Outcome.map_eq_ok.2 ⟨items, h, rfl⟩

/-- A text and a number, which is a text too. -/
def plainTags : List Spec := [.literal (.text "news"), .literal (.int 7 (by decide))]

theorem compile_plainTags :
    Factory.compile (fun _ => post) Sample.catalogue "Post"
      (.map [("tags", .list [.text "news", .int 7 (by decide)])]) = .ok (tagged plainTags) := by
  refine compile_tags ?_ rfl
  rfl

/-- A directive that draws a text, and a value that is no text. -/
def mixedTags : List Spec := [.directive ⟨"word", []⟩, .literal .null]

theorem compile_mixedTags :
    Factory.compile (fun _ => post) Sample.catalogue "Post"
      (.map [("tags", .list [.text "@word", .null])]) = .ok (tagged mixedTags) := by
  refine compile_tags ?_ rfl
  rfl

end Sample

theorem plainTags_fit :
    Factory.compile (fun _ => Sample.post) Sample.catalogue "Post"
        (.map [("tags", .list [.text "news", .int 7 (by decide)])]) =
      .ok (Sample.tagged Sample.plainTags) ∧
      ∀ x ∈ Sample.plainTags, ∃ v, x.literal? = some v ∧ ∃ y, FieldType.text.coerce v = .ok y := by
  have h := accepted_literals_fit Sample.compile_plainTags
  refine ⟨Sample.compile_plainTags, h.2.1 _ _ .root _ List.mem_cons_self _ _ _ rfl rfl ?_⟩
  intro x hx c hc
  simp only [Sample.plainTags, List.mem_cons, List.not_mem_nil, or_false] at hx
  rcases hx with rfl | rfl <;> cases hc

/-- Beside a directive a literal is not looked at: one that does not fit is accepted, and then
nothing can be generated. -/
theorem literal_unchecked_beside_directive :
    ¬ (∀ (types : Types) (catalogue : Catalogue) (type : TypeName) (rules : Value) (f : Factory),
        Factory.compile types catalogue type rules = .ok f →
        ∀ b scope, f.binding.Holds b scope → ∀ r ∈ b.rules, ∀ slot t items,
          r.field.form = .value slot (.list t) → r.spec = .sequence items →
            ∀ x ∈ items, ∀ v, x.literal? = some v → ∃ y, t.coerce v = .ok y) ∧
      ∀ {σ : Type} (source : Source σ) (s : σ), ∃ u,
        (Sample.tagged Sample.mixedTags).generate.outcome source s =
          (.error (.mismatch "tags" ⟨"string", "null null"⟩), u) := by
  constructor
  · intro hall
    obtain ⟨y, hy⟩ := hall _ _ _ _ _ Sample.compile_mixedTags _ _ .root _ List.mem_cons_self _ _ _
      rfl rfl (.literal .null) (List.mem_cons_of_mem _ List.mem_cons_self) .null rfl
    cases hy
  · intro σ source s
    rw [generate_eq_build Sample.compile_mixedTags]
    exact ⟨(source.word32 s).2, rfl⟩

end Fixture
