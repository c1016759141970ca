import Fixture.Proofs.Compilation
import Fixture.Proofs.Fields

/-! Well-formed bindings: every rule names a field of its schema that can be written, and carries
what such a field takes. Compilation produces no others, at any depth. -/
namespace Fixture

section Invariant
variable (types : Types) (catalogue : Catalogue)

/-- Literals, directives that pass their check, and lists of these. -/
inductive Spec.IsValue : Spec → Prop
  | literal (v : Value) : IsValue (.literal v)
  | directive {c : Call} (h : catalogue.check c = .ok ()) : IsValue (.directive c)
  | sequence {items : List Spec} (h : ∀ x ∈ items, IsValue x) : IsValue (.sequence items)

mutual
inductive Binding.WellFormed : Binding → Prop
  | intro {schema : Schema} {rules : List Rule} (unrepeated : schema.repeated? = none)
      (constructible : schema.initial.isSome = true)
      (distinct : (rules.map Rule.segment).Nodup)
      (declared : ∀ r ∈ rules, schema.field? r.segment = some r.field)
      (assignable : ∀ r ∈ rules, r.field.form.isAssignable = true)
      (suited : ∀ r ∈ rules, Spec.Suits r.spec r.field.form) : Binding.WellFormed ⟨schema, rules⟩

/-- What a field of a form takes. An item of a list is what a nested field of its type takes. -/
inductive Spec.Suits : Spec → FieldForm → Prop
  | value {spec : Spec} {slot : String} {t : FieldType} (h : spec.IsValue catalogue) :
      Spec.Suits spec (.value slot t)
  | nested {b : Binding} {slot : String} {t : TypeName} (schema : b.schema = types t)
      (h : Binding.WellFormed b) : Spec.Suits (.nested b) (.nested slot t)
  | optional {b : Binding} {slot declared : String} {t : TypeName} (schema : b.schema = types t)
      (h : Binding.WellFormed b) : Spec.Suits (.nested b) (.optional slot t declared)
  | absent {slot declared : String} {t : TypeName} :
      Spec.Suits (.literal .null) (.optional slot t declared)
  | list {items : List Spec} {slot declared : String} {t : TypeName}
      (h : ∀ x ∈ items, Spec.Suits x (.nested slot t)) :
      Spec.Suits (.sequence items) (.list slot t declared)
end

end Invariant

variable {types : Types} {catalogue : Catalogue}

namespace Binding.WellFormed

variable {b : Binding} (h : b.WellFormed types catalogue)
include h

theorem unrepeated : b.schema.repeated? = none := by
  cases h
  assumption

theorem constructible : b.schema.initial.isSome = true := by
  cases h
  assumption

theorem distinct : (b.rules.map Rule.segment).Nodup := by
  cases h
  assumption

theorem declared : ∀ r ∈ b.rules, b.schema.field? r.segment = some r.field := by
  cases h
  assumption

theorem assignable : ∀ r ∈ b.rules, r.field.form.isAssignable = true := by
  cases h
  assumption

theorem suited : ∀ r ∈ b.rules, r.spec.Suits types catalogue r.field.form := by
  cases h
  assumption

theorem owner {r : Rule} (hr : r ∈ b.rules) : r.field.owner = b.schema.type :=
  Schema.owner_of_field? (h.declared r hr)

end Binding.WellFormed

mutual
theorem isValue_of_classify : ∀ (v : Value) {path : String} {spec : Spec},
    classify catalogue v path = .ok spec → spec.IsValue catalogue
  | v, path, spec, h => by
    cases classify_eq_ok.1 h with
    | literal => exact .literal _
    | directive _ _ hc => exact .directive hc
    | list hs => exact .sequence (isValue_of_classifyItems _ hs)
termination_by structural v => v

theorem isValue_of_classifyItems : ∀ (vs : List Value) {path : String} {i : Nat}
    {specs : List Spec}, classifyItems catalogue vs path i = .ok specs →
      ∀ x ∈ specs, x.IsValue catalogue
  | [], _, _, _, h => by
    cases h
    simp
  | v :: vs, path, i, specs, h => by
    obtain ⟨x, xs, hx, hxs, rfl⟩ := classifyItems_cons_eq_ok.1 h
    intro y hy
    rcases List.mem_cons.1 hy with rfl | hy
    · exact isValue_of_classify v hx
    · exact isValue_of_classifyItems vs hxs y hy
end

mutual
theorem wellFormed_of_bindTree : ∀ (b : Binding) {schema : Schema} {tree : PathTree}
    {scope : String}, bindTree types catalogue schema tree scope = .ok b → tree.Distinct →
      b.schema = schema ∧ b.WellFormed types catalogue
  | ⟨_, rules⟩, schema, tree, scope, h, ht => by
    obtain ⟨hr, hi, rules', hn, he⟩ := bindTree_eq_ok.1 h
    cases he
    have hkeys := map_segment_of_bindNodes hn
    have hrules := suits_of_bindNodes rules hn ht
    refine ⟨rfl, .intro hr hi ?_ (fun r hm => (hrules r hm).1) (fun r hm => (hrules r hm).2.1)
      (fun r hm => (hrules r hm).2.2)⟩
    rw [hkeys]
    exact ht.nodup_keys
termination_by structural b => b

theorem suits_of_bindNodes : ∀ (rules : List Rule) {schema : Schema} {tree : PathTree}
    {scope : String}, bindNodes types catalogue schema tree scope = .ok rules → tree.Distinct →
      ∀ r ∈ rules, schema.field? r.segment = some r.field ∧ r.field.form.isAssignable = true ∧
        r.spec.Suits types catalogue r.field.form
  | [], _, _, _, _, _ => by simp
  | ⟨segment, field, spec⟩ :: rules, schema, tree, scope, h, ht => by
    cases tree with
    | nil =>
      rw [bindNodes_nil] at h
      cases h
    | cons s direct children rest =>
      obtain ⟨_, _, _, hf, ha, hs, hm, he⟩ := bindNodes_cons_eq_ok.1 h
      cases he
      intro r hr
      rcases List.mem_cons.1 hr with rfl | hr
      · exact ⟨hf, ha, suits_of_fieldBound spec ((bindField_eq_ok ha).1 hs) ht.2.1⟩
      · exact suits_of_bindNodes rules hm ht.2.2 r hr
termination_by structural rules => rules

theorem suits_of_fieldBound : ∀ (spec : Spec) {form : FieldForm} {direct : Option Value}
    {children : PathTree} {path : String},
    FieldBound types catalogue path form direct children spec → children.Distinct →
      spec.Suits types catalogue form
  | spec, form, direct, children, path, h, hc => by
    cases h with
    | value h => exact .value (isValue_of_classify _ h)
    | nested hn hb =>
      obtain ⟨hs, hw⟩ := wellFormed_of_bindTree _ hb (hn.distinct hc)
      exact .nested hs hw
    | optional hn hb =>
      obtain ⟨hs, hw⟩ := wellFormed_of_bindTree _ hb (hn.distinct hc)
      exact .optional hs hw
    | absent => exact .absent
    | list h => exact .list fun x hx => suits_of_bindItems _ h x hx _
termination_by structural spec => spec

theorem suits_of_bindItems : ∀ (items : List Spec) {t : TypeName} {vs : List Value} {path : String}
    {i : Nat}, bindItems types catalogue (types t) vs path i = .ok items →
      ∀ x ∈ items, ∀ slot, x.Suits types catalogue (.nested slot t)
  | [], _, _, _, _, _ => by simp
  | .nested b :: xs, t, vs, path, i, h => by
    cases vs with
    | nil =>
      rw [bindItems_nil] at h
      cases h
    | cons v vs =>
      obtain ⟨entries, tree, _, more, rfl, ht, hb, hm, he⟩ := bindItems_cons_eq_ok.1 h
      cases he
      intro y hy slot
      rcases List.mem_cons.1 hy with rfl | hy
      · obtain ⟨hs, hw⟩ := wellFormed_of_bindTree b hb (PathTree.distinct_ofEntries ht)
        exact .nested hs hw
      · exact suits_of_bindItems xs hm y hy slot
  | .literal _ :: _, _, _, _, _, h | .directive _ :: _, _, _, _, _, h
  | .sequence _ :: _, _, _, _, _, h => (nomatch nested_of_bindItems h)
termination_by structural items => items
end

/-- A compiled rule set is a well-formed binding of its schema. -/
theorem wellFormed_of_compile {schema : Schema} {rules : Value} {b : Binding}
    (h : compile types catalogue schema rules = .ok b) :
    b.schema = schema ∧ b.WellFormed types catalogue := by
  obtain ⟨entries, tree, -, ht, hb⟩ := compile_eq_ok.1 h
  exact wellFormed_of_bindTree b hb (PathTree.distinct_ofEntries ht)

/-- The bindings below a binding, itself included, and the path at which each stands. -/
inductive Binding.Holds (root : Binding) : Binding → String → Prop
  | root : Holds root root ""
  | nested {b b' : Binding} {scope : String} {r : Rule} (h : Holds root b scope)
      (hr : r ∈ b.rules) (hs : r.spec = .nested b') : Holds root b' (joinPath scope r.segment)
  | item {b b' : Binding} {scope : String} {r : Rule} {items : List Spec} {i : Nat}
      (h : Holds root b scope) (hr : r ∈ b.rules) (hs : r.spec = .sequence items)
      (hi : items[i]? = some (.nested b')) :
      Holds root b' (itemPath (joinPath scope r.segment) i)

theorem Spec.Suits.wellFormed {b : Binding} {form : FieldForm}
    (h : (Spec.nested b).Suits types catalogue form) : b.WellFormed types catalogue := by
  cases h with
  | value hv => cases hv
  | nested _ hb => exact hb
  | optional _ hb => exact hb

theorem Spec.Suits.wellFormed_of_mem {items : List Spec} {b : Binding} {form : FieldForm}
    (h : (Spec.sequence items).Suits types catalogue form) (hb : .nested b ∈ items) :
    b.WellFormed types catalogue := by
  cases h with
  | value hv =>
    cases hv with
    | sequence hv => cases hv _ hb
  | list hl => exact (hl _ hb).wellFormed

theorem Binding.WellFormed.of_holds {root b : Binding} {scope : String}
    (hw : root.WellFormed types catalogue) (h : root.Holds b scope) :
    b.WellFormed types catalogue := by
  induction h with
  | root => exact hw
  | nested _ hr hs ih =>
    have hsuit := ih.suited _ hr
    rw [hs] at hsuit
    exact hsuit.wellFormed
  | item _ hr hs hi ih =>
    have hsuit := ih.suited _ hr
    rw [hs] at hsuit
    exact hsuit.wellFormed_of_mem (List.mem_of_getElem? hi)

end Fixture
