import Fixture.Proofs.RuleChange

/-! Bindings that differ in one literal. Rule sets that differ in one literal compile to the same
binding or to two of these: the literal of the field, if it is written at all, is the only thing
that is not decided by the keys and the other values. -/
namespace Fixture

open Relation (ReflGen)

mutual
/-- The specifications of a field of a form differ in one literal. -/
inductive Spec.Twin : FieldForm → Place → Spec → Spec → Prop
  | literal {slot : String} {t : FieldType} {spec spec' : Spec} {v v' : Value}
      (h : spec.literal? = some v) (h' : spec'.literal? = some v') :
      Spec.Twin (.value slot t) (.field slot) spec spec'
  | nested {form : FieldForm} {slot : String} {t : TypeName} {p : Place} {b b' : Binding}
      (type : form.nestedType? = some t) (kept : form.slot? = some slot) (h : Binding.Twin p b b') :
      Spec.Twin form (.within slot p) (.nested b) (.nested b')
  | item {slot declared : String} {t : TypeName} {p : Place} {before after : List Spec}
      {b b' : Binding} (h : Binding.Twin p b b') :
      Spec.Twin (.list slot t declared) (.item slot before.length p)
        (.sequence (before ++ .nested b :: after)) (.sequence (before ++ .nested b' :: after))

/-- The bindings have the same rules for the same type but for one, and there for one literal. -/
inductive Binding.Twin : Place → Binding → Binding → Prop
  | intro {schema : Schema} {segment : String} {field : Field} {p : Place} {spec spec' : Spec}
      {before after : List Rule} (h : Spec.Twin field.form p spec spec') :
      Binding.Twin p ⟨schema, before ++ ⟨segment, field, spec⟩ :: after⟩
        ⟨schema, before ++ ⟨segment, field, spec'⟩ :: after⟩
end

section Rules
variable {p : Place} {b b' : Binding}

theorem Binding.Twin.head {schema : Schema} {segment : String} {field : Field} {spec spec' : Spec}
    {after : List Rule} (h : Spec.Twin field.form p spec spec') :
    Binding.Twin p ⟨schema, ⟨segment, field, spec⟩ :: after⟩
      ⟨schema, ⟨segment, field, spec'⟩ :: after⟩ := by
  show Binding.Twin p ⟨schema, [] ++ _ :: after⟩ ⟨schema, [] ++ _ :: after⟩
  exact .intro h

theorem Binding.Twin.cons (r : Rule) (h : Binding.Twin p b b') :
    Binding.Twin p ⟨b.schema, r :: b.rules⟩ ⟨b'.schema, r :: b'.rules⟩ := by
  cases h with
  | @intro schema _ _ _ _ _ before after h =>
    show Binding.Twin p ⟨schema, (r :: before) ++ _ :: after⟩
      ⟨schema, (r :: before) ++ _ :: after⟩
    exact .intro h

end Rules

section Literals
variable {catalogue : Catalogue}

mutual
theorem literal?_of_classify : ∀ (v : Value) {path : String} {spec : Spec},
    classify catalogue v path = .ok spec → v.IsLiteral → spec.literal? = some v
  | v, path, spec, h, hv => by
    cases classify_eq_ok.1 h with
    | literal => rfl
    | directive hd =>
      rw [Value.IsLiteral, hd] at hv
      cases hv
    | list hs =>
      rw [Spec.literal?, literalItems?_of_classifyItems _ hs hv]
      rfl
termination_by structural v => v

theorem literalItems?_of_classifyItems : ∀ (vs : List Value) {path : String} {i : Nat}
    {specs : List Spec}, classifyItems catalogue vs path i = .ok specs → AreLiteral vs →
      literalItems? specs = some vs
  | [], _, _, _, h, _ => by
    cases h
    rfl
  | v :: vs, path, i, specs, h, hv => by
    obtain ⟨x, xs, hx, hxs, rfl⟩ := classifyItems_cons_eq_ok.1 h
    rw [literalItems?, literal?_of_classify v hx hv.1, literalItems?_of_classifyItems vs hxs hv.2]
    rfl
end

mutual
theorem resolve_of_literal? : ∀ (spec : Spec) {v : Value}, spec.literal? = some v →
    ∀ path, spec.resolve catalogue path = pure v
  | .literal _, _, h, path => by
    cases h
    rfl
  | .sequence items, v, h, path => by
    rw [Spec.literal?, Option.map_eq_some_iff] at h
    obtain ⟨vs, hvs, rfl⟩ := h
    rw [Spec.resolve, resolveItems_of_literalItems? items hvs, pure_bind]
  | .directive _, _, h, _ | .nested _, _, h, _ => by
    cases h

theorem resolveItems_of_literalItems? : ∀ (items : List Spec) {vs : List Value},
    literalItems? items = some vs → ∀ path i, resolveItems catalogue items path i = pure vs
  | [], _, h, _, _ => by
    cases h
    rfl
  | x :: xs, _, h, path, i => by
    rw [literalItems?] at h
    obtain ⟨v, hv, h⟩ := Option.bind_eq_some_iff.1 h
    obtain ⟨vs, hvs, h⟩ := Option.bind_eq_some_iff.1 h
    cases h
    rw [resolveItems, resolve_of_literal? x hv, pure_bind,
      resolveItems_of_literalItems? xs hvs, pure_bind]
end

end Literals

section Compilation
variable {types : Types} {catalogue : Catalogue} {slot path : String} {form : FieldForm} {p : Place}
  {n n' : Option Value × PathTree} {spec spec' : Spec}

variable (types catalogue) in
/-- Trees that differ at a place in one literal compile to the same binding or to twins. -/
def CompilesToTwins (p : Place) : Prop :=
  ∀ schema tree tree' scope b b', TreeChange types schema p tree tree' →
    bindTree types catalogue schema tree scope = .ok b →
    bindTree types catalogue schema tree' scope = .ok b' → ReflGen (Binding.Twin p) b b'

theorem twin_of_literalChange (h : NodeChange types form (.field slot) n n')
    (hb : FieldBound types catalogue path form n.1 n.2 spec)
    (hb' : FieldBound types catalogue path form n'.1 n'.2 spec') :
    Spec.Twin form (.field slot) spec spec' := by
  cases h with
  | own h =>
    cases h with
    | literal hv hv' =>
      cases hb with
      | value hc =>
        cases hb' with
        | value hc' =>
          exact .literal (literal?_of_classify _ hc hv) (literal?_of_classify _ hc' hv')

/-- The rules of the object in a nested field change where its own map or the deeper rules do. -/
theorem nestedRules_change {t : TypeName} (h : NodeChange types form (.within slot p) n n')
    (ht : form.nestedType? = some t) {tree tree' : PathTree} (hr : NestedRules path n.1 n.2 tree)
    (hr' : NestedRules path n'.1 n'.2 tree') :
    ReflGen (TreeChange types (types t) p) tree tree' := by
  cases h with
  | own h =>
    cases h with
    | nested h | optional h =>
      cases ht
      cases hr with
      | replaced hv => exact absurd rfl (hv _)
      | map hm =>
        cases hr' with
        | replaced hv => exact absurd rfl (hv _)
        | map hm' =>
          exact reflGen_bind (f := (PathTree.overlay · _)) (fun _ _ h => h.overlay_base _)
            (TreeChange.of_entriesChange h hm hm')
  | children ht' hk h =>
    cases ht'.symm.trans ht
    cases hr with
    | deeper =>
      cases hr' with
      | deeper => exact .single h
    | map hm =>
      cases hr' with
      | map hm' =>
        cases hm.symm.trans hm'
        exact h.overlay_top _
      | replaced hv => exact absurd rfl (hv _)
    | replaced hv =>
      cases hr' with
      | map hm' => exact absurd rfl (hv _)
      | replaced => exact .single h

theorem CompilesToTwins.of_reflGen (ih : CompilesToTwins types catalogue p) {schema : Schema}
    {tree tree' : PathTree} {b b' : Binding} (h : ReflGen (TreeChange types schema p) tree tree')
    (hb : bindTree types catalogue schema tree path = .ok b)
    (hb' : bindTree types catalogue schema tree' path = .ok b') :
    ReflGen (Binding.Twin p) b b' := by
  cases h with
  | refl =>
    cases hb.symm.trans hb'
    exact .refl
  | single h => exact ih _ _ _ _ _ _ h hb hb'

theorem NodeChange.within (h : NodeChange types form (.within slot p) n n') :
    ∃ t, form.nestedType? = some t ∧ form.slot? = some slot ∧ n ≠ (some .null, .nil) ∧
      n' ≠ (some .null, .nil) := by
  cases h with
  | own h =>
    cases h with
    | nested | optional => refine ⟨_, rfl, rfl, ?_, ?_⟩ <;> rintro ⟨⟩
  | children ht hk h =>
    refine ⟨_, ht, hk, ?_, ?_⟩
    · rintro ⟨⟩
      cases h
    · rintro ⟨⟩
      cases h

theorem FieldBound.nested_of_ne {t : TypeName}
    (h : FieldBound types catalogue path form n.1 n.2 spec) (ht : form.nestedType? = some t)
    (hn : n ≠ (some .null, .nil)) :
    ∃ tree b, NestedRules path n.1 n.2 tree ∧
      bindTree types catalogue (types t) tree path = .ok b ∧ spec = .nested b := by
  obtain ⟨d, c⟩ := n
  cases h with
  | value | list => cases ht
  | nested hr hb | optional hr hb =>
    cases ht
    exact ⟨_, _, hr, hb, rfl⟩
  | absent => exact absurd rfl hn

theorem twin_of_nestedChange (ih : CompilesToTwins types catalogue p)
    (h : NodeChange types form (.within slot p) n n')
    (hf : FieldBound types catalogue path form n.1 n.2 spec)
    (hf' : FieldBound types catalogue path form n'.1 n'.2 spec') :
    ReflGen (Spec.Twin form (.within slot p)) spec spec' := by
  obtain ⟨t, ht, hk, hn, hn'⟩ := h.within
  obtain ⟨tree, b, hr, hb, rfl⟩ := hf.nested_of_ne ht hn
  obtain ⟨tree', b', hr', hb', rfl⟩ := hf'.nested_of_ne ht hn'
  have htree := nestedRules_change h ht hr hr'
  exact reflGen_map (fun _ _ => .nested ht hk) (ih.of_reflGen htree hb hb')

theorem twin_of_items (ih : CompilesToTwins types catalogue p) {t : TypeName}
    {es es' : List (String × Value)} (h : EntriesChange types (types t) p es es')
    {before after : List Value} {i : Nat} {specs specs' : List Spec}
    (hs : bindItems types catalogue (types t) (before ++ .map es :: after) path i = .ok specs)
    (hs' : bindItems types catalogue (types t) (before ++ .map es' :: after) path i = .ok specs') :
    ∃ first b b' last, first.length = before.length ∧ specs = first ++ .nested b :: last ∧
      specs' = first ++ .nested b' :: last ∧ ReflGen (Binding.Twin p) b b' := by
  induction before generalizing i specs specs' with
  | nil =>
    obtain ⟨_, tree, b, more, he, ht, hb, hm, rfl⟩ := bindItems_cons_eq_ok.1 hs
    obtain ⟨_, tree', b', _, he', ht', hb', hm', rfl⟩ := bindItems_cons_eq_ok.1 hs'
    cases he
    cases he'
    cases hm.symm.trans hm'
    exact ⟨[], b, b', more, rfl, rfl, rfl,
      ih.of_reflGen (TreeChange.of_entriesChange h ht ht') hb hb'⟩
  | cons v before hind =>
    obtain ⟨_, _, b, more, he, ht, hb, hm, rfl⟩ := bindItems_cons_eq_ok.1 hs
    obtain ⟨_, _, _, _, he', ht', hb', hm', rfl⟩ := bindItems_cons_eq_ok.1 hs'
    cases he.symm.trans he'
    cases ht.symm.trans ht'
    cases hb.symm.trans hb'
    obtain ⟨first, x, x', last, hl, rfl, rfl, hx⟩ := hind hm hm'
    exact ⟨.nested b :: first, x, x', last, congrArg Nat.succ hl, rfl, rfl, hx⟩

theorem twin_of_itemChange {i : Nat} (ih : CompilesToTwins types catalogue p)
    (h : NodeChange types form (.item slot i p) n n')
    (hb : FieldBound types catalogue path form n.1 n.2 spec)
    (hb' : FieldBound types catalogue path form n'.1 n'.2 spec') :
    ReflGen (Spec.Twin form (.item slot i p)) spec spec' := by
  cases h with
  | own h =>
    cases h with
    | item h =>
      cases hb with
      | list hs =>
        cases hb' with
        | list hs' =>
          obtain ⟨first, b, b', last, hl, rfl, rfl, hx⟩ := twin_of_items ih h hs hs'
          rw [← hl]
          exact reflGen_map (f := fun b => Spec.sequence (first ++ .nested b :: last))
            (fun _ _ => .item) hx

section Nodes
variable {schema : Schema} {scope : String}
  (hfield : ∀ {form path n n' spec spec'}, NodeChange types form p n n' →
    FieldBound types catalogue path form n.1 n.2 spec →
    FieldBound types catalogue path form n'.1 n'.2 spec' → ReflGen (Spec.Twin form p) spec spec')
include hfield

theorem twin_of_node {segment : String} {field : Field} {rest : PathTree} {rules rules' : List Rule}
    (hs : schema.field? segment = some field) (h : NodeChange types field.form p n n')
    (hr : bindNodes types catalogue schema (.cons segment n.1 n.2 rest) scope = .ok rules)
    (hr' : bindNodes types catalogue schema (.cons segment n'.1 n'.2 rest) scope = .ok rules') :
    ReflGen (Binding.Twin p) ⟨schema, rules⟩ ⟨schema, rules'⟩ := by
  obtain ⟨_, spec, more, hf, ha, hb, hm, rfl⟩ := bindNodes_cons_eq_ok.1 hr
  obtain ⟨_, spec', _, hf', -, hb', hm', rfl⟩ := bindNodes_cons_eq_ok.1 hr'
  cases hs.symm.trans hf
  cases hs.symm.trans hf'
  cases hm.symm.trans hm'
  have hspec := hfield h ((bindField_eq_ok ha).1 hb) ((bindField_eq_ok ha).1 hb')
  exact reflGen_map (f := fun spec => (⟨schema, ⟨segment, field, spec⟩ :: more⟩ : Binding))
    (fun _ _ => .head) hspec

theorem twin_of_nodes {tree tree' : PathTree} {rules rules' : List Rule}
    (h : TreeChange types schema p tree tree')
    (hr : bindNodes types catalogue schema tree scope = .ok rules)
    (hr' : bindNodes types catalogue schema tree' scope = .ok rules') :
    ReflGen (Binding.Twin p) ⟨schema, rules⟩ ⟨schema, rules'⟩ := by
  induction h generalizing rules rules' with
  | own hs h => exact twin_of_node hfield hs (.own h) hr hr'
  | children hs ht hk h => exact twin_of_node hfield hs (.children ht hk h) hr hr'
  | @rest schema segment p d c r r' h ih =>
    obtain ⟨field, spec, more, hf, ha, hb, hm, rfl⟩ := bindNodes_cons_eq_ok.1 hr
    obtain ⟨_, _, more', hf', -, hb', hm', rfl⟩ := bindNodes_cons_eq_ok.1 hr'
    cases hf.symm.trans hf'
    cases hb.symm.trans hb'
    exact reflGen_map
      (f := fun b : Binding => (⟨b.schema, ⟨segment, field, spec⟩ :: b.rules⟩ : Binding))
      (fun _ _ => .cons _) (ih hfield hm hm')

theorem compilesToTwins_of_field : CompilesToTwins types catalogue p := by
  intro schema tree tree' scope b b' h hb hb'
  obtain ⟨-, -, rules, hr, rfl⟩ := bindTree_eq_ok.1 hb
  obtain ⟨-, -, rules', hr', rfl⟩ := bindTree_eq_ok.1 hb'
  exact twin_of_nodes hfield h hr hr'

end Nodes

theorem compilesToTwins (p : Place) : CompilesToTwins types catalogue p := by
  induction p with
  | field slot =>
    exact compilesToTwins_of_field fun h hb hb' => .single (twin_of_literalChange h hb hb')
  | within slot p ih =>
    exact compilesToTwins_of_field fun h hb hb' => twin_of_nestedChange ih h hb hb'
  | item slot i p ih =>
    exact compilesToTwins_of_field fun h hb hb' => twin_of_itemChange ih h hb hb'

/-- Changed rules compile to the same binding or to its twin. -/
theorem twin_of_compile {schema : Schema} {es es' : List (String × Value)} {b b' : Binding}
    (h : EntriesChange types schema p es es')
    (hb : compile types catalogue schema (.map es) = .ok b)
    (hb' : compile types catalogue schema (.map es') = .ok b') : ReflGen (Binding.Twin p) b b' := by
  obtain ⟨_, tree, he, ht, hb⟩ := compile_eq_ok.1 hb
  obtain ⟨_, tree', he', ht', hb'⟩ := compile_eq_ok.1 hb'
  cases he
  cases he'
  exact (compilesToTwins p).of_reflGen (TreeChange.of_entriesChange h ht ht') hb hb'

end Compilation

end Fixture
