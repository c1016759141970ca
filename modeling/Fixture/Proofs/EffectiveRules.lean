import Fixture.Proofs.Generation

/-! Which tree of rules a binding follows. At the root it is the tree of the rule set; at a nested
field the tree that the field's own map and the deeper rules come to; at an item of a list the tree
of the item's map. Every binding of a compiled rule set, at any depth, is well formed and has one
rule for each segment of the tree it follows. -/
namespace Fixture

/-- The bindings below a root that follows `top`, each with the tree of rules that it follows and
the path at which it stands. -/
inductive Binding.Follows (root : Binding) (top : PathTree) : Binding → PathTree → String → Prop
  | root : Follows root top root top ""
  | nested {b b' : Binding} {tree children tree' : PathTree} {scope : String} {r : Rule}
      {direct : Option Value} (h : Follows root top b tree scope) (hr : r ∈ b.rules)
      (hs : r.spec = .nested b') (hn : tree.node? r.segment = some (direct, children))
      (ht : NestedRules (joinPath scope r.segment) direct children tree') :
      Follows root top b' tree' (joinPath scope r.segment)
  | item {b b' : Binding} {tree tree' : PathTree} {scope : String} {r : Rule}
      {items : List Spec} {values : List Value} {i : Nat} {entries : List (String × Value)}
      (h : Follows root top b tree scope) (hr : r ∈ b.rules) (hs : r.spec = .sequence items)
      (hi : items[i]? = some (.nested b'))
      (hn : tree.node? r.segment = some (some (.list values), .nil))
      (hv : values[i]? = some (.map entries))
      (ht : PathTree.ofEntries (itemPath (joinPath scope r.segment) i) entries = .ok tree') :
      Follows root top b' tree' (itemPath (joinPath scope r.segment) i)

section Steps
variable {types : Types} {catalogue : Catalogue}

theorem node?_of_rule {schema : Schema} {tree : PathTree} {scope : String} {rules : List Rule}
    (h : bindNodes types catalogue schema tree scope = .ok rules) (ht : tree.Distinct) {r : Rule}
    (hr : r ∈ rules) :
    ∃ direct children, tree.node? r.segment = some (direct, children) ∧
      FieldBound types catalogue (joinPath scope r.segment) r.field.form direct children
        r.spec := by
  induction tree generalizing rules with
  | nil =>
    rw [bindNodes_nil] at h
    cases h
    cases hr
  | cons segment direct children rest _ ih =>
    obtain ⟨field, spec, more, -, ha, hs, hm, rfl⟩ := bindNodes_cons_eq_ok.1 h
    rcases List.mem_cons.1 hr with rfl | hr
    · exact ⟨direct, children, by simp [PathTree.node?], (bindField_eq_ok ha).1 hs⟩
    · obtain ⟨direct', children', hn, hb⟩ := ih hm ht.2.2 hr
      have hk : r.segment ∈ rest.keys := by
        rw [← map_segment_of_bindNodes hm]
        exact List.mem_map_of_mem hr
      have hne : segment ≠ r.segment := fun he => ht.1 (he ▸ hk)
      exact ⟨direct', children', by rw [PathTree.node?, if_neg hne, hn], hb⟩

theorem bound_of_rule {tree : PathTree} {scope : String} {b : Binding}
    (h : bindTree types catalogue b.schema tree scope = .ok b) (ht : tree.Distinct) {r : Rule}
    (hr : r ∈ b.rules) :
    ∃ direct children, tree.node? r.segment = some (direct, children) ∧
      FieldBound types catalogue (joinPath scope r.segment) r.field.form direct children
        r.spec := by
  obtain ⟨-, -, rules, hrules, he⟩ := bindTree_eq_ok.1 h
  rw [he] at hr
  exact node?_of_rule hrules ht hr

theorem map_of_item {schema : Schema} {values : List Value} {path : String} {k i : Nat}
    {items : List Spec} (h : bindItems types catalogue schema values path k = .ok items)
    {b : Binding} (hi : items[i]? = some (.nested b)) :
    ∃ entries tree, values[i]? = some (.map entries) ∧
      PathTree.ofEntries (itemPath path (k + i)) entries = .ok tree ∧
      bindTree types catalogue schema tree (itemPath path (k + i)) = .ok b := by
  induction values generalizing k i items with
  | nil =>
    rw [bindItems_nil] at h
    cases h
    simp at hi
  | cons v vs ih =>
    obtain ⟨entries, tree, b', more, rfl, ht, hb, hm, rfl⟩ := bindItems_cons_eq_ok.1 h
    cases i with
    | zero =>
      cases hi
      exact ⟨entries, tree, rfl, ht, hb⟩
    | succ i =>
      rw [List.getElem?_cons_succ] at hi
      have hk : k + (i + 1) = k + 1 + i := by omega
      rw [List.getElem?_cons_succ, hk]
      exact ih hm hi

theorem schema_of_bindTree {schema : Schema} {tree : PathTree} {scope : String} {b : Binding}
    (h : bindTree types catalogue schema tree scope = .ok b) : b.schema = schema := by
  obtain ⟨-, -, rules, -, rfl⟩ := bindTree_eq_ok.1 h
  rfl

theorem FieldBound.nested_rules {path : String} {form : FieldForm} {direct : Option Value}
    {children : PathTree} {b : Binding}
    (h : FieldBound types catalogue path form direct children (.nested b)) :
    ∃ tree, NestedRules path direct children tree ∧
      bindTree types catalogue b.schema tree path = .ok b := by
  cases h with
  | value h => cases isValue_of_classify _ h
  | nested hn hb => exact ⟨_, hn, by rw [schema_of_bindTree hb, hb]⟩
  | optional hn hb => exact ⟨_, hn, by rw [schema_of_bindTree hb, hb]⟩

theorem FieldBound.item_rules {path : String} {form : FieldForm} {direct : Option Value}
    {children : PathTree} {items : List Spec} {i : Nat} {b : Binding}
    (h : FieldBound types catalogue path form direct children (.sequence items))
    (hi : items[i]? = some (.nested b)) :
    ∃ values entries tree, direct = some (.list values) ∧ children = .nil ∧
      values[i]? = some (.map entries) ∧
      PathTree.ofEntries (itemPath path i) entries = .ok tree ∧
      bindTree types catalogue b.schema tree (itemPath path i) = .ok b := by
  cases h with
  | value h =>
    -- the items of a value are no bindings
    cases isValue_of_classify _ h with
    | sequence hv => cases hv _ (List.mem_of_getElem? hi)
  | list h =>
    obtain ⟨entries, tree, hv, ht, hb⟩ := map_of_item h hi
    rw [Nat.zero_add] at ht hb
    exact ⟨_, entries, tree, rfl, rfl, hv, ht, by rw [schema_of_bindTree hb, hb]⟩

/-- A compiled binding at any depth is the one that the tree it follows is compiled to. -/
theorem Binding.Holds.follows {root b : Binding} {top : PathTree} {scope : String}
    (hroot : bindTree types catalogue root.schema top "" = .ok root) (ht : top.Distinct)
    (h : root.Holds b scope) :
    ∃ tree, root.Follows top b tree scope ∧ tree.Distinct ∧
      bindTree types catalogue b.schema tree scope = .ok b := by
  induction h with
  | root => exact ⟨top, .root, ht, hroot⟩
  | nested _ hr hs ih =>
    obtain ⟨tree, hf, hd, hb⟩ := ih
    obtain ⟨direct, children, hn, hbound⟩ := bound_of_rule hb hd hr
    rw [hs] at hbound
    obtain ⟨tree', ht', hb'⟩ := hbound.nested_rules
    exact ⟨tree', hf.nested hr hs hn ht', ht'.distinct (hd.of_node? hn), hb'⟩
  | item _ hr hs hi ih =>
    obtain ⟨tree, hf, hd, hb⟩ := ih
    obtain ⟨direct, children, hn, hbound⟩ := bound_of_rule hb hd hr
    rw [hs] at hbound
    obtain ⟨values, entries, tree', rfl, rfl, hv, ht', hb'⟩ := hbound.item_rules hi
    exact ⟨tree', hf.item hr hs hi hn hv ht', PathTree.distinct_ofEntries ht', hb'⟩

theorem Spec.Suits.check_of_draws {spec : Spec} {form : FieldForm}
    (h : spec.Suits types catalogue form) {c : Call} (hc : spec.Draws c) :
    catalogue.check c = .ok () := by
  induction hc generalizing form with
  | directive c =>
    cases h with
    | value hv =>
      cases hv with
      | directive hok => exact hok
  | @item items x c hx _ ih =>
    cases h with
    | @value _ slot t hv =>
      cases hv with
      | sequence hv =>
        have hitem : x.Suits types catalogue (.value slot t) := .value (hv x hx)
        exact ih hitem
    | list hi => exact ih (hi x hx)
  | rule hr _ ih => exact ih (h.wellFormed.suited _ hr)

/-- Every binding of a compiled rule set, at any depth, has one rule for each segment of the tree
it follows, and no other. Its rules name declared fields that can be written and carry what such
fields take; its schema can be constructed and declares no field twice; and its directives pass
their check. -/
theorem compiled_wellFormed_at_every_depth {schema : Schema} {rules : Value} {root : Binding}
    (h : compile types catalogue schema rules = .ok root) :
    root.schema = schema ∧ ∃ entries top, rules = .map entries ∧
      PathTree.ofEntries "" entries = .ok top ∧
      ∀ {b : Binding} {scope : String}, root.Holds b scope →
        (∃ tree, root.Follows top b tree scope ∧ b.rules.map Rule.segment = tree.keys) ∧
        (b.rules.map Rule.segment).Nodup ∧
        (∀ r ∈ b.rules, r.field ∈ b.schema.fields ∧ r.field.name = r.segment ∧
          r.field.form.isAssignable = true ∧ r.spec.Suits types catalogue r.field.form) ∧
        b.schema.initial.isSome = true ∧ (b.schema.fields.map Field.name).Nodup ∧
        ∀ c, b.Draws c → catalogue.check c = .ok () := by
  obtain ⟨hschema, hroot⟩ := wellFormed_of_compile h
  obtain ⟨entries, top, he, ht, hb⟩ := compile_eq_ok.1 h
  refine ⟨hschema, entries, top, he, ht, fun {b scope} hh => ?_⟩
  have hw := hroot.of_holds hh
  rw [← hschema] at hb
  obtain ⟨tree, hf, -, hbind⟩ := hh.follows hb (PathTree.distinct_ofEntries ht)
  obtain ⟨-, -, rules, hrules, hbe⟩ := bindTree_eq_ok.1 hbind
  refine ⟨⟨tree, hf, ?keys⟩, hw.distinct, fun r hr => ?fields, hw.constructible,
    Schema.repeated?_eq_none.1 hw.unrepeated, fun c hc => ?checked⟩
  case keys =>
    rw [hbe]
    exact map_segment_of_bindNodes hrules
  case fields =>
    have hd := hw.declared r hr
    exact ⟨Schema.mem_of_field? hd, Schema.name_of_field? hd, hw.assignable r hr, hw.suited r hr⟩
  case checked =>
    obtain ⟨r, hr, hc⟩ := hc
    exact (hw.suited r hr).check_of_draws hc

theorem drawnName_wellFormed_at_every_depth :
    Sample.drawnName.binding.schema = Sample.person ∧
      (∃ top tree, Sample.drawnName.binding.Follows top (Sample.cityBinding "Paris") tree "home" ∧
        tree.keys = ["city"]) ∧
      Sample.catalogue.check ⟨"word", []⟩ = .ok () := by
  obtain ⟨hs, entries, top, -, -, hall⟩ :=
    compiled_wellFormed_at_every_depth Sample.compile_drawnRules
  have hr : ⟨"home", ⟨"home", "Person", .nested "home" "Place"⟩,
      .nested (Sample.cityBinding "Paris")⟩ ∈ Sample.drawnName.binding.rules := List.mem_cons_self
  have home : Sample.drawnName.binding.Holds (Sample.cityBinding "Paris") "home" :=
    Binding.Holds.nested .root hr rfl
  obtain ⟨⟨tree, hf, hk⟩, -⟩ := hall home
  have name : Sample.drawnName.binding.Draws ⟨"word", []⟩ :=
    ⟨_, List.mem_cons_of_mem _ List.mem_cons_self, .directive _⟩
  exact ⟨hs, ⟨top, tree, hf, hk.symm⟩, (hall .root).2.2.2.2.2 _ name⟩

end Steps
end Fixture
