import Fixture.Proofs.Generation

/-! The contents of generated objects, told from the rules: what was given, what was left to the
constructor, and the same again in the objects below. -/
namespace Fixture

variable {types : Types} {catalogue : Catalogue}

mutual
/-- No directive among the items of a value. Maps are taken as they are. -/
def Value.IsLiteral : Value → Prop
  | .text s => isDirective s = false
  | .list items => AreLiteral items
  | _ => True

def AreLiteral : List Value → Prop
  | [] => True
  | v :: vs => v.IsLiteral ∧ AreLiteral vs
end

mutual
/-- An object of a schema that is made by a tree of rules: newly constructed, with the fields that
have rules written by them and all else left as it was. -/
inductive Obeys (types : Types) : Schema → PathTree → Object → Prop
  | intro {schema : Schema} {tree : PathTree} {o : Object} {slots : List (String × Content)}
      (type : o.type = schema.type) (initial : schema.initial = some slots)
      (unruled : ∀ f ∈ schema.fields, f.name ∉ tree.keys → ∀ slot, f.form.slot? = some slot →
        o.get? slot = slots.lookup slot)
      (elsewhere : ∀ slot, (∀ f ∈ schema.fields, f.form.slot? ≠ some slot) →
        o.get? slot = slots.lookup slot)
      (declared : ∀ name ∈ tree.keys, ∃ f, schema.field? name = some f ∧
        f.form.isAssignable = true)
      (ruled : ∀ f ∈ schema.fields, ∀ slot, f.form.slot? = some slot → ∀ direct children,
        tree.node? f.name = some (direct, children) →
          FieldObeys types f.form direct children (o.get? slot)) :
      Obeys types schema tree o

/-- What a field holds by its own value and the rules below it. -/
inductive FieldObeys (types : Types) :
    FieldForm → Option Value → PathTree → Option Content → Prop
  | value {slot : String} {t : FieldType} {v w : Value} {x : t.Carrier}
      (literal : v.IsLiteral → w = v) (h : t.coerce w = .ok x) :
      FieldObeys types (.value slot t) (some v) .nil (some (.datum t x))
  | nested {slot path : String} {t : TypeName} {direct : Option Value} {children tree : PathTree}
      {o : Object} (rules : NestedRules path direct children tree)
      (h : Obeys types (types t) tree o) :
      FieldObeys types (.nested slot t) direct children (some (.one o))
  | optional {slot declared path : String} {t : TypeName} {direct : Option Value}
      {children tree : PathTree} {o : Object} (rules : NestedRules path direct children tree)
      (h : Obeys types (types t) tree o) :
      FieldObeys types (.optional slot t declared) direct children (some (.optional (some o)))
  | absent {slot declared : String} {t : TypeName} :
      FieldObeys types (.optional slot t declared) (some .null) .nil (some (.optional none))
  | list {slot declared : String} {t : TypeName} {items : List Value} {os : List Object}
      (h : ItemsObey types t items os) :
      FieldObeys types (.list slot t declared) (some (.list items)) .nil (some (.many os))

/-- One object for each map, in their order. -/
inductive ItemsObey (types : Types) : TypeName → List Value → List Object → Prop
  | nil {t : TypeName} : ItemsObey types t [] []
  | cons {t : TypeName} {path : String} {entries : List (String × Value)} {tree : PathTree}
      {o : Object} {vs : List Value} {os : List Object}
      (rules : PathTree.ofEntries path entries = .ok tree) (h : Obeys types (types t) tree o)
      (rest : ItemsObey types t vs os) : ItemsObey types t (.map entries :: vs) (o :: os)
end

mutual
theorem resolve_of_classify : ∀ (v : Value) {path : String} {spec : Spec},
    classify catalogue v path = .ok spec → v.IsLiteral →
      ∀ path', spec.resolve catalogue path' = pure v
  | v, path, spec, h, hv => by
    intro path'
    cases classify_eq_ok.1 h with
    | literal => rfl
    | directive hd =>
      rw [Value.IsLiteral, hd] at hv
      cases hv
    | list hs => rw [Spec.resolve, resolveItems_of_classifyItems _ hs hv, pure_bind]
termination_by structural v => v

theorem resolveItems_of_classifyItems : ∀ (vs : List Value) {path : String} {i : Nat}
    {specs : List Spec}, classifyItems catalogue vs path i = .ok specs → AreLiteral vs →
      ∀ path' i', resolveItems catalogue specs path' i' = pure vs
  | [], _, _, _, h, _ => by
    cases h
    intro path' i'
    rfl
  | v :: vs, path, i, specs, h, hv => by
    obtain ⟨x, xs, hx, hxs, rfl⟩ := classifyItems_cons_eq_ok.1 h
    intro path' i'
    rw [resolveItems, resolve_of_classify v hx hv.1, pure_bind,
      resolveItems_of_classifyItems vs hxs hv.2, pure_bind]
end

/-- The fields of every schema that a schema leads to are kept apart. -/
def Types.SlotsApart (types : Types) (s : Schema) : Prop := ∀ u, types.Leads s u → u.SlotsApart

theorem Types.SlotsApart.step {s : Schema} (h : types.SlotsApart s) {f : Field} (hf : f ∈ s.fields)
    {t : TypeName} (ht : f.form.objectType? = some t) : types.SlotsApart (types t) := by
  intro u hu
  exact h u (.trans (.field .here hf ht) hu)

section Build
variable {σ : Type} {source : Source σ}

mutual
theorem build_obeys : ∀ (b : Binding) {schema : Schema} {tree : PathTree} {scope path : String}
    {o : Object} {s t : σ}, bindTree types catalogue schema tree scope = .ok b → tree.Distinct →
    types.SlotsApart schema → (b.build catalogue path).outcome source s = (.ok o, t) →
      Obeys types schema tree o
  | ⟨_, rules⟩, schema, tree, scope, path, o, s, t, h, ht, hs, ho => by
    obtain ⟨hu, hi, rules', hn, he⟩ := bindTree_eq_ok.1 h
    cases he
    have htype := type_of_build ho
    obtain ⟨slots, hslots, hc⟩ := construct_of_isSome hi
    rw [Binding.build, hc, Attempt.lift_ok_bind] at ho
    obtain ⟨hframe, hruled⟩ := buildRules_obeys rules hn hu ht hs rfl ho
    refine .intro htype hslots ?_ ?_ ?_ hruled
    · -- another field of the slot has the same name, and so no rule either
      intro f hf hkey slot hslot
      refine hframe slot fun g hg hgkey hgslot => hkey ?_
      rw [hs _ .here f hf g hg slot hslot hgslot]
      exact hgkey
    · intro slot hslot
      exact hframe slot fun g hg _ => hslot g hg
    · intro name hname
      rw [← map_segment_of_bindNodes hn] at hname
      obtain ⟨r, hr, rfl⟩ := List.mem_map.1 hname
      obtain ⟨hf, ha, -⟩ := suits_of_bindNodes rules hn ht r hr
      exact ⟨r.field, hf, ha⟩
termination_by structural b => b

/-- Slots of fields without rules are left, the other ones get what their rules say. -/
theorem buildRules_obeys : ∀ (rules : List Rule) {schema : Schema} {tree : PathTree}
    {scope path : String} {o o' : Object} {s t : σ},
    bindNodes types catalogue schema tree scope = .ok rules → schema.repeated? = none →
    tree.Distinct → types.SlotsApart schema → o.type = schema.type →
    (buildRules catalogue rules path o).outcome source s = (.ok o', t) →
      (∀ slot, (∀ f ∈ schema.fields, f.name ∈ tree.keys → f.form.slot? ≠ some slot) →
        o'.get? slot = o.get? slot) ∧
      ∀ f ∈ schema.fields, ∀ slot, f.form.slot? = some slot → ∀ direct children,
        tree.node? f.name = some (direct, children) →
          FieldObeys types f.form direct children (o'.get? slot)
  | [], schema, tree, scope, path, o, o', s, t, h, _, _, _, _, ho => by
    cases tree with
    | nil =>
      rw [buildRules, Attempt.outcome_pure] at ho
      cases ho
      exact ⟨fun _ _ => rfl, fun _ _ _ _ _ _ hn => by simp at hn⟩
    | cons segment direct children rest =>
      obtain ⟨_, _, _, -, -, -, -, he⟩ := bindNodes_cons_eq_ok.1 h
      cases he
  | ⟨segment, field, spec⟩ :: rules, schema, tree, scope, path, o, o', s, t, h, hu, ht, hs, htype,
      ho => by
    cases tree with
    | nil =>
      rw [bindNodes_nil] at h
      cases h
    | cons _ direct children rest =>
      obtain ⟨_, _, _, hf, ha, hspec, hm, he⟩ := bindNodes_cons_eq_ok.1 h
      cases he
      have hmem := Schema.mem_of_field? hf
      have hname := Schema.name_of_field? hf
      rw [buildRules] at ho
      obtain ⟨a, u, hassign, ho⟩ := Attempt.outcome_bind_ok ho
      obtain ⟨o₁, w, hwrite, ho⟩ := Attempt.outcome_bind_ok ho
      rw [Attempt.outcome_lift] at hwrite
      obtain ⟨slot, c, hcont, hslot, rfl⟩ :=
        writeField_eq_ok (htype.trans (Schema.owner_of_field? hf).symm) ha (Prod.mk.inj hwrite).1
      obtain ⟨hframe, hruled⟩ := buildRules_obeys rules hm hu ht.2.2 hs
        ((o.type_set slot c).trans htype) ho
      have hheld := assignment_obeys spec ((bindField_eq_ok ha).1 hspec) ht.2.1
        (fun _ => hs.step hmem) hassign hcont
      refine ⟨?_, ?_⟩
      · intro slot' hfree
        have hne : slot' ≠ slot := by
          rintro rfl
          exact hfree field hmem (hname ▸ List.mem_cons_self) hslot
        rw [hframe slot' fun g hg hkey => hfree g hg (List.mem_cons_of_mem _ hkey),
          Object.get?_set_of_ne o hne]
      · intro f hfm slot' hslot' d ch hn
        rw [PathTree.node?] at hn
        split at hn
        · -- the field of this rule, which no later rule writes
          rename_i hkey
          cases hn
          have hfield : schema.field? segment = some f := hkey ▸ Schema.field?_of_mem hu hfm
          obtain rfl : field = f := Option.some.inj (hf.symm.trans hfield)
          obtain rfl : slot = slot' := Option.some.inj (hslot.symm.trans hslot')
          have hlast : ∀ g ∈ schema.fields, g.name ∈ rest.keys → g.form.slot? ≠ some slot := by
            intro g hg hgkey hgslot
            rw [hs _ .here g hg field hmem slot hgslot hslot, hname] at hgkey
            exact ht.1 hgkey
          rw [hframe slot hlast, Object.get?_set_self]
          exact hheld
        · exact hruled f hfm slot' hslot' d ch hn
termination_by structural rules => rules

theorem assignment_obeys : ∀ (spec : Spec) {form : FieldForm} {direct : Option Value}
    {children : PathTree} {scope path slot : String} {a : Assignment} {c : Content} {s t : σ},
    FieldBound types catalogue scope form direct children spec → children.Distinct →
    (∀ u, form.objectType? = some u → types.SlotsApart (types u)) →
    (spec.assignment catalogue form path).outcome source s = (.ok a, t) →
    form.content a = .ok (slot, c) → FieldObeys types form direct children (some c)
  | spec, form, direct, children, scope, path, slot, a, c, s, t, h, hc, hs, ha, hcont => by
    cases h with
    | value h =>
      rw [Spec.assignment] at ha
      obtain ⟨w, u, hw, ha⟩ := Attempt.outcome_bind_ok ha
      cases ha
      obtain ⟨x, hx, he⟩ := Outcome.map_eq_ok.1 hcont
      cases he
      refine .value (fun hv => ?_) hx
      rw [resolve_of_classify _ h hv] at hw
      cases hw
      rfl
    | nested hn hb =>
      rw [Spec.assignment] at ha
      obtain ⟨o, u, ho, ha⟩ := Attempt.outcome_bind_ok ha
      cases ha
      obtain ⟨_, htype, he⟩ := Outcome.map_eq_ok.1 hcont
      obtain ⟨-, rfl⟩ := Object.ofType_eq_ok.1 htype
      cases he
      exact .nested hn (build_obeys _ hb (hn.distinct hc) (hs _ rfl) ho)
    | optional hn hb =>
      rw [Spec.assignment] at ha
      obtain ⟨o, u, ho, ha⟩ := Attempt.outcome_bind_ok ha
      cases ha
      obtain ⟨_, htype, he⟩ := Outcome.map_eq_ok.1 hcont
      obtain ⟨-, rfl⟩ := Object.ofType_eq_ok.1 htype
      cases he
      exact .optional hn (build_obeys _ hb (hn.distinct hc) (hs _ rfl) ho)
    | absent =>
      rw [Spec.assignment] at ha
      cases ha
      cases hcont
      exact .absent
    | list hi =>
      rw [Spec.assignment] at ha
      obtain ⟨os, u, hos, ha⟩ := Attempt.outcome_bind_ok ha
      cases ha
      obtain ⟨_, htypes, he⟩ := Outcome.map_eq_ok.1 hcont
      obtain ⟨-, rfl⟩ := Object.mapM_ofType_eq_ok.1 htypes
      cases he
      exact .list (buildItems_obeys _ hi (hs _ rfl) hos)
termination_by structural spec => spec

theorem buildItems_obeys : ∀ (items : List Spec) {u : TypeName} {vs : List Value}
    {scope path : String} {i j : Nat} {os : List Object} {s t : σ},
    bindItems types catalogue (types u) vs scope i = .ok items → types.SlotsApart (types u) →
    (buildItems catalogue items path j).outcome source s = (.ok os, t) → ItemsObey types u vs os
  | [], u, vs, scope, path, i, j, os, s, t, h, _, ho => by
    cases vs with
    | nil =>
      rw [buildItems] at ho
      cases ho
      exact .nil
    | cons v vs =>
      obtain ⟨_, _, _, _, -, -, -, -, he⟩ := bindItems_cons_eq_ok.1 h
      cases he
  | .nested b :: xs, u, vs, scope, path, i, j, os, s, t, h, hs, ho => by
    cases vs with
    | nil =>
      rw [bindItems_nil] at h
      cases h
    | cons v vs =>
      obtain ⟨entries, tree, _, more, rfl, ht, hb, hm, he⟩ := bindItems_cons_eq_ok.1 h
      cases he
      rw [buildItems] at ho
      obtain ⟨o, w, hb', ho⟩ := Attempt.outcome_bind_ok ho
      obtain ⟨rest, w', hrest, ho⟩ := Attempt.outcome_bind_ok ho
      cases ho
      exact .cons ht (build_obeys b hb (PathTree.distinct_ofEntries ht) hs hb')
        (buildItems_obeys xs hm hs hrest)
  | .literal _ :: _, _, _, _, _, _, _, _, _, _, h, _, _
  | .directive _ :: _, _, _, _, _, _, _, _, _, _, h, _, _
  | .sequence _ :: _, _, _, _, _, _, _, _, _, _, h, _, _ => (nomatch nested_of_bindItems h)
termination_by structural items => items
end

/-- Whatever was drawn, a generated object is what its rules say: newly constructed at every level,
the fields with rules written by them and the other ones as the constructor left them. -/
theorem generate_obeys {type : TypeName} {rules : Value} {f : Factory}
    (h : Factory.compile types catalogue type rules = .ok f) (hs : types.SlotsApart (types type))
    (source : Source σ) {s t : σ} {o : Object} (ho : f.generate.outcome source s = (.ok o, t)) :
    ∃ entries tree, rules = .map entries ∧ PathTree.ofEntries "" entries = .ok tree ∧
      Obeys types (types type) tree o := by
  rw [generate_eq_build h] at ho
  obtain ⟨-, b, hb, -, rfl⟩ := Factory.compile_eq_ok.1 h
  obtain ⟨entries, tree, he, ht, hb⟩ := compile_eq_ok.1 hb
  exact ⟨entries, tree, he, ht, build_obeys b hb (PathTree.distinct_ofEntries ht) hs ho⟩

theorem Sample.slotsApart : Sample.types.SlotsApart person := by
  intro s hs f hf g hg slot hfs hgs
  have h : ∀ s ∈ [Sample.person, Sample.place], ∀ f ∈ s.fields, ∀ g ∈ s.fields,
      f.form.slot? = g.form.slot? → f.name = g.name := by decide
  exact h s (Sample.mem_of_leads hs) f hf g hg (hfs.trans hgs.symm)

/-- What the rules make of a person whose name was drawn. -/
def Sample.drawn : Object :=
  ⟨"Person", [("name", .datum .text "tock"), ("member", .datum .bool true),
    ("home", .one ⟨"Place", [("city", .datum .text "Paris")]⟩), ("work", .optional none),
    ("trips", .many [⟨"Place", [("city", .datum .text "Bonn")]⟩])]⟩

theorem drawn_obeys :
    Factory.compile Sample.types Sample.catalogue "Person" (Sample.rules (.text "@word")) =
        .ok Sample.drawnName ∧
      Sample.types.SlotsApart Sample.person ∧
      Sample.drawnName.generate.outcome WordCycle.source ⟨[7], 0⟩ = (.ok Sample.drawn, ⟨[7], 1⟩) ∧
      ∃ entries tree, Sample.rules (.text "@word") = .map entries ∧
        PathTree.ofEntries "" entries = .ok tree ∧
        Obeys Sample.types Sample.person tree Sample.drawn := by
  have ho : Sample.drawnName.generate.outcome WordCycle.source ⟨[7], 0⟩ =
      (.ok Sample.drawn, ⟨[7], 1⟩) := by rfl
  exact ⟨Sample.compile_drawnName, Sample.slotsApart, ho,
    generate_obeys Sample.compile_drawnName Sample.slotsApart WordCycle.source ho⟩

end Build
end Fixture
