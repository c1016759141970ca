import Fixture.Proofs.WellFormed

/-! Which of several rules for one path counts. A key of a rule set is found again in the compiled
binding under its own path, and what stands there is made of its own value alone. -/
namespace Fixture

def Spec.binding? : Spec → Option Binding
  | .nested b => some b
  | _ => none

/-- The binding that a path of nested fields leads to. -/
def Binding.descend (b : Binding) : List String → Option Binding
  | [] => some b
  | s :: ss => ((b.rule? s).bind fun r => r.spec.binding?).bind fun c => c.descend ss

/-- The schema that a path of nested fields leads to. -/
def Types.schemaAt (types : Types) (schema : Schema) : List String → Option Schema
  | [] => some schema
  | s :: ss =>
    ((schema.field? s).bind fun f => f.form.nestedType?).bind fun t => types.schemaAt (types t) ss

section Unique
variable {rules : List Rule} {r : Rule}

theorem filter_segment_eq (hn : (rules.map Rule.segment).Nodup) (hr : r ∈ rules) :
    rules.filter (·.segment == r.segment) = [r] := by
  induction rules with
  | nil => simp at hr
  | cons q rules ih =>
    obtain ⟨hq, hn⟩ := List.nodup_cons.1 hn
    rcases List.mem_cons.1 hr with rfl | hr
    · have hrest : rules.filter (·.segment == r.segment) = [] := by
        rw [List.filter_eq_nil_iff]
        intro p hp he
        exact hq (List.mem_map.2 ⟨p, hp, beq_iff_eq.1 he⟩)
      simp [hrest]
    · have hne : (q.segment == r.segment) = false := by
        apply beq_eq_false_iff_ne.2
        intro he
        exact hq (he ▸ List.mem_map_of_mem hr)
      rw [List.filter_cons, if_neg (by simp [hne]), ih hn hr]

theorem find?_segment_eq (hn : (rules.map Rule.segment).Nodup) (hr : r ∈ rules) :
    rules.find? (·.segment == r.segment) = some r := by
  rw [← List.head?_filter, filter_segment_eq hn hr]
  rfl

end Unique

variable {types : Types} {catalogue : Catalogue}

/-- A value below a nested field's own node is one of the nested rules, whatever the field's own
value is. -/
theorem NestedRules.valueAt {path : String} {direct : Option Value} {children tree : PathTree}
    (h : NestedRules path direct children tree) (hc : children.Distinct) {ss : List String}
    {v : Value} (hv : children.valueAt ss = some v) : tree.valueAt ss = some v := by
  cases h with
  | deeper => exact hv
  | map => rw [PathTree.valueAt_overlay _ hc, hv, Option.some_or]
  | replaced => exact hv

theorem FieldBound.nested_of_valueAt {path : String} {form : FieldForm} {direct : Option Value}
    {children : PathTree} {spec : Spec}
    (h : FieldBound types catalogue path form direct children spec) {ss : List String} {v : Value}
    (hv : children.valueAt ss = some v) :
    ∃ t tree b, form.nestedType? = some t ∧ NestedRules path direct children tree ∧
      bindTree types catalogue (types t) tree path = .ok b ∧ spec = .nested b := by
  cases h with
  | nested hn hb => exact ⟨_, _, _, rfl, hn, hb, rfl⟩
  | optional hn hb => exact ⟨_, _, _, rfl, hn, hb, rfl⟩
  | _ => simp at hv

theorem FieldBound.children_eq_nil {path : String} {form : FieldForm} {direct : Option Value}
    {children : PathTree} {spec : Spec}
    (h : FieldBound types catalogue path form direct children spec)
    (hf : form.nestedType? = none) : children = .nil := by
  cases h with
  | nested => cases hf
  | optional => cases hf
  | _ => rfl

/-- The value at a path of the tree is compiled to the one rule of the path. -/
theorem rule_of_valueAt {parents : List String} {last : String} {v : Value} :
    ∀ {schema : Schema} {tree : PathTree} {scope : String} {b : Binding},
      bindTree types catalogue schema tree scope = .ok b → tree.Distinct →
      tree.valueAt (parents ++ [last]) = some v →
      ∃ b' field spec, b.descend parents = some b' ∧
        types.schemaAt schema parents = some b'.schema ∧ b'.schema.field? last = some field ∧
        b'.rules.filter (·.segment == last) = [⟨last, field, spec⟩] ∧
        (field.form.nestedType? = none → bindField types catalogue field.form (some v) .nil
          ((parents ++ [last]).foldl joinPath scope) = .ok spec) := by
  induction parents with
  | nil =>
    intro schema tree scope b h ht hv
    obtain ⟨hs, hw⟩ := wellFormed_of_bindTree b h ht
    obtain ⟨-, -, rules, hn, rfl⟩ := bindTree_eq_ok.1 h
    obtain ⟨⟨d, c⟩, hnode, hd⟩ := Option.bind_eq_some_iff.1 hv
    obtain ⟨field, spec, hf, ha, hspec, hr⟩ := rule_of_node? hn hnode
    refine ⟨_, field, spec, rfl, rfl, hf, filter_segment_eq hw.distinct hr, fun hform => ?_⟩
    have hc := ((bindField_eq_ok ha).1 hspec).children_eq_nil hform
    rw [← hd, ← hc]
    exact hspec
  | cons s ss ih =>
    intro schema tree scope b h ht hv
    obtain ⟨hs, hw⟩ := wellFormed_of_bindTree b h ht
    obtain ⟨-, -, rules, hn, rfl⟩ := bindTree_eq_ok.1 h
    rw [List.cons_append, PathTree.valueAt_cons s (by simp)] at hv
    obtain ⟨⟨d, c⟩, hnode, hv⟩ := Option.bind_eq_some_iff.1 hv
    have hc := ht.of_node? hnode
    obtain ⟨field, spec, hf, ha, hspec, hr⟩ := rule_of_node? hn hnode
    obtain ⟨t, tree', b₁, hform, hrules, hb₁, rfl⟩ :=
      ((bindField_eq_ok ha).1 hspec).nested_of_valueAt hv
    obtain ⟨b', field', spec', hdesc, hat, hf', hrule, hown⟩ :=
      ih hb₁ (hrules.distinct hc) (hrules.valueAt hc hv)
    refine ⟨b', field', spec', ?_, ?_, hf', hrule, hown⟩
    · have hfind : Binding.rule? ⟨schema, rules⟩ s = some ⟨s, field, .nested b₁⟩ :=
        find?_segment_eq hw.distinct hr
      rw [Binding.descend, hfind]
      exact hdesc
    · rw [Types.schemaAt, hf]
      simp only [Option.bind_some, hform]
      exact hat

/-- The deeper rule wins. The segments of a key but the last lead through nested bindings to one
that has a single rule for the last segment. Unless this is a nested field, the rule is compiled
from the value of the key alone, whatever else the rule set says on the same path. -/
theorem rule_of_entry {schema : Schema} {entries : List (String × Value)} {b : Binding}
    (h : compile types catalogue schema (.map entries) = .ok b)
    (hn : (entries.map Prod.fst).Nodup) {key : String} {v : Value} (hkey : (key, v) ∈ entries) :
    ∃ parents last b' field spec, Value.segments key = parents ++ [last] ∧
      b.descend parents = some b' ∧ types.schemaAt schema parents = some b'.schema ∧
      b'.schema.field? last = some field ∧
      b'.rules.filter (·.segment == last) = [⟨last, field, spec⟩] ∧
      (field.form.nestedType? = none →
        bindField types catalogue field.form (some v) .nil key = .ok spec) := by
  obtain ⟨_, tree, he, ht, hb⟩ := compile_eq_ok.1 h
  cases he
  obtain ⟨hne, hv⟩ := PathTree.valueAt_insertAll_of_mem ht hn hkey
  obtain ⟨parents, last, hseg⟩ : ∃ parents last, Value.segments key = parents ++ [last] :=
    ⟨_, _, (List.dropLast_concat_getLast (Value.segments_ne_nil key)).symm⟩
  rw [hseg] at hv
  obtain ⟨b', field, spec, hdesc, hat, hf, hrule, hown⟩ :=
    rule_of_valueAt hb (PathTree.distinct_ofEntries ht) hv
  refine ⟨parents, last, b', field, spec, hseg, hdesc, hat, hf, hrule, fun hform => ?_⟩
  rw [← hown hform, ← hseg, foldl_joinPath_segments hne]

theorem rule_of_home_city :
    ∃ parents last b' field spec, Value.segments "home.city" = parents ++ [last] ∧
      Sample.givenName.binding.descend parents = some b' ∧
      Sample.types.schemaAt Sample.person parents = some b'.schema ∧
      b'.schema.field? last = some field ∧
      b'.rules.filter (·.segment == last) = [⟨last, field, spec⟩] ∧
      (field.form.nestedType? = none →
        bindField Sample.types Sample.catalogue field.form (some (.text "Paris")) .nil
          "home.city" = .ok spec) :=
  rule_of_entry Sample.compile_givenRules (by decide)
    (List.mem_cons_of_mem _ List.mem_cons_self)

example : Sample.givenName.binding.descend ["home"] = some (Sample.cityBinding "Paris") := by rfl

end Fixture
