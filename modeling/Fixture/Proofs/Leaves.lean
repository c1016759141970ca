import Fixture.Proofs.Precedence
import Mathlib.Data.List.Nodup
import Mathlib.Data.List.Pairwise

/-! Rule sets taken apart. The map of a nested field stands for the rules in it, so that a rule set
comes to a list of leaves, each with a path of its own. Where no path is given two maps, compilation
loses none of the leaves. -/
namespace Fixture

/-- What a rule set is taken apart into: the maps of nested fields, and all the other values. -/
inductive Part where
  | leaf | map
  deriving DecidableEq

mutual
/-- The parts of a value, with their paths. A map that stands at a nested field, whose schema is
then given, is taken apart; any other value is one leaf. -/
def Value.parts (types : Types) (k : Part) : Value → Option Schema → List (List String × Value)
  | .map entries, some schema =>
    let inside := entryParts types k entries schema
    if k = .map then ([], .map entries) :: inside else inside
  | v, _ => if k = .leaf then [([], v)] else []

def entryParts (types : Types) (k : Part) :
    List (String × Value) → Schema → List (List String × Value)
  | [], _ => []
  | (key, v) :: es, schema =>
    (v.parts types k (types.schemaAt schema (Value.segments key))).map
        (fun part => (Value.segments key ++ part.1, part.2)) ++
      entryParts types k es schema
end

/-- The leaves of a rule set for a schema. -/
def Value.leaves (types : Types) (schema : Schema) (rules : Value) : List (List String × Value) :=
  rules.parts types .leaf (some schema)

/-- The maps of a rule set that are taken apart, the rule set itself included. -/
def Value.maps (types : Types) (schema : Schema) (rules : Value) : List (List String × Value) :=
  rules.parts types .map (some schema)

/-- There is one rule at the path: one for its first segment, whose binding has one at the rest. -/
inductive Binding.RuleAt : Binding → List String → Field → Spec → Prop
  | last {b : Binding} {r : Rule} (hf : b.schema.field? r.segment = some r.field)
      (hr : b.rules.filter (·.segment == r.segment) = [r]) : RuleAt b [r.segment] r.field r.spec
  | inside {b c : Binding} {r : Rule} {path : List String} {field : Field} {spec : Spec}
      (hf : b.schema.field? r.segment = some r.field)
      (hr : b.rules.filter (·.segment == r.segment) = [r]) (hs : r.spec = .nested c)
      (h : RuleAt c path field spec) : RuleAt b (r.segment :: path) field spec

theorem Binding.RuleAt.cons {b : Binding} {s : String} {path : List String} {field : Field}
    {spec : Spec} (h : b.RuleAt (s :: path) field spec) :
    ∃ r, b.rules.filter (·.segment == s) = [r] ∧
      (path = [] ∨ ∃ c, r.spec = .nested c ∧ c.RuleAt path field spec) := by
  generalize hp : s :: path = q at h
  cases h with
  | @last _ r hf hr =>
    obtain ⟨rfl, rfl⟩ := List.cons.inj hp
    exact ⟨r, hr, Or.inl rfl⟩
  | @inside _ c r _ _ _ hf hr hs h =>
    obtain ⟨rfl, rfl⟩ := List.cons.inj hp
    exact ⟨r, hr, Or.inr ⟨c, hs, h⟩⟩

section Parts
variable {types : Types} {k : Part}

theorem mem_entryParts {es : List (String × Value)} {schema : Schema} {path : List String}
    {v : Value} : (path, v) ∈ entryParts types k es schema ↔
      ∃ e ∈ es, ∃ rest, (rest, v) ∈ e.2.parts types k (types.schemaAt schema (Value.segments e.1)) ∧
        path = Value.segments e.1 ++ rest := by
  induction es with
  | nil => simp [entryParts]
  | cons e es ih =>
    simp only [entryParts, List.mem_append, List.mem_map, Prod.mk.injEq, Prod.exists, ih,
      List.mem_cons, exists_eq_or_imp]
    refine or_congr_left ⟨?_, ?_⟩
    · rintro ⟨rest, _, hm, rfl, rfl⟩
      exact ⟨rest, hm, rfl⟩
    · rintro ⟨rest, hm, rfl⟩
      exact ⟨rest, v, hm, rfl, rfl⟩

theorem ne_nil_of_mem_entryParts {es : List (String × Value)} {schema : Schema}
    {path : List String} {v : Value} (h : (path, v) ∈ entryParts types k es schema) :
    path ≠ [] := by
  obtain ⟨e, -, rest, -, rfl⟩ := mem_entryParts.1 h
  intro he
  exact Value.segments_ne_nil e.1 (List.append_eq_nil_iff.1 he).1

theorem mem_parts_of_entry {es : List (String × Value)} {e : String × Value} (he : e ∈ es)
    {schema : Schema} {rest : List String} {v : Value}
    (h : (rest, v) ∈ e.2.parts types k (types.schemaAt schema (Value.segments e.1))) :
    (Value.segments e.1 ++ rest, v) ∈ (Value.map es).parts types k (some schema) := by
  have hm : _ ∈ entryParts types k es schema := mem_entryParts.2 ⟨e, he, rest, h, rfl⟩
  cases k with
  | leaf => simpa [Value.parts] using hm
  | map => simpa [Value.parts] using Or.inr hm

theorem mem_parts_leaf {w : Value} {at? : Option Schema} {path : List String} {v : Value} :
    (path, v) ∈ w.parts types .leaf at? ↔
      (path = [] ∧ v = w ∧ ∀ es schema, ¬ (w = .map es ∧ at? = some schema)) ∨
      ∃ es schema, w = .map es ∧ at? = some schema ∧
        (path, v) ∈ entryParts types .leaf es schema := by
  cases w with
  | map es => cases at? <;> simp [Value.parts]
  | _ => simp [Value.parts]

theorem self_mem_parts (types : Types) (w : Value) (at? : Option Schema) :
    ∃ k, ([], w) ∈ w.parts types k at? := by
  by_cases h : ∃ es schema, w = .map es ∧ at? = some schema
  · obtain ⟨es, schema, rfl, rfl⟩ := h
    exact ⟨.map, by simp [Value.parts]⟩
  · refine ⟨.leaf, mem_parts_leaf.2 (Or.inl ⟨rfl, rfl, ?_⟩)⟩
    intro es schema he
    exact h ⟨es, schema, he⟩

end Parts

/-- Parts with paths of their own: no leaf stands at the path of another part or above it, and no
two maps stand at one path. -/
structure Apart (given : Part → List String → Value → Prop) : Prop where
  leaf_leaf : ∀ {p q v w}, given .leaf p v → given .leaf q w → p <+: q → p = q ∧ v = w
  leaf_map : ∀ {p q v w}, given .leaf p v → given .map q w → ¬ p <+: q
  map_map : ∀ {p v w}, given .map p v → given .map p w → v = w

namespace Apart

variable {given given' : Part → List String → Value → Prop}

theorem eq_of_given (h : Apart given) {p : List String} {v w : Value} {j k : Part}
    (hv : given j p v) (hw : given k p w) : v = w := by
  cases j with
  | leaf =>
    cases k with
    | leaf => exact (h.leaf_leaf hv hw (List.prefix_refl p)).2
    | map => exact absurd (List.prefix_refl p) (h.leaf_map hv hw)
  | map =>
    cases k with
    | leaf => exact absurd (List.prefix_refl p) (h.leaf_map hw hv)
    | map => exact h.map_map hv hw

theorem path_eq_of_leaf (h : Apart given) {p q : List String} {v w : Value} {k : Part}
    (hv : given .leaf p v) (hw : given k q w) (hp : p <+: q) : p = q := by
  cases k with
  | leaf => exact (h.leaf_leaf hv hw hp).1
  | map => exact absurd hp (h.leaf_map hv hw)

theorem mono (h : Apart given) (hsub : ∀ {k p v}, given' k p v → given k p v) : Apart given' where
  leaf_leaf hv hw hp := h.leaf_leaf (hsub hv) (hsub hw) hp
  leaf_map hv hw := h.leaf_map (hsub hv) (hsub hw)
  map_map hv hw := h.map_map (hsub hv) (hsub hw)

theorem below (h : Apart given) {s : String} (hsub : ∀ {k p v}, given' k p v → given k (s :: p) v) :
    Apart given' where
  leaf_leaf hv hw hp := by
    obtain ⟨he, hvw⟩ := h.leaf_leaf (hsub hv) (hsub hw) ((List.prefix_cons_inj s).2 hp)
    exact ⟨(List.cons.inj he).2, hvw⟩
  leaf_map hv hw hp := h.leaf_map (hsub hv) (hsub hw) ((List.prefix_cons_inj s).2 hp)
  map_map hv hw := h.map_map (hsub hv) (hsub hw)

theorem of_lists {types : Types} {schema : Schema} {rules : Value}
    (hl : (rules.leaves types schema).Pairwise fun l m => ¬ l.1 <+: m.1 ∧ ¬ m.1 <+: l.1)
    (hm : ((rules.maps types schema).map Prod.fst).Nodup)
    (ha : ∀ l ∈ rules.leaves types schema, ∀ m ∈ rules.maps types schema, ¬ l.1 <+: m.1) :
    Apart fun k p v => (p, v) ∈ rules.parts types k (some schema) where
  leaf_leaf {p q v w} hv hw hp := by
    have : Std.Symm fun l m : List String × Value => ¬ l.1 <+: m.1 ∧ ¬ m.1 <+: l.1 :=
      ⟨fun _ _ h => h.symm⟩
    by_contra hne
    exact (hl.forall hv hw fun he => hne (Prod.mk.inj he)).1 hp
  leaf_map hv hw := ha _ hv _ hw
  map_map hv hw := (Prod.mk.inj (List.inj_on_of_nodup_map hm hv hw rfl)).2

end Apart

section Gives
variable (types : Types) (schema : Schema)

/-- The parts of the values in a tree of rules for a schema. -/
def PathTree.Yields (tree : PathTree) (k : Part) (path : List String) (v : Value) : Prop :=
  ∃ q w rest, tree.valueAt q = some w ∧ (rest, v) ∈ w.parts types k (types.schemaAt schema q) ∧
    path = q ++ rest

/-- The parts of the rules for a nested field of a schema: those of its own value and of the rules
below it. -/
def Gives (direct : Option Value) (children : PathTree) (k : Part) (path : List String)
    (v : Value) : Prop :=
  (∃ w, direct = some w ∧ (path, v) ∈ w.parts types k (some schema)) ∨
    children.Yields types schema k path v

end Gives

section Nested
variable {types : Types} {catalogue : Catalogue} {schema : Schema} {k : Part} {path : List String}
  {v : Value} {direct : Option Value} {children tree : PathTree}

theorem PathTree.Yields.ne_nil (h : tree.Yields types schema k path v) : path ≠ [] := by
  obtain ⟨q, w, rest, hq, -, rfl⟩ := h
  intro he
  rw [(List.append_eq_nil_iff.1 he).1] at hq
  cases hq

theorem PathTree.Yields.exists_node? {s : String} (h : tree.Yields types schema k (s :: path) v) :
    ∃ direct children, tree.node? s = some (direct, children) := by
  obtain ⟨_ | ⟨s', q⟩, w, rest, hq, -, he⟩ := h
  · cases hq
  · obtain ⟨rfl, -⟩ := List.cons.inj he
    exact exists_node?_of_valueAt hq

theorem PathTree.yields_of_valueAt (types : Types) (schema : Schema)
    (h : tree.valueAt path = some v) :
    ∃ k, tree.Yields types schema k path v := by
  obtain ⟨k, hk⟩ := self_mem_parts types v (types.schemaAt schema path)
  exact ⟨k, path, v, [], h, hk, (List.append_nil path).symm⟩

theorem Types.schemaAt_cons {s : String} {field : Field} {t : TypeName}
    (hf : schema.field? s = some field) (ht : field.form.nestedType? = some t) (q : List String) :
    types.schemaAt schema (s :: q) = types.schemaAt (types t) q := by
  simp [schemaAt, hf, ht]

theorem PathTree.yields_cons {s : String} {field : Field} {t : TypeName}
    (hf : schema.field? s = some field) (ht : field.form.nestedType? = some t)
    (hn : tree.node? s = some (direct, children)) :
    tree.Yields types schema k (s :: path) v ↔
      Gives types (types t) direct children k path v := by
  constructor
  · rintro ⟨_ | ⟨s', q⟩, w, rest, hq, hv, he⟩
    · cases hq
    · obtain ⟨rfl, rfl⟩ := List.cons.inj he
      rw [Types.schemaAt_cons hf ht] at hv
      cases q with
      | nil =>
        rw [valueAt, hn] at hq
        exact Or.inl ⟨w, hq, hv⟩
      | cons s' q =>
        rw [valueAt_cons s (by simp), hn] at hq
        exact Or.inr ⟨_, w, rest, hq, hv, rfl⟩
  · rintro (⟨w, rfl, hv⟩ | ⟨q, w, rest, hq, hv, rfl⟩)
    · refine ⟨[s], w, path, by simp [valueAt, hn], ?_, rfl⟩
      rw [Types.schemaAt_cons hf ht]
      exact hv
    · have hne : q ≠ [] := by
        rintro rfl
        cases hq
      refine ⟨s :: q, w, rest, by simpa [valueAt_cons s hne, hn] using hq, ?_, rfl⟩
      rwa [Types.schemaAt_cons hf ht]

/-- The nested rules have no parts but those of the field's value and of the rules below it. -/
theorem NestedRules.gives {scope : String} (h : NestedRules scope direct children tree)
    (hc : children.Distinct) (hy : tree.Yields types schema k path v) :
    Gives types schema direct children k path v := by
  cases h with
  | deeper => exact Or.inr hy
  | replaced => exact Or.inr hy
  | map ht =>
    obtain ⟨q, w, rest, hq, hv, rfl⟩ := hy
    rw [PathTree.valueAt_overlay _ hc, Option.or_eq_some_iff] at hq
    rcases hq with hq | ⟨-, hq⟩
    · exact Or.inr ⟨q, w, rest, hq, hv, rfl⟩
    · rcases PathTree.mem_of_valueAt_insertAll ht hq with ⟨e, he, rfl, rfl⟩ | hq
      · exact Or.inl ⟨_, rfl, mem_parts_of_entry he hv⟩
      · simp at hq

/-- Where the parts stand apart, the nested rules have every leaf but the field's own. -/
theorem NestedRules.yields {scope : String} (h : NestedRules scope direct children tree)
    (hc : children.Distinct) (ha : Apart (Gives types schema direct children))
    (hg : Gives types schema direct children .leaf path v) (hne : path ≠ []) :
    tree.Yields types schema .leaf path v := by
  cases h with
  | deeper => exact hg.resolve_left (by simp)
  | replaced hv =>
    refine hg.resolve_left ?_
    rintro ⟨w, hw, hm⟩
    cases hw
    rcases mem_parts_leaf.1 hm with ⟨he, -⟩ | ⟨es, _, he, -⟩
    · exact hne he
    · exact hv es he
  | @map entries inner _ ht =>
    rcases hg with ⟨w, hw, hm⟩ | ⟨q, w, rest, hq, hv, rfl⟩
    · cases hw
      obtain ⟨he, -⟩ | ⟨es, _, he, hs, hm⟩ := mem_parts_leaf.1 hm
      · exact absurd he hne
      · cases he
        cases hs
        obtain ⟨e, hemem, rest, hrest, rfl⟩ := mem_entryParts.1 hm
        -- what the overlaid tree has at the path of the key is the value of the key
        obtain ⟨w, hw⟩ : ∃ w, (inner.overlay children).valueAt (Value.segments e.1) = some w := by
          rw [PathTree.valueAt_overlay _ hc]
          obtain ⟨w, hw⟩ := Option.ne_none_iff_exists'.1
            (PathTree.valueAt_insertAll_ne_none ht (Or.inr ⟨e, hemem, rfl⟩))
          cases hq : children.valueAt (Value.segments e.1) with
          | none => exact ⟨w, by simp [hw]⟩
          | some w' => exact ⟨w', by simp⟩
        obtain ⟨j, hj⟩ := PathTree.yields_of_valueAt types schema hw
        obtain ⟨i, hi⟩ := self_mem_parts types e.2 (types.schemaAt schema (Value.segments e.1))
        have hself := mem_parts_of_entry hemem hi
        rw [List.append_nil] at hself
        have heq : w = e.2 :=
          ha.eq_of_given ((NestedRules.map ht).gives hc hj) (Or.inl ⟨_, rfl, hself⟩)
        exact ⟨_, w, rest, hw, heq ▸ hrest, rfl⟩
    · refine ⟨q, w, rest, ?_, hv, rfl⟩
      rw [PathTree.valueAt_overlay _ hc, hq, Option.some_or]

theorem NestedRules.fruitful {scope : String} (h : NestedRules scope direct children tree)
    (hc : children.Fruitful) : tree.Fruitful := by
  cases h with
  | deeper => exact hc
  | replaced => exact hc
  | map ht => exact (PathTree.fruitful_insertAll (t := .nil) trivial ht).overlay hc

theorem PathTree.Yields.eq_of_not_nested {s : String} {field : Field}
    (hf : schema.field? s = some field) (ht : field.form.nestedType? = none)
    (hn : tree.node? s = some (direct, .nil)) (h : tree.Yields types schema .leaf (s :: path) v) :
    path = [] ∧ direct = some v := by
  obtain ⟨_ | ⟨s', q⟩, w, rest, hq, hv, he⟩ := h
  · cases hq
  obtain ⟨rfl, rfl⟩ := List.cons.inj he
  cases q with
  | cons s' q => simp [valueAt_cons, hn] at hq
  | nil =>
    have hat : types.schemaAt schema [s] = none := by simp [Types.schemaAt, hf, ht]
    rw [hat] at hv
    rw [valueAt, hn] at hq
    obtain ⟨rfl, rfl, -⟩ | ⟨_, _, -, he, -⟩ := mem_parts_leaf.1 hv
    · exact ⟨rfl, hq⟩
    · cases he

/-- A leaf at a nested field is the field's own value, and where the parts stand apart there are no
rules below it. -/
theorem Gives.eq_of_nil (h : Gives types schema direct children .leaf [] v)
    (ha : Apart (Gives types schema direct children)) (hc : children.Fruitful) :
    direct = some v ∧ children = .nil := by
  rcases h with ⟨w, rfl, hm⟩ | hy
  · constructor
    · obtain ⟨-, rfl, -⟩ | ⟨_, _, -, -, hm⟩ := mem_parts_leaf.1 hm
      · rfl
      · exact absurd rfl (ne_nil_of_mem_entryParts hm)
    · by_contra hne
      obtain ⟨q, w', hq⟩ := hc.exists_valueAt hne
      obtain ⟨j, hj⟩ := PathTree.yields_of_valueAt types schema hq
      exact hj.ne_nil
        (ha.path_eq_of_leaf (Or.inl ⟨w, rfl, hm⟩) (Or.inr hj) List.nil_prefix).symm
  · exact absurd rfl hy.ne_nil

theorem FieldBound.nested_of_gives {scope : String} {form : FieldForm} {spec : Spec} {t : TypeName}
    (h : FieldBound types catalogue scope form direct children spec)
    (ht : form.nestedType? = some t)
    (hg : Gives types (types t) direct children .leaf path v) (hp : path ≠ []) :
    ∃ tree b, NestedRules scope direct children tree ∧
      bindTree types catalogue (types t) tree scope = .ok b ∧ spec = .nested b := by
  cases h with
  | nested hn hb =>
    cases ht
    exact ⟨_, _, hn, hb, rfl⟩
  | optional hn hb =>
    cases ht
    exact ⟨_, _, hn, hb, rfl⟩
  | absent =>
    -- null has no part but itself
    rcases hg with ⟨w, hw, hm⟩ | ⟨q, w, rest, hq, -⟩
    · cases hw
      obtain ⟨he, -⟩ | ⟨_, _, he, -⟩ := mem_parts_leaf.1 hm
      · exact absurd he hp
      · cases he
    · simp at hq
  | _ => cases ht

end Nested

section Leaves
variable {types : Types} {catalogue : Catalogue}

/-- A leaf of a tree whose parts stand apart has the rule at its path, compiled from its value. -/
theorem rule_of_yields {v : Value} (path : List String) :
    ∀ {schema : Schema} {tree : PathTree} {scope : String} {b : Binding},
      bindTree types catalogue schema tree scope = .ok b → tree.Distinct → tree.Fruitful →
      Apart (tree.Yields types schema) → tree.Yields types schema .leaf path v →
      ∃ field spec, b.RuleAt path field spec ∧
        bindField types catalogue field.form (some v) .nil (path.foldl joinPath scope) =
          .ok spec := by
  induction path with
  | nil =>
    intro _ _ _ _ _ _ _ _ hy
    exact absurd rfl hy.ne_nil
  | cons s path ih =>
    intro schema tree scope b h hd hfr ha hy
    obtain ⟨-, hw⟩ := wellFormed_of_bindTree b h hd
    obtain ⟨-, -, rules, hn, rfl⟩ := bindTree_eq_ok.1 h
    obtain ⟨direct, children, hnode⟩ := hy.exists_node?
    obtain ⟨field, spec, hf, hassign, hspec, hr⟩ := rule_of_node? hn hnode
    have hone := filter_segment_eq hw.distinct hr
    have hbound := (bindField_eq_ok hassign).1 hspec
    cases ht : field.form.nestedType? with
    | none =>
      have hc := hbound.children_eq_nil ht
      subst hc
      obtain ⟨rfl, rfl⟩ := hy.eq_of_not_nested hf ht hnode
      exact ⟨field, spec, .last hf hone, hspec⟩
    | some t =>
      have hg := (PathTree.yields_cons hf ht hnode).1 hy
      have hga : Apart (Gives types (types t) direct children) :=
        ha.below (PathTree.yields_cons hf ht hnode).2
      have hcd := hd.of_node? hnode
      have hcf := hfr.of_node? hnode
      by_cases hp : path = []
      · subst hp
        obtain ⟨rfl, rfl⟩ := hg.eq_of_nil hga hcf
        exact ⟨field, spec, .last hf hone, hspec⟩
      · obtain ⟨tree', b, hrules, hb, rfl⟩ := hbound.nested_of_gives ht hg hp
        obtain ⟨field', spec', hat, hown⟩ := ih hb (hrules.distinct hcd) (hrules.fruitful hcf)
          (hga.mono (hrules.gives hcd)) (hrules.yields hcd hga hg hp)
        exact ⟨field', spec', .inside hf hone rfl hat, hown⟩

/-- No leaf is lost. If the paths of the leaves are not beginnings of each other, each of them has a
rule at its path, compiled from its own value, unless a path is given two maps. A map in which there
is no leaf must not stand below a leaf either. -/
theorem rule_of_leaf {schema : Schema} {rules : Value} {b : Binding}
    (h : compile types catalogue schema rules = .ok b)
    (hl : (rules.leaves types schema).Pairwise fun l m => ¬ l.1 <+: m.1 ∧ ¬ m.1 <+: l.1)
    (hm : ((rules.maps types schema).map Prod.fst).Nodup)
    (ha : ∀ l ∈ rules.leaves types schema, ∀ m ∈ rules.maps types schema, ¬ l.1 <+: m.1)
    {path : List String} {v : Value} (hv : (path, v) ∈ rules.leaves types schema) :
    ∃ field spec, b.RuleAt path field spec ∧
      bindField types catalogue field.form (some v) .nil (path.foldl joinPath "") = .ok spec := by
  obtain ⟨entries, tree, rfl, ht, hb⟩ := compile_eq_ok.1 h
  -- the tree is that of a nested field with the rule set for its value and nothing below
  have hrules : NestedRules "" (some (.map entries)) .nil tree :=
    @NestedRules.map "" entries tree .nil ht
  have hgiven : Apart (Gives types schema (some (.map entries)) .nil) := by
    refine (Apart.of_lists hl hm ha).mono ?_
    rintro k p x (⟨w, hw, hx⟩ | ⟨q, w, rest, hq, -⟩)
    · cases hw
      exact hx
    · simp at hq
  have hpath : path ≠ [] := by
    obtain ⟨-, -, hno⟩ | ⟨_, _, -, -, hm⟩ := mem_parts_leaf.1 hv
    · exact absurd ⟨rfl, rfl⟩ (hno entries schema)
    · exact ne_nil_of_mem_entryParts hm
  exact rule_of_yields path hb (PathTree.distinct_ofEntries ht)
    (PathTree.fruitful_insertAll (t := .nil) trivial ht) (hgiven.mono (hrules.gives trivial))
    (hrules.yields trivial hgiven (Or.inl ⟨_, rfl, hv⟩) hpath)

/-! Routes go on from stop to stop, so the rules of a stop can be given at several depths. -/
namespace Sample

def route : Schema :=
  Schema.constructible { type := "Route", name := "Route" }
    [("stop", .datum .text ""), ("note", .datum .text ""), ("next", .optional none)]
    |>.declare "stop" (.value "stop" .text)
    |>.declare "note" (.value "note" .text)
    |>.declare "next" (.optional "next" "Route" "Option<Route>")

def routes : Types := fun _ => route

def given (name value : String) : Rule :=
  ⟨name, ⟨name, "Route", .value name .text⟩, .literal (.text value)⟩

def onward (rules : List Rule) : Rule :=
  ⟨"next", ⟨"next", "Route", .optional "next" "Route" "Option<Route>"⟩, .nested ⟨route, rules⟩⟩

theorem bindNodes_given {name value : String} (hn : name = "stop" ∨ name = "note")
    (hv : isDirective value = false) {rest : PathTree} {scope : String} {rules : List Rule}
    (h : bindNodes routes catalogue route rest scope = .ok rules) :
    bindNodes routes catalogue route (.cons name (some (.text value)) .nil rest) scope =
      .ok (given name value :: rules) := by
  have hf : route.field? name = some ⟨name, "Route", .value name .text⟩ := by
    rcases hn with rfl | rfl <;> rfl
  refine bindNodes_cons_eq_ok.2 ⟨_, _, _, hf, rfl, (bindField_eq_ok rfl).2 (.value ?_), h, rfl⟩
  simp [classify, hv]

theorem bindNodes_onward {direct : Option Value} {children tree rest : PathTree} {scope : String}
    {inner rules : List Rule} (hn : NestedRules (joinPath scope "next") direct children tree)
    (hi : bindNodes routes catalogue route tree (joinPath scope "next") = .ok inner)
    (h : bindNodes routes catalogue route rest scope = .ok rules) :
    bindNodes routes catalogue route (.cons "next" direct children rest) scope =
      .ok (onward inner :: rules) :=
  bindNodes_cons_eq_ok.2 ⟨_, _, _, rfl, rfl,
    (bindField_eq_ok rfl).2 (.optional hn (bindTree_eq_ok.2 ⟨rfl, rfl, _, hi, rfl⟩)), h, rfl⟩

/-- The stop after the next one by a map in a map, its note by a deeper key. -/
def deepRules : Value :=
  .map [("next", .map [("next", .map [("stop", .text "Bern")])]), ("next.next.note", .text "late"),
    ("stop", .text "Aarau")]

def deepBinding : Binding :=
  ⟨route, [onward [onward [given "stop" "Bern", given "note" "late"]], given "stop" "Aarau"]⟩

theorem compile_deepRules : compile routes catalogue route deepRules = .ok deepBinding := by
  refine compile_eq_ok.2 ⟨_, _, rfl, rfl, bindTree_eq_ok.2 ⟨rfl, rfl, _, ?_, rfl⟩⟩
  refine bindNodes_onward (.map rfl) (bindNodes_onward (.map rfl) ?inner bindNodes_nil) ?rest
  case inner =>
    exact bindNodes_given (Or.inl rfl) rfl (bindNodes_given (Or.inr rfl) rfl bindNodes_nil)
  case rest => exact bindNodes_given (Or.inl rfl) rfl bindNodes_nil

/-- The stop after the next one by a map in a map, its note by a map under a deeper key. -/
def twiceMapped : Value :=
  .map [("next", .map [("next", .map [("stop", .text "Bern")])]),
    ("next.next", .map [("note", .text "late")])]

def lateBinding : Binding := ⟨route, [onward [onward [given "note" "late"]]]⟩

theorem compile_twiceMapped : compile routes catalogue route twiceMapped = .ok lateBinding := by
  refine compile_eq_ok.2 ⟨_, _, rfl, rfl, bindTree_eq_ok.2 ⟨rfl, rfl, _, ?_, rfl⟩⟩
  refine bindNodes_onward (.map rfl) (bindNodes_onward (.map rfl) ?_ bindNodes_nil) bindNodes_nil
  exact bindNodes_given (Or.inr rfl) rfl bindNodes_nil

end Sample

theorem rule_of_deep_stop :
    compile Sample.routes Sample.catalogue Sample.route Sample.deepRules =
        .ok Sample.deepBinding ∧
      Sample.deepRules.leaves Sample.routes Sample.route =
        [(["next", "next", "stop"], .text "Bern"), (["next", "next", "note"], .text "late"),
          (["stop"], .text "Aarau")] ∧
      (Sample.deepRules.maps Sample.routes Sample.route).map Prod.fst =
        [[], ["next"], ["next", "next"]] ∧
      ∃ field spec, Sample.deepBinding.RuleAt ["next", "next", "stop"] field spec ∧
        bindField Sample.routes Sample.catalogue field.form (some (.text "Bern")) .nil
          (["next", "next", "stop"].foldl joinPath "") = .ok spec := by
  have hl : Sample.deepRules.leaves Sample.routes Sample.route =
      [(["next", "next", "stop"], .text "Bern"), (["next", "next", "note"], .text "late"),
        (["stop"], .text "Aarau")] := by rfl
  have hm : (Sample.deepRules.maps Sample.routes Sample.route).map Prod.fst =
      [[], ["next"], ["next", "next"]] := by rfl
  refine ⟨Sample.compile_deepRules, hl, hm, ?_⟩
  refine rule_of_leaf Sample.compile_deepRules ?_ (hm ▸ by decide) ?_ (hl ▸ List.mem_cons_self)
  · rw [hl]
    simp
  · intro l hlm m hmm
    have hfst : m.1 ∈ [[], ["next"], ["next", "next"]] := hm ▸ List.mem_map_of_mem hmm
    rw [hl] at hlm
    simp only [List.mem_cons, List.not_mem_nil, or_false] at hlm hfst
    rcases hlm with rfl | rfl | rfl <;> rcases hfst with h | h | h <;> simp [h]

/-- Of two maps that a path is given only the deeper one counts. What the other gives is lost,
though no leaf is in the way. -/
theorem leaf_lost_of_two_maps :
    compile Sample.routes Sample.catalogue Sample.route Sample.twiceMapped =
        .ok Sample.lateBinding ∧
      Sample.twiceMapped.leaves Sample.routes Sample.route =
        [(["next", "next", "stop"], .text "Bern"), (["next", "next", "note"], .text "late")] ∧
      ((Sample.twiceMapped.leaves Sample.routes Sample.route).Pairwise
        fun l m => ¬ l.1 <+: m.1 ∧ ¬ m.1 <+: l.1) ∧
      ∀ field spec, ¬ Sample.lateBinding.RuleAt ["next", "next", "stop"] field spec := by
  have hl : Sample.twiceMapped.leaves Sample.routes Sample.route =
      [(["next", "next", "stop"], .text "Bern"), (["next", "next", "note"], .text "late")] := by rfl
  refine ⟨Sample.compile_twiceMapped, hl, ?_, ?_⟩
  · rw [hl]
    simp
  · intro field spec h
    obtain ⟨r, hr, hp | ⟨c, hc, h⟩⟩ := h.cons
    · cases hp
    cases hr
    cases hc
    obtain ⟨r, hr, hp | ⟨c, hc, h⟩⟩ := h.cons
    · cases hp
    cases hr
    cases hc
    obtain ⟨r, hr, -⟩ := h.cons
    cases hr

end Leaves
end Fixture
