import Fixture.Proofs.Leaves
import Mathlib.Logic.Function.Iterate

/-! How far compilation descends. Types may refer back to themselves, so what ends the descent is
the rules: from a tree it goes on to trees of smaller depth only, also where a map is unfolded and
deeper rules are laid over it. Bindings are then nested no deeper than the rules that they come
from. -/
namespace Fixture

/-- The trees that the rules of a field lead to, each with the schema that it is compiled for and
the path at which it stands. -/
inductive FieldEnters (types : Types) (path : String) :
    FieldForm → Option Value → PathTree → Schema → PathTree → String → Prop
  | nested {form : FieldForm} {t : TypeName} {direct : Option Value} {children tree : PathTree}
      (ht : form.nestedType? = some t) (hn : NestedRules path direct children tree) :
      FieldEnters types path form direct children (types t) tree path
  | item {slot declared : String} {t : TypeName} {items : List Value} {i : Nat}
      {entries : List (String × Value)} {tree : PathTree} (hi : items[i]? = some (.map entries))
      (ht : PathTree.ofEntries (itemPath path i) entries = .ok tree) :
      FieldEnters types path (.list slot t declared) (some (.list items)) .nil (types t) tree
        (itemPath path i)

/-- The trees that compilation of a tree goes on to, by the fields of the nodes. -/
inductive Enters (types : Types) (schema : Schema) (scope : String) :
    PathTree → Schema → PathTree → String → Prop
  | here {segment path : String} {direct : Option Value} {children rest tree : PathTree}
      {field : Field} {below : Schema} (hf : schema.field? segment = some field)
      (h : FieldEnters types (joinPath scope segment) field.form direct children below tree path) :
      Enters types schema scope (.cons segment direct children rest) below tree path
  | later {segment path : String} {direct : Option Value} {children rest tree : PathTree}
      {below : Schema} (h : Enters types schema scope rest below tree path) :
      Enters types schema scope (.cons segment direct children rest) below tree path

section Depth
variable {types : Types} {schema below : Schema} {path scope : String} {direct : Option Value}
  {children tree tree' : PathTree}

theorem Value.depth_le_itemsDepth {v : Value} {items : List Value} (h : v ∈ items) :
    v.depth ≤ Value.itemsDepth items := by
  induction items with
  | nil => cases h
  | cons w items ih =>
    rw [Value.itemsDepth]
    rcases List.mem_cons.1 h with rfl | h
    · exact Nat.le_max_left _ _
    · exact Nat.le_trans (ih h) (Nat.le_max_right _ _)

/-- Unfolding the map of a nested field makes nothing deeper, nor does laying rules over it. -/
theorem NestedRules.depth_le (h : NestedRules path direct children tree) :
    tree.depth ≤ max (directDepth direct) children.depth := by
  cases h with
  | deeper => exact Nat.le_max_right _ _
  | replaced => exact Nat.le_max_right _ _
  | map h =>
    refine PathTree.depth_overlay_le _ _ ?_ (Nat.le_max_right _ _)
    exact Nat.le_trans (PathTree.depth_ofEntries_le h) (Nat.le_max_left _ _)

theorem FieldEnters.depth_le {form : FieldForm}
    (h : FieldEnters types path form direct children below tree scope) :
    tree.depth ≤ max (directDepth direct) children.depth := by
  cases h with
  | nested _ hn => exact hn.depth_le
  | item hi ht =>
    refine Nat.le_trans (PathTree.depth_ofEntries_le ht) (Nat.le_trans ?_ (Nat.le_max_left _ _))
    exact Value.depth_le_itemsDepth (List.mem_of_getElem? hi)

/-- The step to a nested field or to an item uses up a segment. -/
theorem Enters.depth_lt (h : Enters types schema scope tree below tree' path) :
    tree'.depth < tree.depth := by
  induction h with
  | here _ h =>
    have := h.depth_le
    rw [PathTree.depth]
    omega
  | later _ ih =>
    rw [PathTree.depth]
    omega

end Depth

/-! One level of compilation, the trees below being left to `below`. -/
section Level
variable (types : Types) (catalogue : Catalogue)
  (below : Schema → PathTree → String → Except Fault Binding)

def itemsOver (schema : Schema) : List Value → String → Nat → Except Fault (List Spec)
  | [], _, _ => .ok []
  | .map entries :: rest, path, i =>
    match PathTree.ofEntries (itemPath path i) entries with
    | .ok tree => do
      let b ← below schema tree (itemPath path i)
      let specs ← itemsOver schema rest path (i + 1)
      return .nested b :: specs
    | .error e => .error e
  | v :: _, path, i => .error (.malformed (itemPath path i) (.notItem v.describe))

def nestedOver (type : TypeName) (orNull : Bool) (direct : Option Value) (children : PathTree)
    (path : String) : Except Fault Spec :=
  match direct with
  | none => (below (types type) children path).map .nested
  | some (.map entries) =>
    match PathTree.ofEntries path entries with
    | .ok tree => (below (types type) (tree.overlay children) path).map .nested
    | .error e => .error e
  | some v =>
    if children.isEmpty then
      match orNull, v with
      | true, .null => .ok (.literal .null)
      | _, v => .error (.malformed path (.notObject orNull v.describe))
    else (below (types type) children path).map .nested

def fieldOver (form : FieldForm) (direct : Option Value) (children : PathTree) (path : String) :
    Except Fault Spec :=
  match form with
  | .value .. | .readOnly _ =>
    if children.isEmpty then
      match direct with
      | some v => classify catalogue v path
      | none => .error (.malformed path .missingValue)
    else .error (.malformed path .notNested)
  | .nested _ type => nestedOver types below type false direct children path
  | .optional _ type _ => nestedOver types below type true direct children path
  | .list _ type _ =>
    if children.isEmpty then
      match direct with
      | some (.list items) => (itemsOver below (types type) items path 0).map .sequence
      | some v => .error (.malformed path (.notList v.describe))
      | none => .error (.malformed path .missingValue)
    else .error (.malformed path .insideList)

def nodesOver (schema : Schema) : PathTree → String → Except Fault (List Rule)
  | .nil, _ => .ok []
  | .cons segment direct children rest, scope =>
    match schema.field? segment with
    | none => .error (.malformed (joinPath scope segment) (.unknownField schema.name segment))
    | some field =>
      if field.form.isAssignable then do
        let spec ← fieldOver types catalogue below field.form direct children
          (joinPath scope segment)
        let rules ← nodesOver schema rest scope
        return ⟨segment, field, spec⟩ :: rules
      else .error (.notAssignable schema.name segment)

def treeOver (schema : Schema) (tree : PathTree) (scope : String) : Except Fault Binding :=
  match schema.repeated? with
  | some name =>
    .error (.malformed (if scope = "" then rootPath else scope) (.repeatedField schema.name name))
  | none =>
    if schema.initial.isSome then
      (nodesOver types catalogue below schema tree scope).map fun rules => ⟨schema, rules⟩
    else .error (.notConstructible schema.name .noConstructor)

end Level

section Unfolding
variable (types : Types) (catalogue : Catalogue)

theorem itemsOver_bindTree (schema : Schema) (items : List Value) (path : String) (i : Nat) :
    itemsOver (bindTree types catalogue) schema items path i =
      bindItems types catalogue schema items path i := by
  induction items generalizing i with
  | nil => rw [bindItems, itemsOver]
  | cons v items ih =>
    rw [bindItems.eq_def]
    cases v with
    | map entries =>
      simp only [itemsOver, ih]
      cases PathTree.ofEntries (itemPath path i) entries <;> rfl
    | _ => rfl

theorem nestedOver_bindTree (t : TypeName) (orNull : Bool) (direct : Option Value)
    (children : PathTree) (path : String) :
    nestedOver types (bindTree types catalogue) t orNull direct children path =
      bindNested types catalogue t orNull direct children path := by
  rw [bindNested.eq_def]
  cases direct with
  | none => rfl
  | some v =>
    cases v with
    | map entries =>
      simp only [nestedOver]
      cases PathTree.ofEntries path entries <;> rfl
    | _ => rfl

theorem fieldOver_bindTree (form : FieldForm) (direct : Option Value) (children : PathTree)
    (path : String) :
    fieldOver types catalogue (bindTree types catalogue) form direct children path =
      bindField types catalogue form direct children path := by
  rw [bindField.eq_def]
  cases form with
  | value => rfl
  | readOnly => rfl
  | nested slot t => exact nestedOver_bindTree types catalogue t false direct children path
  | optional slot t => exact nestedOver_bindTree types catalogue t true direct children path
  | list slot t declared =>
    cases direct with
    | none => rfl
    | some v =>
      cases v with
      | list items => simp only [fieldOver.eq_def, itemsOver_bindTree]
      | _ => rfl

theorem nodesOver_bindTree (schema : Schema) (tree : PathTree) (scope : String) :
    nodesOver types catalogue (bindTree types catalogue) schema tree scope =
      bindNodes types catalogue schema tree scope := by
  induction tree with
  | nil => rw [bindNodes, nodesOver]
  | cons segment direct children rest _ ih =>
    rw [bindNodes, nodesOver]
    cases schema.field? segment with
    | none => rfl
    | some field => simp only [fieldOver_bindTree, ih]

theorem treeOver_bindTree (schema : Schema) (tree : PathTree) (scope : String) :
    treeOver types catalogue (bindTree types catalogue) schema tree scope =
      bindTree types catalogue schema tree scope := by
  rw [bindTree, treeOver]
  cases schema.repeated? with
  | some name => rfl
  | none => simp only [nodesOver_bindTree]

end Unfolding

section Congruence
variable {types : Types} {catalogue : Catalogue}
  {below below' : Schema → PathTree → String → Except Fault Binding}

theorem itemsOver_congr {schema : Schema} {items : List Value} {path : String} {k : Nat}
    (h : ∀ i entries tree, items[i]? = some (.map entries) →
      PathTree.ofEntries (itemPath path (k + i)) entries = .ok tree →
      below schema tree (itemPath path (k + i)) = below' schema tree (itemPath path (k + i))) :
    itemsOver below schema items path k = itemsOver below' schema items path k := by
  induction items generalizing k with
  | nil => rfl
  | cons v items ih =>
    cases v with
    | map entries =>
      -- the later items are counted on from the next index
      have hrest : itemsOver below schema items path (k + 1) =
          itemsOver below' schema items path (k + 1) := by
        refine ih fun i es tree hi ht => ?_
        have hk : k + 1 + i = k + (i + 1) := by omega
        rw [hk] at ht ⊢
        exact h (i + 1) es tree hi ht
      simp only [itemsOver, hrest]
      cases ht : PathTree.ofEntries (itemPath path k) entries with
      | error e => rfl
      | ok tree =>
        have htree : below schema tree (itemPath path k) = below' schema tree (itemPath path k) :=
          h 0 entries tree rfl ht
        simp only [htree]
    | _ => rfl

theorem nestedOver_congr {t : TypeName} {orNull : Bool} {direct : Option Value}
    {children : PathTree} {path : String}
    (h : ∀ tree, NestedRules path direct children tree →
      below (types t) tree path = below' (types t) tree path) :
    nestedOver types below t orNull direct children path =
      nestedOver types below' t orNull direct children path := by
  rw [nestedOver.eq_def, nestedOver.eq_def]
  split
  · rw [h _ .deeper]
  · split
    · rename_i ht
      rw [h _ (.map ht)]
    · rfl
  · rename_i v hv
    split
    · rfl
    · rename_i hc
      rw [h _ (.replaced hv fun he => hc (PathTree.isEmpty_iff.2 he))]

theorem fieldOver_congr {form : FieldForm} {direct : Option Value} {children : PathTree}
    {path : String}
    (h : ∀ schema tree scope, FieldEnters types path form direct children schema tree scope →
      below schema tree scope = below' schema tree scope) :
    fieldOver types catalogue below form direct children path =
      fieldOver types catalogue below' form direct children path := by
  rw [fieldOver.eq_def, fieldOver.eq_def]
  cases form with
  | value => rfl
  | readOnly => rfl
  | nested => exact nestedOver_congr fun tree hn => h _ tree _ (.nested rfl hn)
  | optional => exact nestedOver_congr fun tree hn => h _ tree _ (.nested rfl hn)
  | list slot t declared =>
    simp only
    split
    · rename_i hc
      have hc := PathTree.isEmpty_iff.1 hc
      subst hc
      split
      · rename_i items
        have hitems : itemsOver below (types t) items path 0 =
            itemsOver below' (types t) items path 0 := by
          refine itemsOver_congr fun i entries tree hi ht => ?_
          rw [Nat.zero_add] at ht ⊢
          exact h _ tree _ (.item hi ht)
        rw [hitems]
      · rfl
      · rfl
    · rfl

theorem nodesOver_congr {schema : Schema} {tree : PathTree} {scope : String}
    (h : ∀ schema' tree' path, Enters types schema scope tree schema' tree' path →
      below schema' tree' path = below' schema' tree' path) :
    nodesOver types catalogue below schema tree scope =
      nodesOver types catalogue below' schema tree scope := by
  induction tree with
  | nil => rfl
  | cons segment direct children rest _ ih =>
    have hrest := ih fun schema' tree' path he => h schema' tree' path (.later he)
    rw [nodesOver, nodesOver, hrest]
    split
    · rfl
    · rename_i field hf
      rw [fieldOver_congr fun schema' tree' path he => h schema' tree' path (.here hf he)]

/-- A level asks for nothing but the trees it goes on to. -/
theorem treeOver_congr {schema : Schema} {tree : PathTree} {scope : String}
    (h : ∀ schema' tree' path, Enters types schema scope tree schema' tree' path →
      below schema' tree' path = below' schema' tree' path) :
    treeOver types catalogue below schema tree scope =
      treeOver types catalogue below' schema tree scope := by
  rw [treeOver, treeOver, nodesOver_congr h]

/-- The level of a tree and as many below it as it is deep are enough, whatever stands under
them. -/
theorem iterate_treeOver (n : Nat) {schema : Schema} {tree : PathTree} {scope : String}
    (h : tree.depth < n) :
    Nat.iterate (treeOver types catalogue) n below schema tree scope =
      bindTree types catalogue schema tree scope := by
  induction n generalizing schema tree scope with
  | zero => cases h
  | succ n ih =>
    rw [Function.iterate_succ_apply', ← treeOver_bindTree]
    -- the trees that the top level goes on to have `n` levels left, and are less deep
    refine treeOver_congr fun schema' tree' path he => ih ?_
    have := he.depth_lt
    omega

end Congruence

mutual
/-- How many rules a binding leads down, from one into the binding or the items it holds. -/
def Binding.depth : Binding → Nat
  | ⟨_, rules⟩ => rulesDepth rules

def rulesDepth : List Rule → Nat
  | [] => 0
  | ⟨_, _, spec⟩ :: rules => max (1 + spec.depth) (rulesDepth rules)

def Spec.depth : Spec → Nat
  | .nested b => b.depth
  | .sequence items => specsDepth items
  | .literal _ | .directive _ => 0

def specsDepth : List Spec → Nat
  | [] => 0
  | x :: xs => max x.depth (specsDepth xs)
end

section Nesting
variable {types : Types} {catalogue : Catalogue}

theorem specsDepth_eq_zero {items : List Spec} (h : ∀ x ∈ items, x.depth = 0) :
    specsDepth items = 0 := by
  induction items with
  | nil => rfl
  | cons x xs ih =>
    rw [specsDepth, h x List.mem_cons_self, ih fun y hy => h y (List.mem_cons_of_mem _ hy)]
    rfl

theorem Spec.IsValue.depth_eq_zero {spec : Spec} (h : spec.IsValue catalogue) : spec.depth = 0 := by
  induction h with
  | literal v => rfl
  | directive hc => rfl
  | sequence _ ih => exact specsDepth_eq_zero ih

mutual
/-- A compiled binding is nested no deeper than its tree. The recursion is on the binding, since the
trees of nested fields are no parts of the tree. -/
theorem depth_le_of_bindTree : ∀ (b : Binding) {schema : Schema} {tree : PathTree}
    {scope : String}, bindTree types catalogue schema tree scope = .ok b → b.depth ≤ tree.depth
  | ⟨_, rules⟩, schema, tree, scope, h => by
    obtain ⟨-, -, rules', hn, he⟩ := bindTree_eq_ok.1 h
    cases he
    exact rulesDepth_le_of_bindNodes rules hn
termination_by structural b => b

theorem rulesDepth_le_of_bindNodes : ∀ (rules : List Rule) {schema : Schema} {tree : PathTree}
    {scope : String}, bindNodes types catalogue schema tree scope = .ok rules →
      rulesDepth rules ≤ tree.depth
  | [], _, _, _, _ => Nat.zero_le _
  | ⟨segment, field, spec⟩ :: rules, schema, tree, scope, h => by
    cases tree with
    | nil =>
      rw [bindNodes_nil] at h
      cases h
    | cons s direct children rest =>
      obtain ⟨_, _, _, -, ha, hs, hm, he⟩ := bindNodes_cons_eq_ok.1 h
      cases he
      have hspec := depth_le_of_fieldBound spec ((bindField_eq_ok ha).1 hs)
      have hrules := rulesDepth_le_of_bindNodes rules hm
      rw [rulesDepth, PathTree.depth]
      omega
termination_by structural rules => rules

theorem depth_le_of_fieldBound : ∀ (spec : Spec) {form : FieldForm} {direct : Option Value}
    {children : PathTree} {path : String},
    FieldBound types catalogue path form direct children spec →
      spec.depth ≤ max (directDepth direct) children.depth
  | spec, form, direct, children, path, h => by
    cases h with
    | value h =>
      rw [(isValue_of_classify _ h).depth_eq_zero]
      exact Nat.zero_le _
    | nested hn hb => exact Nat.le_trans (depth_le_of_bindTree _ hb) hn.depth_le
    | optional hn hb => exact Nat.le_trans (depth_le_of_bindTree _ hb) hn.depth_le
    | absent => exact Nat.zero_le _
    | list h => exact Nat.le_trans (specsDepth_le_of_bindItems _ h) (Nat.le_max_left _ _)
termination_by structural spec => spec

theorem specsDepth_le_of_bindItems : ∀ (items : List Spec) {t : TypeName} {vs : List Value}
    {path : String} {i : Nat}, bindItems types catalogue (types t) vs path i = .ok items →
      specsDepth items ≤ Value.itemsDepth vs
  | [], _, _, _, _, _ => Nat.zero_le _
  | .nested b :: xs, t, vs, path, i, h => by
    cases vs with
    | nil =>
      rw [bindItems_nil] at h
      cases h
    | cons v vs =>
      obtain ⟨entries, tree, _, more, rfl, ht, hb, hm, he⟩ := bindItems_cons_eq_ok.1 h
      cases he
      have hitem : (Spec.nested b).depth ≤ (Value.map entries).depth :=
        Nat.le_trans (depth_le_of_bindTree b hb) (PathTree.depth_ofEntries_le ht)
      have hrest := specsDepth_le_of_bindItems xs hm
      rw [specsDepth, Value.itemsDepth]
      omega
  | .literal _ :: _, _, _, _, _, h | .directive _ :: _, _, _, _, _, h
  | .sequence _ :: _, _, _, _, _, h => (nomatch nested_of_bindItems h)
termination_by structural items => items
end

end Nesting

/-- Compilation descends only as deep as the rules, whatever types refer to. Each level of it asks
only for trees of smaller depth. So the level of a rule set and as many below it as it is deep
compile it, whatever stands under them, and the binding is nested no deeper than the rule set. -/
theorem compile_descends_within_depth (types : Types) (catalogue : Catalogue) (schema : Schema) :
    (∀ s tree scope,
      (∀ s' tree' path, Enters types s scope tree s' tree' path → tree'.depth < tree.depth) ∧
      ∀ below, (∀ s' tree' path, Enters types s scope tree s' tree' path →
          below s' tree' path = bindTree types catalogue s' tree' path) →
        treeOver types catalogue below s tree scope = bindTree types catalogue s tree scope) ∧
    (∀ entries tree, PathTree.ofEntries "" entries = .ok tree →
      tree.depth ≤ (Value.map entries).depth ∧
      ∀ below n, (Value.map entries).depth < n →
        Nat.iterate (treeOver types catalogue) n below schema tree "" =
          compile types catalogue schema (.map entries)) ∧
    ∀ rules b, compile types catalogue schema rules = .ok b → b.depth ≤ rules.depth := by
  refine ⟨fun s tree scope => ⟨fun s' tree' path => Enters.depth_lt, fun below h => ?level⟩,
    fun entries tree ht => ⟨PathTree.depth_ofEntries_le ht, fun below n hn => ?levels⟩,
    fun rules b h => ?nested⟩
  case level => rw [treeOver_congr h, treeOver_bindTree]
  case levels =>
    have hdepth := PathTree.depth_ofEntries_le ht
    rw [iterate_treeOver n (Nat.lt_of_le_of_lt hdepth hn), compile]
    simp only [ht]
  case nested =>
    obtain ⟨entries, tree, rfl, ht, hb⟩ := compile_eq_ok.1 h
    exact Nat.le_trans (depth_le_of_bindTree b hb) (PathTree.depth_ofEntries_le ht)

namespace Sample

/-- The tree of the deep rules, and the one that its next route goes by. -/
def deepTree : PathTree :=
  .cons "next" (some (.map [("next", .map [("stop", .text "Bern")])]))
    (.cons "next" none (.cons "note" (some (.text "late")) .nil .nil) .nil)
    (.cons "stop" (some (.text "Aarau")) .nil .nil)

def nextTree : PathTree :=
  .cons "next" (some (.map [("stop", .text "Bern")]))
    (.cons "note" (some (.text "late")) .nil .nil) .nil

theorem enters_nextTree : Enters routes route "" deepTree route nextTree "next" := by
  have hf : route.field? "next" =
      some ⟨"next", "Route", .optional "next" "Route" "Option<Route>"⟩ := rfl
  have ht : PathTree.ofEntries "next" [("next", .map [("stop", .text "Bern")])] =
      .ok (.cons "next" (some (.map [("stop", .text "Bern")])) .nil .nil) := rfl
  exact .here hf (.nested (t := "Route") rfl (.map ht))

end Sample

theorem deepRules_descend_within_depth :
    Sample.deepRules.depth = 3 ∧
      Enters Sample.routes Sample.route "" Sample.deepTree Sample.route Sample.nextTree "next" ∧
      Sample.nextTree.depth < Sample.deepTree.depth ∧
      Nat.iterate (treeOver Sample.routes Sample.catalogue) 4
        (fun _ _ path => .error (.malformed path .missingValue)) Sample.route Sample.deepTree
          "" = .ok Sample.deepBinding ∧
      Sample.deepBinding.depth ≤ Sample.deepRules.depth := by
  obtain ⟨hstep, hlevels, hnested⟩ :=
    compile_descends_within_depth Sample.routes Sample.catalogue Sample.route
  have hdepth : Sample.deepRules.depth = 3 := rfl
  refine ⟨hdepth, Sample.enters_nextTree, (hstep _ _ _).1 _ _ _ Sample.enters_nextTree, ?_,
    hnested _ _ Sample.compile_deepRules⟩
  refine ((hlevels _ Sample.deepTree rfl).2 _ 4 ?_).trans Sample.compile_deepRules
  exact hdepth ▸ Nat.lt_succ_self 3

end Fixture
