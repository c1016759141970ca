import Fixture.Factory
import Fixture.Proofs.Fields
import Fixture.Proofs.PathTree

/-! Compilation step by step: for each step, what it has found where it succeeds. Proofs about
compiled rules go by these laws, along the binding that came out. -/
namespace Fixture

section Steps
variable {types : Types} {catalogue : Catalogue}

theorem PathTree.isEmpty_iff {t : PathTree} : t.isEmpty = true ↔ t = nil := by
  cases t <;> simp [isEmpty]

/-- Neither an array nor a directive. Maps are taken as they are. -/
def Value.IsAtom : Value → Prop
  | text s => isDirective s = false
  | list _ => False
  | _ => True

/-- What the value of a value field is compiled to. -/
inductive Classified (catalogue : Catalogue) (path : String) : Value → Spec → Prop
  | literal {v : Value} (h : v.IsAtom) : Classified catalogue path v (.literal v)
  | directive {s : String} {c : Call} (h : isDirective s = true)
      (call : Call.parse s.toList = .ok c) (checked : catalogue.check c = .ok ()) :
      Classified catalogue path (.text s) (.directive c)
  | list {items : List Value} {specs : List Spec}
      (h : classifyItems catalogue items path 0 = .ok specs) :
      Classified catalogue path (.list items) (.sequence specs)

theorem classify_eq_ok {v : Value} {path : String} {spec : Spec} :
    classify catalogue v path = .ok spec ↔ Classified catalogue path v spec := by
  constructor
  · intro h
    rw [classify.eq_def] at h
    cases v with
    | text s =>
      by_cases hd : isDirective s = true
      · simp only [hd, if_true] at h
        split at h
        · cases h
        · rename_i c hp
          obtain ⟨u, hc, rfl⟩ := Outcome.map_eq_ok.1 h
          exact .directive hd hp hc
      · simp only [hd] at h
        cases h
        exact .literal (Bool.eq_false_iff.2 hd)
    | list items =>
      obtain ⟨specs, hs, rfl⟩ := Outcome.map_eq_ok.1 h
      exact .list hs
    | _ =>
      cases h
      exact .literal trivial
  · intro h
    rw [classify.eq_def]
    cases h with
    | directive hd hp hc => simp [hd, hp, hc, Except.map]
    | list hs => simp [hs, Except.map]
    | literal h =>
      cases v with
      | text s =>
        rw [Value.IsAtom] at h
        simp [h]
      | list => exact h.elim
      | _ => rfl

theorem classifyItems_cons_eq_ok {v : Value} {vs : List Value} {path : String} {i : Nat}
    {specs : List Spec} :
    classifyItems catalogue (v :: vs) path i = .ok specs ↔
      ∃ x xs, classify catalogue v (itemPath path i) = .ok x ∧
        classifyItems catalogue vs path (i + 1) = .ok xs ∧ specs = x :: xs := by
  rw [classifyItems, Outcome.bind_eq_ok]
  simp only [Outcome.bind_eq_ok, pure, Except.pure, Except.ok.injEq, eq_comm (b := specs)]
  constructor
  · rintro ⟨x, hx, xs, hxs, rfl⟩
    exact ⟨x, xs, hx, hxs, rfl⟩
  · rintro ⟨x, xs, hx, hxs, rfl⟩
    exact ⟨x, hx, xs, hxs, rfl⟩

theorem bindTree_eq_ok {schema : Schema} {tree : PathTree} {scope : String} {b : Binding} :
    bindTree types catalogue schema tree scope = .ok b ↔
      schema.repeated? = none ∧ schema.initial.isSome = true ∧
        ∃ rules, bindNodes types catalogue schema tree scope = .ok rules ∧ b = ⟨schema, rules⟩ := by
  rw [bindTree]
  cases hr : schema.repeated? with
  | some name => simp
  | none =>
    by_cases hi : schema.initial.isSome = true
    · simp [hi, Outcome.map_eq_ok, eq_comm (b := b)]
    · simp [hi]

theorem bindNodes_nil {schema : Schema} {scope : String} :
    bindNodes types catalogue schema .nil scope = .ok [] := by
  rw [bindNodes]

theorem bindNodes_cons_eq_ok {schema : Schema} {segment : String} {direct : Option Value}
    {children rest : PathTree} {scope : String} {rules : List Rule} :
    bindNodes types catalogue schema (.cons segment direct children rest) scope = .ok rules ↔
      ∃ field spec more, schema.field? segment = some field ∧ field.form.isAssignable = true ∧
        bindField types catalogue field.form direct children (joinPath scope segment) = .ok spec ∧
        bindNodes types catalogue schema rest scope = .ok more ∧
        rules = ⟨segment, field, spec⟩ :: more := by
  rw [bindNodes]
  cases hf : schema.field? segment with
  | none => simp
  | some field =>
    by_cases ha : field.form.isAssignable = true
    · simp only [ha, if_true, Outcome.bind_eq_ok, pure, Except.pure, Except.ok.injEq,
        Option.some.injEq]
      constructor
      · rintro ⟨spec, hs, more, hm, rfl⟩
        exact ⟨field, spec, more, rfl, ha, hs, hm, rfl⟩
      · rintro ⟨_, spec, more, rfl, -, hs, hm, rfl⟩
        exact ⟨spec, hs, more, hm, rfl⟩
    · simp [ha]

/-- The rules of the object in a nested field: those of the field's own map with the deeper ones
laid over them, or the deeper ones alone where the field's own value is no map. -/
inductive NestedRules (path : String) : Option Value → PathTree → PathTree → Prop
  | deeper {children : PathTree} : NestedRules path none children children
  | map {entries : List (String × Value)} {tree children : PathTree}
      (h : PathTree.ofEntries path entries = .ok tree) :
      NestedRules path (some (.map entries)) children (tree.overlay children)
  | replaced {v : Value} {children : PathTree} (hv : ∀ entries, v ≠ .map entries)
      (hc : children ≠ .nil) : NestedRules path (some v) children children

theorem NestedRules.distinct {path : String} {direct : Option Value} {children tree : PathTree}
    (h : NestedRules path direct children tree) (hc : children.Distinct) : tree.Distinct := by
  cases h with
  | deeper => exact hc
  | map h => exact (PathTree.distinct_ofEntries h).overlay
  | replaced => exact hc

/-- A nested field gets an object by its rules, or none where its own value is null and allowed. -/
theorem bindNested_eq_ok {t : TypeName} {orNull : Bool} {direct : Option Value}
    {children : PathTree} {path : String} {spec : Spec} :
    bindNested types catalogue t orNull direct children path = .ok spec ↔
      (∃ tree b, NestedRules path direct children tree ∧
        bindTree types catalogue (types t) tree path = .ok b ∧ spec = .nested b) ∨
      (orNull = true ∧ direct = some .null ∧ children = .nil ∧ spec = .literal .null) := by
  rw [bindNested.eq_def]
  split
  · -- no value of its own
    simp only [Outcome.map_eq_ok, reduceCtorEq, false_and, and_false, or_false]
    constructor
    · rintro ⟨b, hb, rfl⟩
      exact ⟨children, b, .deeper, hb, rfl⟩
    · rintro ⟨tree, b, ⟨⟩, hb, rfl⟩
      exact ⟨b, hb, rfl⟩
  · -- a map
    rename_i entries
    split
    · rename_i tree ht
      simp only [Outcome.map_eq_ok, reduceCtorEq, false_and, and_false, or_false,
        Option.some.injEq]
      constructor
      · rintro ⟨b, hb, rfl⟩
        exact ⟨_, b, .map ht, hb, rfl⟩
      · rintro ⟨_, b, hn, hb, rfl⟩
        cases hn with
        | map ht' =>
          rw [ht] at ht'
          cases ht'
          exact ⟨b, hb, rfl⟩
        | replaced hv => exact absurd rfl (hv entries)
    · rename_i e he
      simp only [reduceCtorEq, false_and, and_false, or_false, Option.some.injEq, false_iff]
      rintro ⟨_, b, hn, -, -⟩
      cases hn with
      | map ht =>
        rw [he] at ht
        cases ht
      | replaced hv => exact hv entries rfl
  · -- any other value
    rename_i v hv
    have hv : ∀ entries, v ≠ .map entries := hv
    split
    · rename_i hc
      have hc := PathTree.isEmpty_iff.1 hc
      subst hc
      have hn : ∀ tree, ¬ NestedRules path (some v) .nil tree := by
        intro tree hn
        cases hn with
        | map => exact hv _ rfl
        | replaced _ hc => exact hc rfl
      split
      · simp [hn, eq_comm (b := spec)]
      · rename_i hnull
        simp only [reduceCtorEq, hn, false_and, exists_false, Option.some.injEq, false_or,
          false_iff]
        rintro ⟨rfl, rfl, -, -⟩
        exact hnull rfl rfl
    · rename_i hc
      have hc : children ≠ .nil := fun h => hc (PathTree.isEmpty_iff.2 h)
      simp only [Outcome.map_eq_ok, hc, false_and, and_false, or_false]
      constructor
      · rintro ⟨b, hb, rfl⟩
        exact ⟨children, b, .replaced hv hc, hb, rfl⟩
      · rintro ⟨_, b, hn, hb, rfl⟩
        cases hn with
        | map => exact absurd rfl (hv _)
        | replaced => exact ⟨b, hb, rfl⟩

/-- What the rules of a field are compiled to, by the form of the field. -/
inductive FieldBound (types : Types) (catalogue : Catalogue) (path : String) :
    FieldForm → Option Value → PathTree → Spec → Prop
  | value {slot : String} {t : FieldType} {v : Value} {spec : Spec}
      (h : classify catalogue v path = .ok spec) :
      FieldBound types catalogue path (.value slot t) (some v) .nil spec
  | nested {slot : String} {t : TypeName} {direct : Option Value} {children tree : PathTree}
      {b : Binding} (hn : NestedRules path direct children tree)
      (hb : bindTree types catalogue (types t) tree path = .ok b) :
      FieldBound types catalogue path (.nested slot t) direct children (.nested b)
  | optional {slot declared : String} {t : TypeName} {direct : Option Value}
      {children tree : PathTree} {b : Binding} (hn : NestedRules path direct children tree)
      (hb : bindTree types catalogue (types t) tree path = .ok b) :
      FieldBound types catalogue path (.optional slot t declared) direct children (.nested b)
  | absent {slot declared : String} {t : TypeName} :
      FieldBound types catalogue path (.optional slot t declared) (some .null) .nil (.literal .null)
  | list {slot declared : String} {t : TypeName} {items : List Value} {specs : List Spec}
      (h : bindItems types catalogue (types t) items path 0 = .ok specs) :
      FieldBound types catalogue path (.list slot t declared) (some (.list items)) .nil
        (.sequence specs)

theorem bindField_eq_ok {form : FieldForm} (ha : form.isAssignable = true) {direct : Option Value}
    {children : PathTree} {path : String} {spec : Spec} :
    bindField types catalogue form direct children path = .ok spec ↔
      FieldBound types catalogue path form direct children spec := by
  rw [bindField.eq_def]
  cases form with
  | readOnly => cases ha
  | value slot t =>
    constructor
    · intro h
      cases children with
      | nil =>
        cases direct with
        | none => cases h
        | some v => exact .value h
      | cons => cases h
    · rintro ⟨h⟩
      exact h
  | nested slot t =>
    rw [bindNested_eq_ok]
    constructor
    · rintro (⟨tree, b, hn, hb, rfl⟩ | ⟨h, -⟩)
      · exact .nested hn hb
      · cases h
    · rintro (_ | ⟨hn, hb⟩)
      exact Or.inl ⟨_, _, hn, hb, rfl⟩
  | optional slot t declared =>
    rw [bindNested_eq_ok]
    constructor
    · rintro (⟨tree, b, hn, hb, rfl⟩ | ⟨-, rfl, rfl, rfl⟩)
      · exact .optional hn hb
      · exact .absent
    · intro h
      cases h with
      | optional hn hb => exact Or.inl ⟨_, _, hn, hb, rfl⟩
      | absent => exact Or.inr ⟨rfl, rfl, rfl, rfl⟩
  | list slot t declared =>
    constructor
    · intro h
      cases children with
      | cons => cases h
      | nil =>
        simp only [PathTree.isEmpty, if_true] at h
        split at h
        · obtain ⟨specs, hs, rfl⟩ := Outcome.map_eq_ok.1 h
          exact .list hs
        · cases h
        · cases h
    · intro h
      cases h with
      | list h => simp [PathTree.isEmpty, h, Except.map]

theorem bindItems_nil {schema : Schema} {path : String} {i : Nat} :
    bindItems types catalogue schema [] path i = .ok [] := by
  rw [bindItems]

theorem bindItems_cons_eq_ok {schema : Schema} {v : Value} {vs : List Value} {path : String}
    {i : Nat} {specs : List Spec} :
    bindItems types catalogue schema (v :: vs) path i = .ok specs ↔
      ∃ entries tree b more, v = .map entries ∧
        PathTree.ofEntries (itemPath path i) entries = .ok tree ∧
        bindTree types catalogue schema tree (itemPath path i) = .ok b ∧
        bindItems types catalogue schema vs path (i + 1) = .ok more ∧
        specs = .nested b :: more := by
  rw [bindItems.eq_def]
  cases v with
  | map entries =>
    simp only [Value.map.injEq]
    split
    · rename_i tree ht
      simp only [Outcome.bind_eq_ok, pure, Except.pure, Except.ok.injEq]
      constructor
      · rintro ⟨b, hb, more, hm, rfl⟩
        exact ⟨entries, tree, b, more, rfl, ht, hb, hm, rfl⟩
      · rintro ⟨_, _, b, more, rfl, ht', hb, hm, rfl⟩
        rw [ht] at ht'
        cases ht'
        exact ⟨b, hb, more, hm, rfl⟩
    · rename_i e he
      simp only [reduceCtorEq, false_iff]
      rintro ⟨_, tree, -, -, rfl, ht, -⟩
      rw [he] at ht
      cases ht
  | _ => simp

theorem nested_of_bindItems {schema : Schema} {x : Spec} {xs : List Spec} {vs : List Value}
    {path : String} {i : Nat} (h : bindItems types catalogue schema vs path i = .ok (x :: xs)) :
    ∃ b, x = .nested b := by
  cases vs with
  | nil =>
    rw [bindItems_nil] at h
    cases h
  | cons v vs =>
    obtain ⟨_, _, b, _, -, -, -, -, he⟩ := bindItems_cons_eq_ok.1 h
    cases he
    exact ⟨b, rfl⟩

theorem compile_eq_ok {schema : Schema} {rules : Value} {b : Binding} :
    compile types catalogue schema rules = .ok b ↔
      ∃ entries tree, rules = .map entries ∧ PathTree.ofEntries "" entries = .ok tree ∧
        bindTree types catalogue schema tree "" = .ok b := by
  cases rules with
  | map entries =>
    rw [compile]
    cases ht : PathTree.ofEntries "" entries with
    | ok tree =>
      simp only [Value.map.injEq]
      constructor
      · intro hb
        exact ⟨entries, tree, rfl, ht, hb⟩
      · rintro ⟨_, tree', rfl, ht', hb⟩
        rw [ht] at ht'
        cases ht'
        exact hb
    | error e => simp [ht]
  | _ => simp [compile]

/-- A factory is compiled for a type whose schema is its own, from rules whose literals fit. -/
theorem Factory.compile_eq_ok {type : TypeName} {rules : Value} {f : Factory} :
    Factory.compile types catalogue type rules = .ok f ↔
      (types type).type = type ∧ ∃ b, Fixture.compile types catalogue (types type) rules = .ok b ∧
        b.checkLiterals "" = .ok () ∧ f = ⟨type, b, catalogue⟩ := by
  unfold Factory.compile
  by_cases hs : (types type).type = type
  · simp only [Schema.isFor, hs, beq_self_eq_true, if_true, Outcome.bind_eq_ok, pure, Except.pure,
      Except.ok.injEq, true_and, eq_comm (b := f)]
    constructor
    · rintro ⟨b, hb, u, hl, rfl⟩
      exact ⟨b, hb, hl, rfl⟩
    · rintro ⟨b, hb, hl, rfl⟩
      exact ⟨b, hb, (), hl, rfl⟩
  · have hf : ((types type).type == type) = false := beq_eq_false_iff_ne.2 hs
    simp [Schema.isFor, hs, hf, throw, throwThe, MonadExceptOf.throw]

section Nodes
variable {schema : Schema} {tree : PathTree} {scope : String} {rules : List Rule}

theorem map_segment_of_bindNodes (h : bindNodes types catalogue schema tree scope = .ok rules) :
    rules.map Rule.segment = tree.keys := by
  induction tree generalizing rules with
  | nil =>
    rw [bindNodes_nil] at h
    cases h
    rfl
  | cons segment direct children rest _ ih =>
    obtain ⟨field, spec, more, -, -, -, hm, rfl⟩ := bindNodes_cons_eq_ok.1 h
    simp [PathTree.keys, ih hm]

theorem rule_of_node? (h : bindNodes types catalogue schema tree scope = .ok rules) {s : String}
    {d : Option Value} {c : PathTree} (hn : tree.node? s = some (d, c)) :
    ∃ field spec, schema.field? s = some field ∧ field.form.isAssignable = true ∧
      bindField types catalogue field.form d c (joinPath scope s) = .ok spec ∧
      ⟨s, field, spec⟩ ∈ rules := by
  induction tree generalizing rules with
  | nil => simp at hn
  | cons segment direct children rest _ ih =>
    obtain ⟨field, spec, more, hf, ha, hs, hm, rfl⟩ := bindNodes_cons_eq_ok.1 h
    rw [PathTree.node?] at hn
    split at hn
    · rename_i he
      cases hn
      cases he
      exact ⟨field, spec, hf, ha, hs, List.mem_cons_self⟩
    · obtain ⟨field', spec', hf', ha', hs', hmem⟩ := ih hm hn
      exact ⟨field', spec', hf', ha', hs', List.mem_cons_of_mem _ hmem⟩

end Nodes
end Steps

/-! Persons with a home, and rules for them that say where the home is in two ways. -/
namespace Sample

def place : Schema :=
  Schema.constructible { type := "Place", name := "Place" } [("city", .datum .text "")]
    |>.declare "city" (.value "city" .text)

def person : Schema :=
  Schema.constructible { type := "Person", name := "Person" }
    [("name", .datum .text ""), ("member", .datum .bool true),
      ("home", .one ⟨"Place", [("city", .datum .text "Oslo")]⟩), ("work", .optional none),
      ("trips", .many [])]
    |>.declare "name" (.value "name" .text)
    |>.declare "member" (.value "member" .bool)
    |>.declare "home" (.nested "home" "Place")
    |>.declare "work" (.optional "work" "Place" "Option<Place>")
    |>.declare "trips" (.list "trips" "Place" "Vec<Place>")

def types : Types := fun t => if t = "Place" then place else person

theorem eq_place_of_field {s : Schema} (hs : s ∈ [person, place]) {f : Field} (hf : f ∈ s.fields)
    {t : TypeName} (ht : f.form.objectType? = some t) : t = "Place" := by
  have h : ∀ s ∈ [person, place], ∀ f ∈ s.fields,
      f.form.objectType? ∈ [none, some "Place"] := by decide
  simpa [ht] using h s hs f hf

theorem mem_of_leads {s : Schema} (h : types.Leads person s) : s ∈ [person, place] := by
  induction h with
  | here => exact List.mem_cons_self
  | field _ hf ht ih =>
    rw [eq_place_of_field ih hf ht]
    exact List.mem_cons_of_mem _ List.mem_cons_self

theorem selfDescribing : types.SelfDescribing person := by
  intro s hs f hf t ht
  rw [eq_place_of_field (mem_of_leads hs) hf ht]
  rfl

def catalogue : Catalogue :=
  Catalogue.registerAll (.empty {})
    [.ofDraw "word" [] .text "" fun _ _ =>
      Draw.next32.bind fun w => .done (.text (if w = 0 then "tick" else "tock"))]

def rules (name : Value) : Value :=
  .map [("home", .map [("city", .text "Rome")]), ("home.city", .text "Paris"), ("name", name),
    ("trips", .list [.map [("city", .text "Bonn")]]), ("work", .null)]

def cityBinding (city : String) : Binding :=
  ⟨place, [⟨"city", ⟨"city", "Place", .value "city" .text⟩, .literal (.text city)⟩]⟩

def binding (name : Spec) : Binding :=
  ⟨person, [
    ⟨"home", ⟨"home", "Person", .nested "home" "Place"⟩, .nested (cityBinding "Paris")⟩,
    ⟨"name", ⟨"name", "Person", .value "name" .text⟩, name⟩,
    ⟨"trips", ⟨"trips", "Person", .list "trips" "Place" "Vec<Place>"⟩,
      .sequence [.nested (cityBinding "Bonn")]⟩,
    ⟨"work", ⟨"work", "Person", .optional "work" "Place" "Option<Place>"⟩, .literal .null⟩]⟩

theorem bindTree_city {city : String} (h : isDirective city = false) (scope : String) :
    bindTree types catalogue place (.cons "city" (some (.text city)) .nil .nil) scope =
      .ok (cityBinding city) := by
  refine bindTree_eq_ok.2 ⟨rfl, rfl, _, bindNodes_cons_eq_ok.2 ⟨_, .literal (.text city), [], rfl,
    rfl, (bindField_eq_ok rfl).2 (.value ?_), bindNodes_nil, rfl⟩, rfl⟩
  simp [classify, h]

theorem compile_rules {v : Value} {name : Spec} (h : classify catalogue v "name" = .ok name) :
    compile types catalogue person (rules v) = .ok (binding name) := by
  refine compile_eq_ok.2 ⟨_, _, rfl, rfl, bindTree_eq_ok.2 ⟨rfl, rfl, _, ?_, rfl⟩⟩
  refine bindNodes_cons_eq_ok.2 ⟨_, _, _, rfl, rfl, (bindField_eq_ok rfl).2 ?home, ?_, rfl⟩
  case home => exact .nested (.map rfl) (bindTree_city rfl _)
  refine bindNodes_cons_eq_ok.2 ⟨_, _, _, rfl, rfl, (bindField_eq_ok rfl).2 (.value h), ?_, rfl⟩
  refine bindNodes_cons_eq_ok.2 ⟨_, _, _, rfl, rfl, (bindField_eq_ok rfl).2 (.list ?trips), ?_, rfl⟩
  case trips =>
    exact bindItems_cons_eq_ok.2
      ⟨_, _, _, _, rfl, rfl, bindTree_city rfl _, bindItems_nil, rfl⟩
  exact bindNodes_cons_eq_ok.2
    ⟨_, _, _, rfl, rfl, (bindField_eq_ok rfl).2 .absent, bindNodes_nil, rfl⟩

def drawnName : Factory := ⟨"Person", binding (.directive ⟨"word", []⟩), catalogue⟩

theorem compile_drawnRules :
    compile types catalogue person (rules (.text "@word")) = .ok drawnName.binding := by
  refine compile_rules ?_
  rw [classify]
  rfl

theorem compile_drawnName :
    Factory.compile types catalogue "Person" (rules (.text "@word")) = .ok drawnName :=
  Factory.compile_eq_ok.2 ⟨rfl, _, compile_drawnRules, rfl, rfl⟩

def givenName : Factory := ⟨"Person", binding (.literal (.text "Ada")), catalogue⟩

theorem compile_givenRules :
    compile types catalogue person (rules (.text "Ada")) = .ok givenName.binding := by
  refine compile_rules ?_
  rw [classify]
  rfl

theorem compile_givenName :
    Factory.compile types catalogue "Person" (rules (.text "Ada")) = .ok givenName :=
  Factory.compile_eq_ok.2 ⟨rfl, _, compile_givenRules, rfl, rfl⟩

end Sample
end Fixture
