import Fixture.Catalogue.Basic
import Fixture.Directive
import Fixture.Object
import Fixture.Rules.Tree

/-! Rule sets compiled for a type into bindings: one rule for each field that is written. Every
directive is checked, so a compiled rule can fail later only by what a directive draws. -/
namespace Fixture

mutual
inductive Spec where
  /-- The same value for every object. -/
  | literal (v : Value)
  /-- A value of its own for every object. -/
  | directive (c : Call)
  /-- An object of the field's type by rules of its own. -/
  | nested (b : Binding)
  | sequence (items : List Spec)

structure Rule where
  segment : String
  field : Field
  spec : Spec

structure Binding where
  schema : Schema
  rules : List Rule
end

mutual
/-- Equality of bindings: the same type and the same rules, values being compared as values. -/
def Binding.same : Binding → Binding → Bool
  | ⟨s, rs⟩, ⟨t, qs⟩ => s.type == t.type && sameRules rs qs

def sameRules : List Rule → List Rule → Bool
  | [], [] => true
  | ⟨s, _, x⟩ :: rs, ⟨t, _, y⟩ :: qs => s == t && x.same y && sameRules rs qs
  | _, _ => false

def Spec.same : Spec → Spec → Bool
  | .literal v, .literal w => v.same w
  | .directive c, .directive d => c.same d
  | .nested a, .nested b => a.same b
  | .sequence xs, .sequence ys => sameSpecs xs ys
  | _, _ => false

def sameSpecs : List Spec → List Spec → Bool
  | [], [] => true
  | x :: xs, y :: ys => x.same y && sameSpecs xs ys
  | _, _ => false
end

namespace Binding

def rule? (b : Binding) (segment : String) : Option Rule := b.rules.find? (·.segment == segment)

end Binding

variable (types : Types) (catalogue : Catalogue)

mutual
/-- The specification of a value field: directive texts and arrays are told from literals. -/
def classify : Value → String → Except Fault Spec
  | .text s, path =>
    if isDirective s then
      match Call.parse s.toList with
      | .error p => .error (.malformed path (.directive p))
      | .ok c => (catalogue.check c).map fun _ => .directive c
    else .ok (.literal (.text s))
  | .list items, path => (classifyItems items path 0).map .sequence
  | v, _ => .ok (.literal v)

def classifyItems : List Value → String → Nat → Except Fault (List Spec)
  | [], _, _ => .ok []
  | v :: vs, path, i => do
    let x ← classify v (itemPath path i)
    let xs ← classifyItems vs path (i + 1)
    return x :: xs
end

theorem lex_of_le {a b : Nat} {x y : Nat × Nat} (h : a ≤ b)
    (hxy : Prod.Lex (· < ·) (· < ·) x y) :
    Prod.Lex (· < ·) (Prod.Lex (· < ·) (· < ·)) (a, x) (b, y) := by
  rcases Nat.lt_or_ge a b with hlt | hge
  · exact Prod.Lex.left _ _ hlt
  · rw [Nat.le_antisymm h hge]
    exact Prod.Lex.right _ hxy

mutual
/-- The binding of a type for a tree of rules. -/
def bindTree (schema : Schema) (tree : PathTree) (scope : String) : Except Fault Binding :=
  match schema.repeated? with
  | some name =>
    .error (.malformed (if scope = "" then rootPath else scope) (.repeatedField schema.name name))
  | none =>
    if schema.initial.isSome then (bindNodes schema tree scope).map fun rules => ⟨schema, rules⟩
    else .error (.notConstructible schema.name .noConstructor)
termination_by (tree.depth, 2, 0)

def bindNodes (schema : Schema) (tree : PathTree) (scope : String) : Except Fault (List Rule) :=
  match tree with
  | .nil => .ok []
  | .cons segment direct children rest =>
    match schema.field? segment with
    | none =>
      .error (.malformed (joinPath scope segment) (.unknownField schema.name segment))
    | some field =>
      if field.form.isAssignable then do
        let spec ← bindField field.form direct children (joinPath scope segment)
        let rules ← bindNodes schema rest scope
        return ⟨segment, field, spec⟩ :: rules
      else .error (.notAssignable schema.name segment)
termination_by (tree.depth, 1, tree.breadth)
decreasing_by
  · refine Prod.Lex.left _ _ ?_
    simp only [PathTree.depth]
    omega
  · exact lex_of_le (Nat.le_max_right _ _) (Prod.Lex.right _ (Nat.lt_succ_self _))

/-- The specification of one field, from its own value and the rules below it. -/
def bindField (form : FieldForm) (direct : Option Value) (children : PathTree) (path : String) :
    Except Fault Spec :=
  match form with
  | .value .. | .readOnly _ =>
    if children.isEmpty then
      match direct with
      | some v => classify catalogue v path
      | none => .error (.malformed path .missingValue)
    else .error (.malformed path .notNested)
  | .nested _ type => bindNested type false direct children path
  | .optional _ type _ => bindNested type true direct children path
  | .list _ type _ =>
    if children.isEmpty then
      match direct with
      | some (.list items) => (bindItems (types type) items path 0).map .sequence
      | some v => .error (.malformed path (.notList v.describe))
      | none => .error (.malformed path .missingValue)
    else .error (.malformed path .insideList)
termination_by (max (directDepth direct) children.depth, 4, 0)
decreasing_by
  · exact Prod.Lex.right _ (Prod.Lex.left _ _ (by decide))
  · exact Prod.Lex.right _ (Prod.Lex.left _ _ (by decide))
  · exact lex_of_le (Nat.le_max_left _ _) (Prod.Lex.left _ _ (by decide))

/-- The rules of a nested field: those of its own map with the deeper ones laid over them. Deeper
rules alone take the place of a value that is no map. -/
def bindNested (type : TypeName) (orNull : Bool) (direct : Option Value) (children : PathTree)
    (path : String) : Except Fault Spec :=
  match direct with
  | none => (bindTree (types type) children path).map .nested
  | some (.map entries) =>
    match _h : PathTree.ofEntries path entries with
    | .ok tree => (bindTree (types type) (tree.overlay children) path).map .nested
    | .error e => .error e
  | some v =>
    if children.isEmpty then
      match orNull, v with
      | true, .null => .ok (.literal .null)
      | _, v => .error (.malformed path (.notObject orNull v.describe))
    else (bindTree (types type) children path).map .nested
termination_by (max (directDepth direct) children.depth, 3, 0)
decreasing_by
  · exact lex_of_le (Nat.le_max_right _ _) (Prod.Lex.left _ _ (by decide))
  · have := PathTree.depth_ofEntries_le _h
    refine lex_of_le (PathTree.depth_overlay_le _ _ ?_ (Nat.le_max_right _ _))
      (Prod.Lex.left _ _ (by decide))
    exact Nat.le_trans this (Nat.le_max_left _ _)
  · exact lex_of_le (Nat.le_max_right _ _) (Prod.Lex.left _ _ (by decide))

/-- The rules of the items of a list field. -/
def bindItems (schema : Schema) (items : List Value) (path : String) (i : Nat) :
    Except Fault (List Spec) :=
  match items with
  | [] => .ok []
  | .map entries :: rest =>
    match _h : PathTree.ofEntries (itemPath path i) entries with
    | .ok tree => do
      let b ← bindTree schema tree (itemPath path i)
      let specs ← bindItems schema rest path (i + 1)
      return .nested b :: specs
    | .error e => .error e
  | v :: _ => .error (.malformed (itemPath path i) (.notItem v.describe))
termination_by (Value.itemsDepth items, 3, items.length)
decreasing_by
  · refine lex_of_le (Nat.le_trans (PathTree.depth_ofEntries_le _h) ?_)
      (Prod.Lex.left _ _ (by decide))
    exact Nat.le_max_left _ _
  · exact lex_of_le (Nat.le_max_right _ _) (Prod.Lex.right _ (Nat.lt_succ_self _))
end

/-- A rule set for the type of a schema. -/
def compile (schema : Schema) (rules : Value) : Except Fault Binding :=
  match rules with
  | .map entries =>
    match PathTree.ofEntries "" entries with
    | .ok tree => bindTree types catalogue schema tree ""
    | .error e => .error e
  | v => .error (.malformed rootPath (.notMapping v.describe))

end Fixture
