import Fixture.Proofs.Contents
import Mathlib.Logic.Relation

/-! One literal of a rule set is replaced by another. The change has a place in the objects to be
generated, and it is followed from the rule set, where a map or a key may stand at any level, to the
path trees that rule sets are merged into. A tree changes at the same place or, where other rules
take precedence, not at all. -/
namespace Fixture

/-- A place in an object: a slot, a place in the object of a slot, or one in an item of a list. -/
inductive Place where
  | field (slot : String)
  | within (slot : String) (p : Place)
  | item (slot : String) (i : Nat) (p : Place)

section Relations
variable (types : Types)

mutual
/-- The values of a field of a form differ in one literal. -/
inductive ValueChange : FieldForm → Place → Value → Value → Prop
  | literal {slot : String} {t : FieldType} {v v' : Value} (h : v.IsLiteral) (h' : v'.IsLiteral) :
      ValueChange (.value slot t) (.field slot) v v'
  | nested {slot : String} {t : TypeName} {p : Place} {es es' : List (String × Value)}
      (h : EntriesChange (types t) p es es') :
      ValueChange (.nested slot t) (.within slot p) (.map es) (.map es')
  | optional {slot declared : String} {t : TypeName} {p : Place} {es es' : List (String × Value)}
      (h : EntriesChange (types t) p es es') :
      ValueChange (.optional slot t declared) (.within slot p) (.map es) (.map es')
  | item {slot declared : String} {t : TypeName} {p : Place} {before after : List Value}
      {es es' : List (String × Value)} (h : EntriesChange (types t) p es es') :
      ValueChange (.list slot t declared) (.item slot before.length p)
        (.list (before ++ .map es :: after)) (.list (before ++ .map es' :: after))

/-- The values at the end of a path differ in one literal. The path leads through nested fields. -/
inductive PathChange : Schema → List String → Place → Value → Value → Prop
  | last {schema : Schema} {s : String} {field : Field} {p : Place} {v v' : Value}
      (declared : schema.field? s = some field) (h : ValueChange field.form p v v') :
      PathChange schema [s] p v v'
  | step {schema : Schema} {s slot : String} {ss : List String} {field : Field} {t : TypeName}
      {p : Place} {v v' : Value} (declared : schema.field? s = some field)
      (type : field.form.nestedType? = some t) (kept : field.form.slot? = some slot)
      (h : PathChange (types t) ss p v v') : PathChange schema (s :: ss) (.within slot p) v v'

/-- Rules of a type have the same keys and differ in one literal. -/
inductive EntriesChange : Schema → Place → List (String × Value) → List (String × Value) → Prop
  | intro {schema : Schema} {key : String} {p : Place} {v v' : Value}
      {before after : List (String × Value)} (h : PathChange schema (Value.segments key) p v v') :
      EntriesChange schema p (before ++ (key, v) :: after) (before ++ (key, v') :: after)
end

/-- Trees of rules of a type have the same nodes and differ in one literal. -/
inductive TreeChange : Schema → Place → PathTree → PathTree → Prop
  | own {schema : Schema} {s : String} {field : Field} {p : Place} {v v' : Value}
      {c r : PathTree} (declared : schema.field? s = some field)
      (h : ValueChange types field.form p v v') :
      TreeChange schema p (.cons s (some v) c r) (.cons s (some v') c r)
  | children {schema : Schema} {s slot : String} {field : Field} {t : TypeName} {p : Place}
      {d : Option Value} {c c' r : PathTree} (declared : schema.field? s = some field)
      (type : field.form.nestedType? = some t) (kept : field.form.slot? = some slot)
      (h : TreeChange (types t) p c c') :
      TreeChange schema (.within slot p) (.cons s d c r) (.cons s d c' r)
  | rest {schema : Schema} {s : String} {p : Place} {d : Option Value} {c r r' : PathTree}
      (h : TreeChange schema p r r') : TreeChange schema p (.cons s d c r) (.cons s d c r')

/-- The nodes of a field differ in one literal of their own values or of the nodes below. -/
inductive NodeChange (form : FieldForm) :
    Place → Option Value × PathTree → Option Value × PathTree → Prop
  | own {p : Place} {v v' : Value} {c : PathTree} (h : ValueChange types form p v v') :
      NodeChange form p (some v, c) (some v', c)
  | children {slot : String} {t : TypeName} {p : Place} {d : Option Value} {c c' : PathTree}
      (type : form.nestedType? = some t) (kept : form.slot? = some slot)
      (h : TreeChange types (types t) p c c') : NodeChange form (.within slot p) (d, c) (d, c')

end Relations

open Relation (ReflGen)

theorem reflGen_bind {α β : Type} {r : α → α → Prop} {r' : β → β → Prop} {f : α → β} {a b : α}
    (hf : ∀ a b, r a b → ReflGen r' (f a) (f b)) (h : ReflGen r a b) : ReflGen r' (f a) (f b) := by
  cases h with
  | refl => exact .refl
  | single h => exact hf _ _ h

theorem reflGen_map {α β : Type} {r : α → α → Prop} {r' : β → β → Prop} {f : α → β} {a b : α}
    (hf : ∀ a b, r a b → r' (f a) (f b)) (h : ReflGen r a b) : ReflGen r' (f a) (f b) :=
  reflGen_bind (fun a b h => .single (hf a b h)) h

variable {types : Types} {schema : Schema} {place : Place} {field : Field} {segment : String}

theorem insertAll_cons_pair {scope key : String} {v v' : Value} {es es' : List (String × Value)}
    {t t' u u' : PathTree} (hu : PathTree.insertAll scope ((key, v) :: es) t = .ok u)
    (hu' : PathTree.insertAll scope ((key, v') :: es') t' = .ok u') :
    ∃ s ss, Value.segments key = s :: ss ∧
      PathTree.insertAll scope es (PathTree.insert s v ss t) = .ok u ∧
      PathTree.insertAll scope es' (PathTree.insert s v' ss t') = .ok u' := by
  obtain ⟨w, hw, hu⟩ := PathTree.insertAll_cons_eq_ok hu
  obtain ⟨w', hw', hu'⟩ := PathTree.insertAll_cons_eq_ok hu'
  obtain ⟨-, s, ss, hs, rfl⟩ := PathTree.insertPath_eq_ok hw
  obtain ⟨-, _, _, hs', rfl⟩ := PathTree.insertPath_eq_ok hw'
  cases hs.symm.trans hs'
  exact ⟨s, ss, hs, hu, hu'⟩

namespace TreeChange

theorem of_node {n n' : Option Value × PathTree} {r : PathTree}
    (hf : schema.field? segment = some field) (h : NodeChange types field.form place n n') :
    TreeChange types schema place (.cons segment n.1 n.2 r) (.cons segment n'.1 n'.2 r) := by
  cases h with
  | own h => exact .own hf h
  | children ht hs h => exact .children hf ht hs h

theorem of_nodes {n n' : Option Value × PathTree} {r : PathTree}
    (hf : schema.field? segment = some field)
    (h : ReflGen (NodeChange types field.form place) n n') :
    ReflGen (TreeChange types schema place) (.cons segment n.1 n.2 r) (.cons segment n'.1 n'.2 r) :=
  reflGen_map (f := fun n : Option Value × PathTree => PathTree.cons segment n.1 n.2 r)
    (fun _ _ => of_node hf) h

/-- A function of nodes that keeps the difference of two nodes, or removes it, does so in trees. -/
theorem alter {f : Option Value → PathTree → Option Value × PathTree} {t t' : PathTree}
    (hf : ∀ field, schema.field? segment = some field → ∀ p n n',
      NodeChange types field.form p n n' →
        ReflGen (NodeChange types field.form p) (f n.1 n.2) (f n'.1 n'.2))
    (h : TreeChange types schema place t t') :
    ReflGen (TreeChange types schema place) (PathTree.alter segment f t)
      (PathTree.alter segment f t') := by
  induction h with
  | own hs h =>
    simp only [PathTree.alter]
    split
    · rename_i he
      subst he
      exact of_nodes hs (hf _ hs _ _ _ (.own h))
    · exact .single (.own hs h)
  | children hs ht hk h =>
    simp only [PathTree.alter]
    split
    · rename_i he
      subst he
      exact of_nodes hs (hf _ hs _ _ _ (.children ht hk h))
    · exact .single (.children hs ht hk h)
  | rest h ih =>
    simp only [PathTree.alter]
    split
    · exact .single (.rest h)
    · exact reflGen_map (fun _ _ => .rest) (ih hf)

/-- Two functions of nodes that differ at a place make the same difference in a tree. -/
theorem alter_of_nodes {f f' : Option Value → PathTree → Option Value × PathTree}
    (hs : schema.field? segment = some field)
    (hf : ∀ d c, ReflGen (NodeChange types field.form place) (f d c) (f' d c)) (t : PathTree) :
    ReflGen (TreeChange types schema place) (PathTree.alter segment f t)
      (PathTree.alter segment f' t) := by
  induction t with
  | nil => exact of_nodes hs (hf none .nil)
  | cons s d c r _ ih =>
    simp only [PathTree.alter]
    split
    · rename_i he
      subst he
      exact of_nodes hs (hf d c)
    · exact reflGen_map (fun _ _ => .rest) ih

theorem insert {s : String} {v : Value} {ss : List String} {t t' : PathTree}
    (h : TreeChange types schema place t t') :
    ReflGen (TreeChange types schema place) (PathTree.insert s v ss t)
      (PathTree.insert s v ss t') := by
  induction ss generalizing s schema place t t' with
  | nil =>
    refine h.alter fun field _ p n n' hn => ?_
    cases hn with
    | own =>
      -- the new value replaces both
      exact .refl
    | children ht hk h => exact .single (.children ht hk h)
  | cons s' ss ih =>
    refine h.alter fun field _ p n n' hn => ?_
    cases hn with
    | own h => exact .single (.own h)
    | children ht hk h => exact reflGen_map (fun _ _ => .children ht hk) (ih h)

theorem insertAll {scope : String} {es : List (String × Value)} {t t' u u' : PathTree}
    (h : ReflGen (TreeChange types schema place) t t') (hu : PathTree.insertAll scope es t = .ok u)
    (hu' : PathTree.insertAll scope es t' = .ok u') :
    ReflGen (TreeChange types schema place) u u' := by
  induction es generalizing t t' with
  | nil =>
    cases hu
    cases hu'
    exact h
  | cons e es ih =>
    obtain ⟨s, ss, -, hu, hu'⟩ := insertAll_cons_pair hu hu'
    exact ih (reflGen_bind (fun _ _ h => h.insert) h) hu hu'

theorem overlay_base {base base' : PathTree} (h : TreeChange types schema place base base')
    (top : PathTree) :
    ReflGen (TreeChange types schema place) (base.overlay top) (base'.overlay top) := by
  induction top generalizing schema place base base' with
  | nil => exact .single h
  | cons s d c r ihc ihr =>
    refine reflGen_bind (f := (PathTree.overlay · r)) (fun _ _ h => ihr h) (h.alter ?_)
    intro field _ p n n' hn
    cases hn with
    | own h =>
      cases d with
      | none => exact .single (.own h)
      | some w =>
        -- the value on top hides both
        exact .refl
    | children ht hk h => exact reflGen_map (fun _ _ => .children ht hk) (ihc h)

theorem overlay_top {top top' : PathTree} (h : TreeChange types schema place top top')
    (base : PathTree) :
    ReflGen (TreeChange types schema place) (base.overlay top) (base.overlay top') := by
  induction h generalizing base with
  | @own schema s field p v v' c r hs h =>
    refine reflGen_bind (f := (PathTree.overlay · r)) (fun _ _ h => overlay_base h r) ?_
    exact alter_of_nodes hs (fun d' c' => .single (.own h)) base
  | @children schema s slot field t p d c c' r hs ht hk h ih =>
    refine reflGen_bind (f := (PathTree.overlay · r)) (fun _ _ h => overlay_base h r) ?_
    exact alter_of_nodes hs (fun d' c' => reflGen_map (fun _ _ => .children ht hk) (ih c')) base
  | rest h ih => exact ih _

theorem of_pathChange {s : String} {ss : List String} {v v' : Value}
    (h : PathChange types schema (s :: ss) place v v') (t : PathTree) :
    ReflGen (TreeChange types schema place) (PathTree.insert s v ss t)
      (PathTree.insert s v' ss t) := by
  induction ss generalizing s schema place t with
  | nil =>
    cases h with
    | last hs h => exact alter_of_nodes hs (fun d c => .single (.own h)) t
    | step _ _ _ h => cases h
  | cons s' ss ih =>
    cases h with
    | step hs ht hk h =>
      exact alter_of_nodes hs (fun d c => reflGen_map (fun _ _ => .children ht hk) (ih h c)) t

theorem of_entriesChange {scope : String} {es es' : List (String × Value)} {t t' : PathTree}
    (h : EntriesChange types schema place es es') (ht : PathTree.ofEntries scope es = .ok t)
    (ht' : PathTree.ofEntries scope es' = .ok t') :
    ReflGen (TreeChange types schema place) t t' := by
  cases h with
  | @intro _ key _ v v' before after h =>
  unfold PathTree.ofEntries at ht ht'
  generalize PathTree.nil = start at ht ht'
  induction before generalizing start with
  | nil =>
    obtain ⟨s, ss, hs, ht, ht'⟩ := insertAll_cons_pair ht ht'
    exact insertAll (of_pathChange (hs ▸ h) start) ht ht'
  | cons e before ih =>
    obtain ⟨s, ss, -, ht, ht'⟩ := insertAll_cons_pair ht ht'
    exact ih _ ht ht'

end TreeChange

end Fixture
