import Fixture.Proofs.AcceptedLiterals
import Fixture.Proofs.TwinBindings

/-! What a change of one literal does to generated objects. The literal is written where the other
one was, and nothing else depends on it: with every source both rule sets fail in the same way, or
both give objects, with the same words of the source, that differ at one place only. -/
namespace Fixture

namespace Outcome
variable {ε ε' α β γ δ : Type} {R : α → β → Prop} {S : γ → δ → Prop}

/-- Both computations fail in the same way, or come to related values. -/
inductive Pairs (R : α → β → Prop) : Except ε α → Except ε β → Prop
  | error (e : ε) : Pairs R (.error e) (.error e)
  | ok {a : α} {b : β} (h : R a b) : Pairs R (.ok a) (.ok b)

theorem Pairs.refl {R : α → α → Prop} (h : ∀ a, R a a) (x : Except ε α) : Pairs R x x := by
  cases x with
  | error e => exact .error e
  | ok a => exact .ok (h a)

theorem Pairs.bind {x : Except ε α} {y : Except ε β} {f : α → Except ε γ} {g : β → Except ε δ}
    (h : Pairs R x y) (hf : ∀ a b, R a b → Pairs S (f a) (g b)) : Pairs S (x >>= f) (y >>= g) := by
  cases h with
  | error e => exact .error e
  | ok h => exact hf _ _ h

theorem Pairs.map {x : Except ε α} {y : Except ε β} {f : α → γ} {g : β → δ}
    (h : Pairs R x y) (hf : ∀ a b, R a b → S (f a) (g b)) : Pairs S (x.map f) (y.map g) := by
  cases h with
  | error e => exact .error e
  | ok h => exact .ok (hf _ _ h)

theorem Pairs.mapError {x : Except ε α} {y : Except ε β} (h : Pairs R x y) (f : ε → ε') :
    Pairs R (x.mapError f) (y.mapError f) := by
  cases h with
  | error e => exact .error (f e)
  | ok h => exact .ok h

end Outcome

namespace Attempt
variable {ε α β γ δ : Type} {R : α → β → Prop} {S : γ → δ → Prop}

/-- With every source both attempts leave the same of it, and both fail in the same way or come to
related values. -/
def Alike (R : α → β → Prop) (x : Attempt ε α) (y : Attempt ε β) : Prop :=
  ∀ (σ : Type) (source : Source σ) (s : σ), ∃ r r' t, x.outcome source s = (r, t) ∧
    y.outcome source s = (r', t) ∧ Outcome.Pairs R r r'

theorem alike_refl {R : α → α → Prop} (h : ∀ a, R a a) (x : Attempt ε α) : Alike R x x := by
  intro σ source s
  exact ⟨_, _, _, rfl, rfl, .refl h _⟩

theorem alike_pure {a : α} {b : β} (h : R a b) :
    Alike R (pure a : Attempt ε α) (pure b : Attempt ε β) := by
  intro σ source s
  exact ⟨_, _, _, outcome_pure source s a, outcome_pure source s b, .ok h⟩

theorem alike_lift {x : Except ε α} {y : Except ε β} (h : Outcome.Pairs R x y) :
    Alike R (liftM x : Attempt ε α) (liftM y : Attempt ε β) := by
  intro σ source s
  exact ⟨_, _, _, outcome_lift source s x, outcome_lift source s y, h⟩

theorem alike_throw (e : ε) : Alike R (throw e : Attempt ε α) (throw e : Attempt ε β) := by
  intro σ source s
  exact ⟨_, _, _, outcome_throw source s e, outcome_throw source s e, .error e⟩

theorem Alike.bind {x : Attempt ε α} {y : Attempt ε β} {f : α → Attempt ε γ} {g : β → Attempt ε δ}
    (h : Alike R x y) (hf : ∀ a b, R a b → Alike S (f a) (g b)) : Alike S (x >>= f) (y >>= g) := by
  intro σ source s
  obtain ⟨r, r', t, hx, hy, hr⟩ := h σ source s
  rw [outcome_bind, outcome_bind, hx, hy]
  cases hr with
  | error e => exact ⟨_, _, t, rfl, rfl, .error e⟩
  | ok hr => exact hf _ _ hr σ source t

theorem alike_bind (x : Attempt ε α) {f : α → Attempt ε γ} {g : α → Attempt ε δ}
    (hf : ∀ a, Alike S (f a) (g a)) : Alike S (x >>= f) (x >>= g) := by
  refine Alike.bind (alike_refl (R := Eq) (fun _ => rfl) x) ?_
  rintro a _ rfl
  exact hf a

end Attempt

open Attempt (Alike)
open Outcome (Pairs)

section Objects

/-- The objects are of one type and have the same in every slot but one. -/
structure Object.Apart (slot : String) (R : Option Content → Option Content → Prop)
    (o o' : Object) : Prop where
  type : o.type = o'.type
  others : ∀ other, other ≠ slot → o.get? other = o'.get? other
  content : R (o.get? slot) (o'.get? slot)

/-- The same contents, or one object for another. -/
inductive Content.Within (R : Object → Object → Prop) : Option Content → Option Content → Prop
  | same (c : Option Content) : Within R c c
  | one {o o' : Object} (h : R o o') : Within R (some (.one o)) (some (.one o'))
  | optional {o o' : Object} (h : R o o') :
      Within R (some (.optional (some o))) (some (.optional (some o')))

/-- The lists have the same objects but for one position. -/
inductive Object.OneApart (R : Object → Object → Prop) : Nat → List Object → List Object → Prop
  | here {o o' : Object} {os : List Object} (h : R o o') : OneApart R 0 (o :: os) (o' :: os)
  | later {o : Object} {os os' : List Object} {i : Nat} (h : OneApart R i os os') :
      OneApart R (i + 1) (o :: os) (o :: os')

/-- The same contents, or lists of objects with one at a position for another. -/
inductive Content.AtItem (R : Object → Object → Prop) (i : Nat) :
    Option Content → Option Content → Prop
  | same (c : Option Content) : AtItem R i c c
  | many {os os' : List Object} (h : Object.OneApart R i os os') :
      AtItem R i (some (.many os)) (some (.many os'))

/-- The objects agree in everything but what stands at a place. -/
def Object.AgreesBut : Place → Object → Object → Prop
  | .field slot => Apart slot fun _ _ => True
  | .within slot p => Apart slot (Content.Within (AgreesBut p))
  | .item slot i p => Apart slot (Content.AtItem (AgreesBut p) i)

namespace Object
variable {slot : String} {R : Option Content → Option Content → Prop} {o o' : Object} {p : Place}

theorem apart_refl (hR : ∀ c, R c c) (o : Object) : Apart slot R o o :=
  ⟨rfl, fun _ _ => rfl, hR _⟩

theorem get?_set (o : Object) (slot other : String) (c : Content) :
    (o.set slot c).get? other = if other = slot then some c else o.get? other := by
  by_cases h : other = slot
  · rw [if_pos h, h, get?_set_self]
  · rw [if_neg h, get?_set_of_ne o h]

theorem Apart.set (hR : ∀ c, R c c) (h : Apart slot R o o') (other : String) (c : Content) :
    Apart slot R (o.set other c) (o'.set other c) := by
  refine ⟨h.type, fun name hn => ?_, ?_⟩
  · rw [get?_set, get?_set, h.others name hn]
  · rw [get?_set, get?_set]
    split
    · exact hR _
    · exact h.content

theorem apart_set (o : Object) {c c' : Content} (h : R (some c) (some c')) :
    Apart slot R (o.set slot c) (o.set slot c') := by
  refine ⟨rfl, fun other hn => ?_, ?_⟩
  · rw [get?_set_of_ne o hn, get?_set_of_ne o hn]
  · rw [get?_set_self, get?_set_self]
    exact h

theorem AgreesBut.type (h : o.AgreesBut p o') : o.type = o'.type := by
  cases p with
  | field | within | item => exact Apart.type h

theorem agreesBut_refl (p : Place) (o : Object) : o.AgreesBut p o := by
  cases p with
  | field slot => exact apart_refl (fun _ => trivial) o
  | within slot p => exact apart_refl .same o
  | item slot i p => exact apart_refl .same o

theorem AgreesBut.set (h : o.AgreesBut p o') (slot : String) (c : Content) :
    (o.set slot c).AgreesBut p (o'.set slot c) := by
  cases p with
  | field => exact Apart.set (fun _ => trivial) h slot c
  | within => exact Apart.set .same h slot c
  | item => exact Apart.set .same h slot c

end Object
end Objects

section Writes
variable {form : FieldForm} {p : Place} {a a' : Assignment}

/-- Written to an object, the assignments give objects that agree in everything but a place. -/
def Assignment.Near (form : FieldForm) (p : Place) (a a' : Assignment) : Prop :=
  ∀ o : Object, Pairs (fun w w' => (o.set w.1 w.2).AgreesBut p (o.set w'.1 w'.2)) (form.content a)
    (form.content a')

theorem Object.ofType_pairs {o o' : Object} (h : o.type = o'.type) (t : TypeName) :
    Pairs (fun x x' => x = o ∧ x' = o') (o.ofType t) (o'.ofType t) := by
  unfold Object.ofType
  rw [← h]
  split
  · exact .ok ⟨rfl, rfl⟩
  · exact .error _

theorem Object.mapM_ofType_pairs {os os' : List Object} (t : TypeName)
    (h : os.map Object.type = os'.map Object.type) :
    Pairs (fun x x' => x = os ∧ x' = os') (os.mapM (Object.ofType t) : Except Mismatch _)
      (os'.mapM (Object.ofType t) : Except Mismatch _) := by
  induction os generalizing os' with
  | nil =>
    cases os' with
    | nil => exact .ok ⟨rfl, rfl⟩
    | cons => cases h
  | cons o os ih =>
    cases os' with
    | nil => cases h
    | cons o' os' =>
      obtain ⟨ho, hos⟩ := List.cons.inj h
      rw [List.mapM_cons, List.mapM_cons]
      refine (Object.ofType_pairs ho t).bind ?_
      rintro _ _ ⟨rfl, rfl⟩
      refine (ih hos).bind ?_
      rintro _ _ ⟨rfl, rfl⟩
      exact .ok ⟨rfl, rfl⟩

theorem Object.OneApart.map_type {os os' : List Object} {i : Nat}
    (h : Object.OneApart (Object.AgreesBut p) i os os') :
    os.map Object.type = os'.map Object.type := by
  induction h with
  | here h => rw [List.map_cons, List.map_cons, h.type]
  | later _ ih => rw [List.map_cons, List.map_cons, ih]

theorem Assignment.Near.object {slot : String} {t : TypeName} {o o' : Object}
    (ht : form.nestedType? = some t) (hk : form.slot? = some slot) (ho : o.AgreesBut p o') :
    Near form (.within slot p) (.object o) (.object o') := by
  intro target
  cases form with
  | nested =>
    cases ht
    cases hk
    refine (Object.ofType_pairs ho.type t).map ?_
    rintro _ _ ⟨rfl, rfl⟩
    exact Object.apart_set target (.one ho)
  | optional =>
    cases ht
    cases hk
    refine (Object.ofType_pairs ho.type t).map ?_
    rintro _ _ ⟨rfl, rfl⟩
    exact Object.apart_set target (.optional ho)
  | value | readOnly | list => cases ht

theorem Assignment.Near.objects {slot declared : String} {t : TypeName} {i : Nat}
    {os os' : List Object} (h : Object.OneApart (Object.AgreesBut p) i os os') :
    Near (.list slot t declared) (.item slot i p) (.objects os) (.objects os') := by
  intro target
  refine (Object.mapM_ofType_pairs t h.map_type).map ?_
  rintro _ _ ⟨rfl, rfl⟩
  exact Object.apart_set target (.many h)

/-- A write depends on the type of the object alone. -/
theorem writeField_pairs {R : Object → Object → Prop} {o o' : Object} {field : Field}
    {segment path : String} (ht : o.type = o'.type)
    (hc : Pairs (fun w w' => R (o.set w.1 w.2) (o'.set w'.1 w'.2)) (field.form.content a)
      (field.form.content a')) :
    Pairs R (writeField o field segment path a) (writeField o' field segment path a') := by
  unfold writeField Field.assign
  rw [← ht]
  split
  · refine (Pairs.mapError ?_ _).mapError _
    refine (Object.ofType_pairs ht field.owner).bind ?_
    rintro _ _ ⟨rfl, rfl⟩
    exact hc.bind fun _ _ hw => .ok hw
  · exact .error _

end Writes

section Fit

theorem Binding.Holds.trans {root b c : Binding} {scope scope' : String} (h : root.Holds b scope)
    (h' : b.Holds c scope') : ∃ scope'', root.Holds c scope'' := by
  induction h' with
  | root => exact ⟨scope, h⟩
  | nested _ hr hs ih =>
    obtain ⟨_, hh⟩ := ih
    exact ⟨_, hh.nested hr hs⟩
  | item _ hr hs hi ih =>
    obtain ⟨_, hh⟩ := ih
    exact ⟨_, hh.item hr hs hi⟩

theorem Binding.LiteralsFit.of_holds {root b : Binding} {scope : String} (h : root.LiteralsFit)
    (hh : root.Holds b scope) : b.LiteralsFit := by
  intro c scope' hc r hr slot t v
  obtain ⟨_, hroot⟩ := hh.trans hc
  exact h c _ hroot r hr slot t v

/-- The literals of a rule fit its field, those of nested rules at any depth. -/
structure Spec.LiteralsFit (form : FieldForm) (spec : Spec) : Prop where
  value : ∀ slot t v, form = .value slot t → spec.literal? = some v → ∃ x, t.coerce v = .ok x
  nested : ∀ b, spec = .nested b → b.LiteralsFit
  item : ∀ items b, spec = .sequence items → .nested b ∈ items → b.LiteralsFit

theorem Binding.LiteralsFit.rule {b : Binding} (h : b.LiteralsFit) {r : Rule} (hr : r ∈ b.rules) :
    r.spec.LiteralsFit r.field.form where
  value slot t v hf hl := h b "" .root r hr slot t v hf hl
  nested b' hs := h.of_holds (.nested .root hr hs)
  item items b' hs hb := by
    obtain ⟨i, hi⟩ := List.getElem?_of_mem hb
    exact h.of_holds (.item .root hr hs hi)

end Fit

section Build
variable {catalogue : Catalogue} {p : Place} {o o' : Object} {scope : String}

theorem buildRules_alike {rules : List Rule} (h : o.AgreesBut p o') :
    Alike (Object.AgreesBut p) (buildRules catalogue rules scope o)
      (buildRules catalogue rules scope o') := by
  induction rules generalizing o o' with
  | nil => exact Attempt.alike_pure h
  | cons r rules ih =>
    obtain ⟨segment, field, spec⟩ := r
    rw [buildRules, buildRules]
    refine Attempt.alike_bind _ fun a => ?_
    refine (Attempt.alike_lift (writeField_pairs h.type ?_)).bind fun _ _ hw => ih hw
    exact .refl (fun w => h.set w.1 w.2) _

/-- Rules that differ in what one of them hands to its field. -/
theorem buildRules_alike_of_assignment {segment : String} {field : Field} {spec spec' : Spec}
    (h : ∀ path, Alike (Assignment.Near field.form p) (spec.assignment catalogue field.form path)
      (spec'.assignment catalogue field.form path)) (before after : List Rule) (o : Object) :
    Alike (Object.AgreesBut p)
      (buildRules catalogue (before ++ ⟨segment, field, spec⟩ :: after) scope o)
      (buildRules catalogue (before ++ ⟨segment, field, spec'⟩ :: after) scope o) := by
  induction before generalizing o with
  | nil =>
    rw [List.nil_append, List.nil_append, buildRules, buildRules]
    refine (h _).bind fun a a' ha => ?_
    exact (Attempt.alike_lift (writeField_pairs rfl (ha o))).bind fun _ _ hw => buildRules_alike hw
  | cons r before ih =>
    obtain ⟨segment', field', first⟩ := r
    rw [List.cons_append, List.cons_append, buildRules, buildRules]
    exact Attempt.alike_bind _ fun a => Attempt.alike_bind _ fun o₁ => ih o₁

/-- Twins are built alike if the rules in which they differ are carried out alike. -/
theorem build_alike_of_assignment {b b' : Binding} (h : Binding.Twin p b b')
    (hfit : b.LiteralsFit) (hfit' : b'.LiteralsFit)
    (ha : ∀ {form spec spec'}, Spec.Twin form p spec spec' → spec.LiteralsFit form →
      spec'.LiteralsFit form → ∀ path, Alike (Assignment.Near form p)
        (spec.assignment catalogue form path) (spec'.assignment catalogue form path)) :
    Alike (Object.AgreesBut p) (b.build catalogue scope) (b'.build catalogue scope) := by
  cases h with
  | @intro schema segment field _ spec spec' before after h =>
    rw [Binding.build, Binding.build]
    refine Attempt.alike_bind _ fun o => ?_
    refine buildRules_alike_of_assignment (fun path => ?_) before after o
    exact ha h (hfit.rule (r := ⟨segment, field, spec⟩) (by simp))
      (hfit'.rule (r := ⟨segment, field, spec'⟩) (by simp)) path

theorem buildItems_alike {R : Object → Object → Prop} {b b' : Binding}
    (h : ∀ path, Alike R (b.build catalogue path) (b'.build catalogue path))
    (before after : List Spec) (path : String) (i : Nat) :
    Alike (Object.OneApart R before.length)
      (buildItems catalogue (before ++ .nested b :: after) path i)
      (buildItems catalogue (before ++ .nested b' :: after) path i) := by
  induction before generalizing i with
  | nil =>
    rw [List.nil_append, List.nil_append, buildItems, buildItems]
    exact (h _).bind fun o o' ho => Attempt.alike_bind _ fun os => Attempt.alike_pure (.here ho)
  | cons x before ih =>
    rw [List.cons_append, List.cons_append]
    cases x with
    | nested first =>
      rw [buildItems, buildItems]
      refine Attempt.alike_bind _ fun o => (ih (i + 1)).bind fun os os' hos => ?_
      exact Attempt.alike_pure (.later hos)
    | literal | directive | sequence => exact Attempt.alike_throw _

/-- What a rule hands to its field after the change. Behind each step of the place there is a rule
of the same kind, of the object or of the item that the step leads to. -/
theorem assignment_alike (p : Place) : ∀ {form : FieldForm} {spec spec' : Spec},
    Spec.Twin form p spec spec' → spec.LiteralsFit form → spec'.LiteralsFit form →
    ∀ path, Alike (Assignment.Near form p) (spec.assignment catalogue form path)
      (spec'.assignment catalogue form path) := by
  induction p with
  | field slot =>
    intro form spec spec' h hf hf' path
    cases h with
    | literal hv hv' =>
      obtain ⟨x, hx⟩ := hf.value _ _ _ rfl hv
      obtain ⟨x', hx'⟩ := hf'.value _ _ _ rfl hv'
      rw [Spec.assignment, Spec.assignment, resolve_of_literal? _ hv, resolve_of_literal? _ hv',
        pure_bind, pure_bind]
      refine Attempt.alike_pure fun o => ?_
      rw [FieldForm.content, FieldForm.content, hx, hx']
      exact .ok (Object.apart_set o trivial)
  | within slot p ih =>
    intro form spec spec' h hf hf' path
    cases h with
    | @nested _ _ t _ b b' ht hk h =>
      have hb : Alike (Object.AgreesBut p) (b.build catalogue path) (b'.build catalogue path) :=
        build_alike_of_assignment h (hf.nested _ rfl) (hf'.nested _ rfl) ih
      cases form with
      | nested | optional =>
        rw [Spec.assignment, Spec.assignment]
        exact hb.bind fun o o' ho => Attempt.alike_pure (.object ht hk ho)
      | value | readOnly | list => cases ht
  | item slot i p ih =>
    intro form spec spec' h hf hf' path
    cases h with
    | @item _ declared t _ before after b b' h =>
      rw [Spec.assignment, Spec.assignment]
      have hb : ∀ path, Alike (Object.AgreesBut p) (b.build catalogue path)
          (b'.build catalogue path) := fun path =>
        build_alike_of_assignment h (hf.item _ _ rfl (by simp)) (hf'.item _ _ rfl (by simp)) ih
      refine (buildItems_alike hb before after path 0).bind fun os os' hos => ?_
      exact Attempt.alike_pure (.objects hos)

/-- Rules of which one literal is changed for another, at any depth, and which are accepted before
and after. With every source both fail in the same way, or both give an object; they leave the same
of the source, and the objects agree in everything but the place of the literal. -/
theorem generate_of_entriesChange {types : Types} {type : TypeName}
    {es es' : List (String × Value)} {f f' : Factory}
    (h : EntriesChange types (types type) p es es')
    (hf : Factory.compile types catalogue type (.map es) = .ok f)
    (hf' : Factory.compile types catalogue type (.map es') = .ok f') {σ : Type} (source : Source σ)
    (s : σ) :
    (∃ e t, f.generate.outcome source s = (.error e, t) ∧
      f'.generate.outcome source s = (.error e, t)) ∨
    ∃ o o' t, f.generate.outcome source s = (.ok o, t) ∧
      f'.generate.outcome source s = (.ok o', t) ∧ o.AgreesBut p o' := by
  have hfit := literalsFit_of_compile hf
  have hfit' := literalsFit_of_compile hf'
  rw [generate_eq_build hf, generate_eq_build hf']
  obtain ⟨-, b, hb, -, rfl⟩ := Factory.compile_eq_ok.1 hf
  obtain ⟨-, b', hb', -, rfl⟩ := Factory.compile_eq_ok.1 hf'
  have halike : Alike (Object.AgreesBut p) (b.build catalogue "") (b'.build catalogue "") := by
    cases twin_of_compile h hb hb' with
    | refl => exact Attempt.alike_refl (Object.agreesBut_refl p) _
    | single h => exact build_alike_of_assignment h hfit hfit' (assignment_alike p)
  obtain ⟨r, r', t, hr, hr', hpair⟩ := halike σ source s
  cases hpair with
  | error e => exact Or.inl ⟨e, t, hr, hr'⟩
  | ok ho => exact Or.inr ⟨_, _, t, hr, hr', ho⟩

end Build

/-! Persons with a drawn name who went on a trip. -/
namespace Sample

def tripRules (city : String) : List (String × Value) :=
  [("name", .text "@word"), ("trips", .list [.map [("city", .text city)]])]

def traveller (city : String) : Factory :=
  ⟨"Person", ⟨person, [
    ⟨"name", ⟨"name", "Person", .value "name" .text⟩, .directive ⟨"word", []⟩⟩,
    ⟨"trips", ⟨"trips", "Person", .list "trips" "Place" "Vec<Place>"⟩,
      .sequence [.nested (cityBinding city)]⟩]⟩, catalogue⟩

theorem compile_tripRules {city : String} (h : isDirective city = false) :
    Factory.compile types catalogue "Person" (.map (tripRules city)) = .ok (traveller city) := by
  refine Factory.compile_eq_ok.2 ⟨rfl, _, compile_eq_ok.2 ⟨_, _, rfl, rfl, ?_⟩, rfl, rfl⟩
  refine bindTree_eq_ok.2 ⟨rfl, rfl, _, ?_, rfl⟩
  refine bindNodes_cons_eq_ok.2 ⟨_, _, _, rfl, rfl, (bindField_eq_ok rfl).2 (.value ?name), ?_, rfl⟩
  case name =>
    rw [classify]
    rfl
  exact bindNodes_cons_eq_ok.2 ⟨_, _, _, rfl, rfl,
    (bindField_eq_ok rfl).2 (.list (bindItems_cons_eq_ok.2
      ⟨_, _, _, _, rfl, rfl, bindTree_city h _, bindItems_nil, rfl⟩)), bindNodes_nil, rfl⟩

def travelled (city : String) : Object :=
  ⟨"Person", [("name", .datum .text "tock"), ("member", .datum .bool true),
    ("home", .one ⟨"Place", [("city", .datum .text "Oslo")]⟩), ("work", .optional none),
    ("trips", .many [⟨"Place", [("city", .datum .text city)]⟩])]⟩

/-- Where the change of the city is. -/
def tripCity : Place := .item "trips" 0 (.field "city")

theorem tripRules_change {city city' : String} (h : isDirective city = false)
    (h' : isDirective city' = false) :
    EntriesChange types person tripCity (tripRules city) (tripRules city') := by
  have hcity : EntriesChange types place (.field "city") ([] ++ ("city", .text city) :: [])
      ([] ++ ("city", .text city') :: []) := .intro (.last rfl (.literal h h'))
  have hitem := @ValueChange.item types "trips" "Vec<Place>" "Place" _ [] [] _ _ hcity
  show EntriesChange types person tripCity ([("name", .text "@word")] ++ ("trips", _) :: [])
    ([("name", .text "@word")] ++ ("trips", _) :: [])
  exact .intro (.last rfl hitem)

end Sample

theorem generate_of_other_trip :
    EntriesChange Sample.types Sample.person Sample.tripCity (Sample.tripRules "Bonn")
        (Sample.tripRules "Kiel") ∧
      Factory.compile Sample.types Sample.catalogue "Person" (.map (Sample.tripRules "Bonn")) =
        .ok (Sample.traveller "Bonn") ∧
      Factory.compile Sample.types Sample.catalogue "Person" (.map (Sample.tripRules "Kiel")) =
        .ok (Sample.traveller "Kiel") ∧
      ∃ t, (Sample.traveller "Bonn").generate.outcome WordCycle.source ⟨[7], 0⟩ =
          (.ok (Sample.travelled "Bonn"), t) ∧
        (Sample.traveller "Kiel").generate.outcome WordCycle.source ⟨[7], 0⟩ =
          (.ok (Sample.travelled "Kiel"), t) ∧
        (Sample.travelled "Bonn").AgreesBut Sample.tripCity (Sample.travelled "Kiel") := by
  have hchange : EntriesChange Sample.types Sample.person Sample.tripCity (Sample.tripRules "Bonn")
      (Sample.tripRules "Kiel") := Sample.tripRules_change rfl rfl
  have hbonn : Factory.compile Sample.types Sample.catalogue "Person"
      (.map (Sample.tripRules "Bonn")) = .ok (Sample.traveller "Bonn") :=
    Sample.compile_tripRules rfl
  have hkiel : Factory.compile Sample.types Sample.catalogue "Person"
      (.map (Sample.tripRules "Kiel")) = .ok (Sample.traveller "Kiel") :=
    Sample.compile_tripRules rfl
  have hgiven : ∀ city, (Sample.traveller city).generate.outcome WordCycle.source ⟨[7], 0⟩ =
      (.ok (Sample.travelled city), ⟨[7], 1⟩) := fun _ => rfl
  refine ⟨hchange, hbonn, hkiel, ⟨[7], 1⟩, hgiven _, hgiven _, ?_⟩
  rcases generate_of_entriesChange hchange hbonn hkiel WordCycle.source ⟨[7], 0⟩ with
    ⟨e, t, he, -⟩ | ⟨o, o', t, ho, ho', hagree⟩
  · rw [hgiven] at he
    cases he
  · rw [hgiven] at ho ho'
    cases ho
    cases ho'
    exact hagree

end Fixture
