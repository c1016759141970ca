import Fixture.Catalogue.Basic
import Fixture.Draw.Sources
import Fixture.Rules.Compile
import Fixture.Rules.Tree

/-! Factories: checked rules of a type, from which any number of objects can be drawn. An object is
constructed and then written field by field; directives draw in the order of the rules. Literal rules
are checked before any object is asked for: each is written to an object of its type that is then
dropped. A registry has the current binding of each type, all with one catalogue. -/
namespace Fixture

/-- Writes a field, a failure being that of the rule at `path`. -/
def writeField (o : Object) (field : Field) (segment path : String) (a : Assignment) :
    Except Fault Object :=
  (field.assign o a).mapError fun
    | .readOnly => .notAssignable o.type segment
    | .mismatch m => .mismatch path m

section Build
variable (catalogue : Catalogue)

mutual
/-- The value of a value field. -/
def Spec.resolve : Spec → String → Attempt Fault Value
  | .literal v, _ => pure v
  | .directive c, _ => catalogue.resolve c
  | .sequence items, path => do return .list (← resolveItems items path 0)
  | .nested _, path => throw (.malformed path .nestedValue)

def resolveItems : List Spec → String → Nat → Attempt Fault (List Value)
  | [], _, _ => pure []
  | x :: xs, path, i => do
    let v ← x.resolve (itemPath path i)
    let vs ← resolveItems xs path (i + 1)
    return v :: vs
end

mutual
def Binding.build : Binding → String → Attempt Fault Object
  | ⟨schema, rules⟩, scope => do
    let o ← schema.construct
    buildRules rules scope o

def buildRules : List Rule → String → Object → Attempt Fault Object
  | [], _, o => pure o
  | ⟨segment, field, spec⟩ :: rules, scope, o => do
    let path := joinPath scope segment
    let a ← spec.assignment field.form path
    let o ← writeField o field segment path a
    buildRules rules scope o

/-- What a rule hands to its field. -/
def Spec.assignment : Spec → FieldForm → String → Attempt Fault Assignment
  | spec, .value .., path => do return .value (← spec.resolve catalogue path)
  | spec, .readOnly _, path => do return .value (← spec.resolve catalogue path)
  | .nested b, .nested .., path => do return .object (← b.build path)
  | .nested b, .optional .., path => do return .object (← b.build path)
  | .literal .null, .optional .., _ => pure .absent
  | .sequence items, .list .., path => do return .objects (← buildItems items path 0)
  | _, _, path => throw (.malformed path .wrongForm)

def buildItems : List Spec → String → Nat → Attempt Fault (List Object)
  | [], _, _ => pure []
  | .nested b :: xs, path, i => do
    let o ← b.build (itemPath path i)
    let os ← buildItems xs path (i + 1)
    return o :: os
  | _ :: _, path, i => throw (.malformed (itemPath path i) .itemNotNested)
end

end Build

mutual
/-- The value of a specification without directives. -/
def Spec.literal? : Spec → Option Value
  | .literal v => some v
  | .sequence items => (literalItems? items).map .list
  | _ => none

def literalItems? : List Spec → Option (List Value)
  | [] => some []
  | x :: xs => do
    let v ← x.literal?
    let vs ← literalItems? xs
    return v :: vs
end

def FieldForm.isValue : FieldForm → Bool
  | .value .. | .readOnly _ => true
  | _ => false

mutual
def Binding.checkLiterals : Binding → String → Except Fault Unit
  | ⟨schema, rules⟩, scope =>
    match schema.construct with
    | .ok o => checkRuleLiterals rules scope o
    | .error e => .error e

def checkRuleLiterals : List Rule → String → Object → Except Fault Unit
  | [], _, _ => .ok ()
  | ⟨segment, field, spec⟩ :: rules, scope, o =>
    let path := joinPath scope segment
    if field.form.isValue then
      match spec.literal? with
      | some v =>
        match writeField o field segment path (.value v) with
        | .ok o => checkRuleLiterals rules scope o
        | .error e => .error e
      | none => checkRuleLiterals rules scope o
    else
      match spec.checkNested path with
      | .ok () => checkRuleLiterals rules scope o
      | .error e => .error e

/-- Checks the bindings that a specification holds. -/
def Spec.checkNested : Spec → String → Except Fault Unit
  | .nested b, path => b.checkLiterals path
  | .sequence items, path => checkItemLiterals items path 0
  | _, _ => .ok ()

def checkItemLiterals : List Spec → String → Nat → Except Fault Unit
  | [], _, _ => .ok ()
  | .nested b :: xs, path, i =>
    match b.checkLiterals (itemPath path i) with
    | .ok () => checkItemLiterals xs path (i + 1)
    | .error e => .error e
  | _ :: xs, path, i => checkItemLiterals xs path (i + 1)
end

structure Factory where
  type : TypeName
  binding : Binding
  catalogue : Catalogue

namespace Factory

def compile (types : Types) (catalogue : Catalogue) (type : TypeName) (rules : Value) :
    Except Fault Factory := do
  let schema := types type
  if schema.isFor type then
    let binding ← Fixture.compile types catalogue schema rules
    binding.checkLiterals ""
    return ⟨type, binding, catalogue⟩
  else throw (.notConstructible type (.foreignSchema schema.name))

/-- One object, which must turn out to be of the factory's type. -/
def generate (f : Factory) : Attempt Fault Object := do
  let o ← f.binding.build f.catalogue ""
  match o.ofType f.type with
  | .ok o => return o
  | .error m => throw (.notConstructible f.binding.schema.name (.foreignObject m))

/-- The object of a seed. -/
def generateSeeded (f : Factory) (seed : UInt64) : Except Fault Object :=
  (f.generate.run.run ChaCha.source (.ofSeed seed)).1

/-- That many objects, or the first failure. -/
def generateMany (f : Factory) : Nat → Attempt Fault (List Object)
  | 0 => pure []
  | n + 1 => do
    let o ← f.generate
    let os ← f.generateMany n
    return o :: os

end Factory

structure Registry where
  catalogue : Catalogue
  bindings : List (TypeName × Binding) := []

namespace Registry

def insertBinding (type : TypeName) (b : Binding) :
    List (TypeName × Binding) → List (TypeName × Binding)
  | [] => [(type, b)]
  | e :: es => if e.1 = type then (type, b) :: es else e :: insertBinding type b es

/-- Makes a binding the current one of its type. -/
def insert (r : Registry) (type : TypeName) (b : Binding) : Registry :=
  { r with bindings := insertBinding type b r.bindings }

/-- Compiles rules for a type and makes them its current ones; rules that do not compile change
nothing. -/
def set (r : Registry) (types : Types) (type : TypeName) (rules : Value) :
    Except Fault Factory × Registry :=
  match Factory.compile types r.catalogue type rules with
  | .ok f => (.ok f, r.insert type f.binding)
  | .error e => (.error e, r)

def get? (r : Registry) (type : TypeName) : Option Factory :=
  (r.bindings.lookup type).map fun b => ⟨type, b, r.catalogue⟩

def contains (r : Registry) (type : TypeName) : Bool := (r.bindings.lookup type).isSome

def size (r : Registry) : Nat := r.bindings.length

def isEmpty (r : Registry) : Bool := r.bindings.isEmpty

/-- The names of the types that have a binding, sorted. -/
def typeNames (r : Registry) : List String :=
  (r.bindings.map fun e => e.2.schema.name).mergeSort fun a b => decide (a ≤ b)

end Registry
end Fixture
