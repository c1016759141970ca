import Fixture.Coercion.FieldType
import Fixture.Fault

/-! Objects: what a type's name stands for, with a content in each of its slots. A schema says how
objects of a type are constructed, and which of their fields rules may write. -/
namespace Fixture

/-- Types are told apart by their full names. -/
abbrev TypeName := String

mutual
inductive Content where
  | datum (type : FieldType) (x : type.Carrier)
  | one (o : Object)
  | optional (o : Option Object)
  | many (os : List Object)

structure Object where
  type : TypeName
  slots : List (String × Content)
end

namespace Object

/-- The slots with the content of one changed; a slot that is missing is added. -/
def setSlot (slot : String) (c : Content) : List (String × Content) → List (String × Content)
  | [] => [(slot, c)]
  | s :: ss => if s.1 = slot then (slot, c) :: ss else s :: setSlot slot c ss

theorem lookup_setSlot_self (slot : String) (c : Content) (ss : List (String × Content)) :
    (setSlot slot c ss).lookup slot = some c := by
  induction ss with
  | nil => simp [setSlot]
  | cons s ss ih =>
    obtain ⟨name, old⟩ := s
    simp only [setSlot]
    split
    · simp
    · rename_i h
      have : (slot == name) = false := beq_eq_false_iff_ne.2 (Ne.symm h)
      simp only [List.lookup_cons, this, ih]

theorem lookup_setSlot_of_ne {slot other : String} (h : other ≠ slot) (c : Content)
    (ss : List (String × Content)) : (setSlot slot c ss).lookup other = ss.lookup other := by
  have hb : (other == slot) = false := beq_eq_false_iff_ne.2 h
  induction ss with
  | nil => simp only [setSlot, List.lookup_cons, hb]
  | cons s ss ih =>
    obtain ⟨name, old⟩ := s
    simp only [setSlot]
    split
    · rename_i hs
      simp only [List.lookup_cons, hs, hb]
    · simp only [List.lookup_cons, ih]

def get? (o : Object) (slot : String) : Option Content := o.slots.lookup slot

def set (o : Object) (slot : String) (c : Content) : Object :=
  { o with slots := setSlot slot c o.slots }

theorem get?_set_self (o : Object) (slot : String) (c : Content) :
    (o.set slot c).get? slot = some c := lookup_setSlot_self ..

theorem get?_set_of_ne (o : Object) {slot other : String} (h : other ≠ slot) (c : Content) :
    (o.set slot c).get? other = o.get? other := lookup_setSlot_of_ne h ..

@[simp] theorem type_set (o : Object) (slot : String) (c : Content) : (o.set slot c).type = o.type :=
  rfl

end Object

/-- What a field is. `slot` is where it is kept, `declared` the name of its type in messages. -/
inductive FieldForm where
  | value (slot : String) (type : FieldType)
  | readOnly (kind : ValueKind)
  | nested (slot : String) (type : TypeName)
  | optional (slot : String) (type : TypeName) (declared : String)
  | list (slot : String) (type : TypeName) (declared : String)
  deriving DecidableEq

namespace FieldForm

def isAssignable : FieldForm → Bool
  | readOnly _ => false
  | _ => true

end FieldForm

structure Field where
  name : String
  /-- The type whose objects the field writes to. -/
  owner : TypeName
  form : FieldForm
  deriving DecidableEq

structure Schema where
  type : TypeName
  /-- The name of the type in messages. -/
  name : String
  /-- The slots of a new object, if one can be constructed. -/
  initial : Option (List (String × Content)) := none
  fields : List Field := []
  /-- The fields write to objects of the type. -/
  owner_eq : ∀ f ∈ fields, f.owner = type := by simp

/-- The schema that each type gives for itself. -/
abbrev Types := TypeName → Schema

namespace Schema

def constructible (s : Schema) (slots : List (String × Content)) : Schema :=
  { s with initial := some slots }

def declare (s : Schema) (name : String) (form : FieldForm) : Schema :=
  { s with
    fields := s.fields ++ [{ name, owner := s.type, form }]
    owner_eq := fun f h => (List.mem_append.1 h).elim (s.owner_eq f) fun h => by
      rw [List.mem_singleton.1 h] }

def isFor (s : Schema) (type : TypeName) : Bool := s.type == type

def field? (s : Schema) (name : String) : Option Field := s.fields.find? (·.name == name)

def construct (s : Schema) : Except Fault Object :=
  match s.initial with
  | some slots => .ok ⟨s.type, slots⟩
  | none => .error (.notConstructible s.name .noConstructor)

def firstRepeated? (seen : List String) : List Field → Option String
  | [] => none
  | f :: fs => if f.name ∈ seen then some f.name else firstRepeated? (f.name :: seen) fs

/-- The first name that is declared more than once. -/
def repeated? (s : Schema) : Option String := firstRepeated? [] s.fields

end Schema

/-- What is handed to a field. -/
inductive Assignment where
  | value (v : Value)
  | object (o : Object)
  | objects (os : List Object)
  | absent

namespace Assignment

def describe : Assignment → String
  | value v => v.describe
  | object o => "object " ++ o.type
  | objects os => "list of " ++ toString os.length ++ " object(s)"
  | absent => "absent object"

def mismatch (a : Assignment) (expected : String) : Mismatch := ⟨expected, a.describe⟩

end Assignment

namespace Object

/-- The object, if it is of the type. -/
def ofType (type : TypeName) (o : Object) : Except Mismatch Object :=
  if o.type = type then .ok o else .error ⟨type, o.type⟩

end Object

namespace FieldForm

/-- The slot that an assignment goes to, and what it puts there. -/
def content : FieldForm → Assignment → Except Mismatch (String × Content)
  | value slot t, .value v => (t.coerce v).map fun x => (slot, .datum t x)
  | value _ t, a => .error (a.mismatch t.kind.name)
  | nested slot t, .object o => (o.ofType t).map fun o => (slot, .one o)
  | nested _ t, a => .error (a.mismatch t)
  | optional slot t _, .object o => (o.ofType t).map fun o => (slot, .optional (some o))
  | optional slot _ _, .absent => .ok (slot, .optional none)
  | optional _ _ declared, a => .error (a.mismatch declared)
  | list slot t _, .objects os =>
    (os.mapM (Object.ofType t) : Except Mismatch _).map fun os => (slot, .many os)
  | list _ _ declared, a => .error (a.mismatch declared)
  | readOnly k, a => .error (a.mismatch k.name)

end FieldForm

inductive WriteFault where
  | readOnly
  | mismatch (m : Mismatch)
  deriving DecidableEq

/-- The target with the assignment in the field's slot. -/
def Field.assign (f : Field) (target : Object) (a : Assignment) : Except WriteFault Object :=
  if f.form.isAssignable then
    (do
      let o ← target.ofType f.owner
      let (slot, c) ← f.form.content a
      return o.set slot c : Except Mismatch Object).mapError .mismatch
  else .error .readOnly

end Fixture
