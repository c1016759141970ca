import Fixture.Factory

/-! Fields of a schema by name, the slots they write to, and the types of the objects they hold. -/
namespace Fixture

namespace FieldForm

/-- Where a field is kept. A field without a way to write it has no place of its own. -/
def slot? : FieldForm → Option String
  | value slot _ | nested slot _ | optional slot _ _ | list slot _ _ => some slot
  | readOnly _ => none

/-- The type of the object in a nested field. -/
def nestedType? : FieldForm → Option TypeName
  | nested _ t | optional _ t _ => some t
  | _ => none

/-- The type of the objects that a field holds, those of lists included. -/
def objectType? : FieldForm → Option TypeName
  | nested _ t | optional _ t _ | list _ t _ => some t
  | _ => none

theorem slot?_of_content {form : FieldForm} {a : Assignment} {slot : String} {c : Content}
    (h : form.content a = .ok (slot, c)) : form.slot? = some slot := by
  cases form <;> cases a <;>
    simp only [content, reduceCtorEq, Outcome.map_eq_ok, Prod.mk.injEq, Except.ok.injEq] at h
  case optional.absent =>
    obtain ⟨rfl, -⟩ := h
    rfl
  all_goals
    obtain ⟨x, -, rfl, -⟩ := h
    rfl

end FieldForm

namespace Schema

variable {s : Schema} {name : String} {f : Field}

theorem mem_of_field? (h : s.field? name = some f) : f ∈ s.fields := List.mem_of_find?_eq_some h

theorem name_of_field? (h : s.field? name = some f) : f.name = name := by
  simpa using List.find?_some h

theorem owner_of_field? (h : s.field? name = some f) : f.owner = s.type :=
  s.owner_eq f (mem_of_field? h)

theorem firstRepeated?_eq_none {fs : List Field} {seen : List String} :
    firstRepeated? seen fs = none ↔ (fs.map Field.name).Nodup ∧ ∀ f ∈ fs, f.name ∉ seen := by
  induction fs generalizing seen with
  | nil => simp [firstRepeated?]
  | cons f fs ih =>
    rw [firstRepeated?]
    split
    · rename_i hf
      simp [hf]
    · rename_i hf
      rw [ih]
      simp only [List.map_cons, List.nodup_cons, List.mem_map, List.mem_cons, not_or]
      constructor
      · rintro ⟨hn, hs⟩
        refine ⟨⟨?_, hn⟩, ?_⟩
        · rintro ⟨g, hg, he⟩
          exact (hs g hg).1 he
        · rintro g (rfl | hg)
          · exact hf
          · exact (hs g hg).2
      · rintro ⟨⟨hne, hn⟩, hs⟩
        exact ⟨hn, fun g hg => ⟨fun he => hne ⟨g, hg, he⟩, hs g (Or.inr hg)⟩⟩

theorem repeated?_eq_none : s.repeated? = none ↔ (s.fields.map Field.name).Nodup := by
  simp [repeated?, firstRepeated?_eq_none]

theorem field?_of_mem (h : s.repeated? = none) (hf : f ∈ s.fields) : s.field? f.name = some f := by
  have hn := repeated?_eq_none.1 h
  unfold field?
  generalize s.fields = fs at hf hn
  induction fs with
  | nil => simp at hf
  | cons g fs ih =>
    simp only [List.map_cons, List.nodup_cons] at hn
    rw [List.find?_cons]
    rcases List.mem_cons.1 hf with rfl | hf
    · simp
    · have hne : (g.name == f.name) = false := by
        apply beq_eq_false_iff_ne.2
        intro he
        exact hn.1 (he ▸ List.mem_map_of_mem hf)
      rw [hne]
      exact ih hf hn.2

/-- Different fields are kept in different slots. -/
def SlotsApart (s : Schema) : Prop :=
  ∀ f ∈ s.fields, ∀ g ∈ s.fields, ∀ slot,
    f.form.slot? = some slot → g.form.slot? = some slot → f.name = g.name

end Schema

/-- The schemas that the fields of a schema lead to, itself included. -/
inductive Types.Leads (types : Types) (s : Schema) : Schema → Prop
  | here : Leads types s s
  | field {u : Schema} {f : Field} {t : TypeName} (h : Leads types s u) (hf : f ∈ u.fields)
      (ht : f.form.objectType? = some t) : Leads types s (types t)

theorem Types.Leads.trans {types : Types} {s t u : Schema} (h : types.Leads s t)
    (h' : types.Leads t u) : types.Leads s u := by
  induction h' with
  | here => exact h
  | field _ hf ht ih => exact ih.field hf ht

/-- The schema behind every field that holds objects describes the type of these objects. -/
def Types.SelfDescribing (types : Types) (s : Schema) : Prop :=
  ∀ u, types.Leads s u → ∀ f ∈ u.fields, ∀ t, f.form.objectType? = some t → (types t).type = t

theorem Types.SelfDescribing.step {types : Types} {s : Schema} (h : types.SelfDescribing s)
    {f : Field} (hf : f ∈ s.fields) {t : TypeName} (ht : f.form.objectType? = some t) :
    (types t).type = t ∧ types.SelfDescribing (types t) := by
  refine ⟨h s .here f hf t ht, ?_⟩
  intro u hu
  exact h u (.trans (.field .here hf ht) hu)

theorem Object.ofType_eq_ok {type : TypeName} {o o' : Object} :
    o.ofType type = .ok o' ↔ o.type = type ∧ o' = o := by
  by_cases h : o.type = type
  · simp [ofType, h, eq_comm]
  · simp [ofType, h]

theorem Object.mapM_ofType_eq_ok {type : TypeName} {os os' : List Object} :
    (os.mapM (Object.ofType type) : Except Mismatch _) = .ok os' ↔
      (∀ o ∈ os, o.type = type) ∧ os' = os := by
  induction os generalizing os' with
  | nil => simp [pure, Except.pure, eq_comm]
  | cons o os ih =>
    simp only [List.mapM_cons, Outcome.bind_eq_ok, Object.ofType_eq_ok, ih, pure, Except.pure,
      Except.ok.injEq, List.forall_mem_cons]
    constructor
    · rintro ⟨_, ⟨ho, rfl⟩, _, ⟨hos, rfl⟩, rfl⟩
      exact ⟨⟨ho, hos⟩, rfl⟩
    · rintro ⟨⟨ho, hos⟩, rfl⟩
      exact ⟨o, ⟨ho, rfl⟩, os, ⟨hos, rfl⟩, rfl⟩

section Write
variable {o : Object} {field : Field} {segment path : String} {a : Assignment}

/-- A write to an object of the field's own type fails only by what is written. -/
theorem writeField_eq (ho : o.type = field.owner) (ha : field.form.isAssignable = true) :
    writeField o field segment path a =
      match field.form.content a with
      | .ok (slot, c) => .ok (o.set slot c)
      | .error m => .error (.mismatch path m) := by
  simp only [writeField, Field.assign, ha, if_true, Object.ofType, ho]
  cases field.form.content a <;> rfl

theorem writeField_eq_ok (ho : o.type = field.owner) (ha : field.form.isAssignable = true)
    {o' : Object} (h : writeField o field segment path a = .ok o') :
    ∃ slot c, field.form.content a = .ok (slot, c) ∧ field.form.slot? = some slot ∧
      o' = o.set slot c := by
  rw [writeField_eq ho ha] at h
  split at h
  · rename_i slot c hc
    cases h
    exact ⟨slot, c, hc, FieldForm.slot?_of_content hc, rfl⟩
  · cases h

theorem type_of_writeField {o' : Object} (h : writeField o field segment path a = .ok o') :
    o'.type = o.type := by
  unfold writeField Field.assign at h
  split at h
  · have hw := Outcome.mapError_eq_ok.1 (Outcome.mapError_eq_ok.1 h)
    obtain ⟨u, hu, h⟩ := Outcome.bind_eq_ok.1 hw
    obtain ⟨⟨slot, c⟩, -, h⟩ := Outcome.bind_eq_ok.1 h
    cases h
    unfold Object.ofType at hu
    split at hu <;> cases hu
    rfl
  · cases h

/-- A write that is refused at a field with a way to write it is a mismatch at the rule's path. -/
theorem writeField_eq_error (ha : field.form.isAssignable = true) {e : Fault}
    (h : writeField o field segment path a = .error e) :
    ∃ m, field.assign o a = .error (.mismatch m) ∧ e = .mismatch path m := by
  obtain ⟨w, hw, rfl⟩ := Outcome.mapError_eq_error.1 h
  have hm := hw
  simp only [Field.assign, ha, if_true] at hm
  obtain ⟨m, -, rfl⟩ := Outcome.mapError_eq_error.1 hm
  exact ⟨m, hw, rfl⟩

end Write
end Fixture
