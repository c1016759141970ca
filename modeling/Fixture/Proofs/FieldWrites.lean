import Fixture.Proofs.Contents

/-! Writes to fields. A write is done in place: it either puts what was assigned in the field's slot
and leaves all other slots, or it fails and has changed nothing. -/
namespace Fixture

namespace FieldForm

/-- What a field of a form takes, and what it holds then. -/
inductive Takes : FieldForm → Assignment → Content → Prop
  | value {slot : String} {t : FieldType} {v : Value} {x : t.Carrier} (h : t.coerce v = .ok x) :
      Takes (.value slot t) (.value v) (.datum t x)
  | nested {slot : String} {t : TypeName} {o : Object} (h : o.type = t) :
      Takes (.nested slot t) (.object o) (.one o)
  | present {slot declared : String} {t : TypeName} {o : Object} (h : o.type = t) :
      Takes (.optional slot t declared) (.object o) (.optional (some o))
  | absent {slot declared : String} {t : TypeName} :
      Takes (.optional slot t declared) .absent (.optional none)
  | list {slot declared : String} {t : TypeName} {os : List Object} (h : ∀ o ∈ os, o.type = t) :
      Takes (.list slot t declared) (.objects os) (.many os)

theorem content_eq_ok_iff {form : FieldForm} {a : Assignment} {slot : String} {c : Content} :
    form.content a = .ok (slot, c) ↔ form.slot? = some slot ∧ form.Takes a c := by
  constructor
  · intro h
    refine ⟨slot?_of_content h, ?_⟩
    cases form <;> cases a <;>
      simp only [content, reduceCtorEq, Outcome.map_eq_ok, Prod.mk.injEq, Except.ok.injEq] at h
    case value.value =>
      obtain ⟨x, hx, -, rfl⟩ := h
      exact .value hx
    case nested.object =>
      obtain ⟨o, ho, -, rfl⟩ := h
      obtain ⟨htype, rfl⟩ := Object.ofType_eq_ok.1 ho
      exact .nested htype
    case optional.object =>
      obtain ⟨o, ho, -, rfl⟩ := h
      obtain ⟨htype, rfl⟩ := Object.ofType_eq_ok.1 ho
      exact .present htype
    case optional.absent =>
      obtain ⟨-, rfl⟩ := h
      exact .absent
    case list.objects =>
      obtain ⟨os, hos, -, rfl⟩ := h
      obtain ⟨htypes, rfl⟩ := Object.mapM_ofType_eq_ok.1 hos
      exact .list htypes
  · rintro ⟨hslot, h⟩
    cases h with
    | value h =>
      cases hslot
      exact Outcome.map_eq_ok.2 ⟨_, h, rfl⟩
    | nested h =>
      cases hslot
      exact Outcome.map_eq_ok.2 ⟨_, Object.ofType_eq_ok.2 ⟨h, rfl⟩, rfl⟩
    | present h =>
      cases hslot
      exact Outcome.map_eq_ok.2 ⟨_, Object.ofType_eq_ok.2 ⟨h, rfl⟩, rfl⟩
    | absent =>
      cases hslot
      rfl
    | list h =>
      cases hslot
      exact Outcome.map_eq_ok.2 ⟨_, Object.mapM_ofType_eq_ok.2 ⟨h, rfl⟩, rfl⟩

theorem Takes.exists_slot {form : FieldForm} {a : Assignment} {c : Content} (h : form.Takes a c) :
    ∃ slot, form.slot? = some slot := by
  cases h <;> exact ⟨_, rfl⟩

end FieldForm

namespace Field

/-- What an object holds in the field. -/
def read? (f : Field) (o : Object) : Option Content := f.form.slot?.bind o.get?

/-- The write step by step on a target that is there all the time: a failure leaves it as the steps
before it have made it. -/
def write (f : Field) (a : Assignment) : ExceptT WriteFault (StateM Object) Unit := do
  if f.form.isAssignable then
    match (← get).ofType f.owner with
    | .error m => throw (.mismatch m)
    | .ok o =>
      match f.form.content a with
      | .error m => throw (.mismatch m)
      | .ok (slot, c) => set (o.set slot c)
  else throw .readOnly

/-- What comes of the write and of its target. -/
def written (f : Field) (target : Object) (a : Assignment) : Except WriteFault Unit × Object :=
  (f.write a).run.run target

variable {f : Field} {target o : Object} {a : Assignment}

theorem assign_eq_ok_iff :
    f.assign target a = .ok o ↔
      f.form.isAssignable = true ∧ target.type = f.owner ∧
        ∃ slot c, f.form.slot? = some slot ∧ f.form.Takes a c ∧ o = target.set slot c := by
  rw [assign]
  by_cases ha : f.form.isAssignable = true
  · simp only [ha, if_true, Outcome.mapError_eq_ok, Outcome.bind_eq_ok, true_and, pure, Except.pure,
      Except.ok.injEq, Object.ofType_eq_ok, Prod.exists, FieldForm.content_eq_ok_iff]
    constructor
    · rintro ⟨_, ⟨ho, rfl⟩, slot, c, ⟨hs, hc⟩, rfl⟩
      exact ⟨ho, slot, c, hs, hc, rfl⟩
    · rintro ⟨ho, slot, c, hs, hc, rfl⟩
      exact ⟨target, ⟨ho, rfl⟩, slot, c, ⟨hs, hc⟩, rfl⟩
  · simp [ha]

/-- The steps come to the object that the write is defined to give, or to nothing. -/
theorem written_eq (f : Field) (target : Object) (a : Assignment) :
    f.written target a =
      match f.assign target a with
      | .ok o => (.ok (), o)
      | .error e => (.error e, target) := by
  have hget : ∀ next : Object → ExceptT WriteFault (StateM Object) Unit,
      (get >>= next).run.run target = (next target).run.run target := fun _ => rfl
  rw [written, write, assign]
  by_cases ha : f.form.isAssignable = true
  · rw [if_pos ha, if_pos ha, hget]
    cases ho : target.ofType f.owner with
    | error m => rfl
    | ok o =>
      obtain ⟨-, rfl⟩ := Object.ofType_eq_ok.1 ho
      cases f.form.content a <;> rfl
  · rw [if_neg ha, if_neg ha]
    rfl

theorem assign_eq_readOnly_iff :
    f.assign target a = .error .readOnly ↔ f.form.isAssignable = false := by
  rw [assign]
  by_cases ha : f.form.isAssignable = true
  · simp [ha, Outcome.mapError_eq_error]
  · simp [ha]

theorem read?_set_self {slot : String} (h : f.form.slot? = some slot) (o : Object) (c : Content) :
    f.read? (o.set slot c) = some c := by
  rw [read?, h]
  exact o.get?_set_self slot c

theorem read?_set_of_ne {slot : String} (h : f.form.slot? ≠ some slot) (o : Object) (c : Content) :
    f.read? (o.set slot c) = f.read? o := by
  rw [read?, read?]
  cases hs : f.form.slot? with
  | none => rfl
  | some slot' =>
    have hne : slot' ≠ slot := fun he => h (hs.trans (congrArg some he))
    exact o.get?_set_of_ne hne c

end Field

/-- Writes are all or nothing and confined to their field. A write succeeds exactly if the field can
be written, the target is of the schema's type, and the assignment is one that the field takes. It
then reads back as what was assigned, and all else is as before; if it fails, everything is. -/
theorem assign_all_or_nothing {s : Schema} (hs : s.SlotsApart) {f : Field} (hf : f ∈ s.fields)
    (target : Object) (a : Assignment) :
    ((∃ o, f.assign target a = .ok o) ↔
        f.form.isAssignable = true ∧ target.type = s.type ∧ ∃ c, f.form.Takes a c) ∧
      (∀ o, f.assign target a = .ok o →
        f.written target a = (.ok (), o) ∧ o.type = s.type ∧
        (∃ c, f.form.Takes a c ∧ f.read? o = some c) ∧
        (∀ g ∈ s.fields, g.name ≠ f.name → g.read? o = g.read? target) ∧
        ∀ slot, f.form.slot? ≠ some slot → o.get? slot = target.get? slot) ∧
      (∀ e, f.assign target a = .error e → f.written target a = (.error e, target)) ∧
      (f.assign target a = .error .readOnly ↔ f.form.isAssignable = false) := by
  have howner := s.owner_eq f hf
  refine ⟨⟨?taken, ?takes⟩, fun o h => ?success, fun e h => ?failure, Field.assign_eq_readOnly_iff⟩
  case taken =>
    rintro ⟨o, h⟩
    obtain ⟨ha, ht, slot, c, -, hc, -⟩ := Field.assign_eq_ok_iff.1 h
    exact ⟨ha, ht.trans howner, c, hc⟩
  case takes =>
    rintro ⟨ha, ht, c, hc⟩
    obtain ⟨slot, hslot⟩ := hc.exists_slot
    exact ⟨_, Field.assign_eq_ok_iff.2 ⟨ha, ht.trans howner.symm, slot, c, hslot, hc, rfl⟩⟩
  case success =>
    obtain ⟨-, ht, slot, c, hslot, hc, ho⟩ := Field.assign_eq_ok_iff.1 h
    have hw := f.written_eq target a
    rw [h] at hw
    rw [ho] at hw ⊢
    refine ⟨hw, ht.trans howner, ⟨c, hc, Field.read?_set_self hslot target c⟩, ?_, ?_⟩
    · intro g hg hne
      apply Field.read?_set_of_ne
      intro hgs
      exact hne (hs g hg f hf slot hgs hslot)
    · intro slot' hne
      apply Object.get?_set_of_ne
      rintro rfl
      exact hne hslot
  case failure =>
    have hw := f.written_eq target a
    rwa [h] at hw

namespace Sample

def stay (city : String) : Object := ⟨"Place", [("city", .datum .text city)]⟩

def trips : Field := ⟨"trips", "Person", .list "trips" "Place" "Vec<Place>"⟩

end Sample

/-- Of three trips the second is no place. None of them is written. -/
theorem assign_trips_all_or_nothing :
    Sample.person.SlotsApart ∧ Sample.trips ∈ Sample.person.fields ∧
      Sample.trips.written Sample.drawn
          (.objects [Sample.stay "Rome", Sample.drawn, Sample.stay "Bern"]) =
        (.error (.mismatch ⟨"Place", "Person"⟩), Sample.drawn) ∧
      ∃ o, Sample.trips.written Sample.drawn (.objects [Sample.stay "Rome", Sample.stay "Bern"]) =
          (.ok (), o) ∧
        Sample.trips.read? o = some (.many [Sample.stay "Rome", Sample.stay "Bern"]) := by
  have hs : Sample.person.SlotsApart := Sample.slotsApart _ .here
  have hf : Sample.trips ∈ Sample.person.fields := by decide
  refine ⟨hs, hf, ?_, ?_⟩
  · exact (assign_all_or_nothing hs hf Sample.drawn _).2.2.1 _ rfl
  · obtain ⟨hiff, hok, -⟩ := assign_all_or_nothing hs hf Sample.drawn
      (.objects [Sample.stay "Rome", Sample.stay "Bern"])
    obtain ⟨o, ho⟩ := hiff.2 ⟨rfl, rfl, _, .list (by simp [Sample.stay])⟩
    obtain ⟨hw, -, ⟨c, hc, hread⟩, -⟩ := hok o ho
    cases hc
    exact ⟨o, hw, hread⟩

end Fixture
