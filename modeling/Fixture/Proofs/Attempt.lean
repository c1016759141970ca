import Fixture.Draw.Basic

/-! Outcomes of attempts. A run comes to a value or a failure and leaves something of the source. -/
namespace Fixture

namespace Outcome
variable {ε α β : Type} {P : α → Prop} {Q : β → Prop}

/-- What the computation comes to has the property, if it comes to anything. -/
def Ensures (P : α → Prop) (x : Except ε α) : Prop := ∀ a, x = .ok a → P a

theorem ensures_ok {a : α} (h : P a) : Ensures P (.ok a : Except ε α) := by
  rintro _ ⟨⟩
  exact h

theorem ensures_error (e : ε) : Ensures P (.error e) := nofun

theorem Ensures.bind {x : Except ε α} {f : α → Except ε β} (hx : Ensures P x)
    (h : ∀ a, P a → Ensures Q (f a)) : Ensures Q (x >>= f) := by
  intro b hb
  obtain ⟨a, ha, hb⟩ := bind_eq_ok.1 hb
  exact h a (hx a ha) b hb

theorem ensures_bind {x : Except ε α} {f : α → Except ε β}
    (h : ∀ a, x = .ok a → Ensures Q (f a)) : Ensures Q (x >>= f) :=
  Ensures.bind (P := fun a => x = .ok a) (fun _ ha => ha) h

section Blames
variable {P : ε → Prop}

/-- What the computation fails with has the property, if it fails. -/
def Blames (P : ε → Prop) (x : Except ε α) : Prop := ∀ e, x = .error e → P e

theorem blames_ok (a : α) : Blames P (.ok a) := nofun

theorem blames_error {e : ε} (h : P e) : Blames P (.error e : Except ε α) := by
  rintro _ ⟨⟩
  exact h

theorem Blames.bind {x : Except ε α} {f : α → Except ε β} (hx : Blames P x)
    (hf : ∀ a, x = .ok a → Blames P (f a)) : Blames P (x >>= f) := by
  intro e he
  rcases bind_eq_error.1 he with he | ⟨a, ha, he⟩
  · exact hx e he
  · exact hf a ha e he

theorem blames_dite {p : Prop} [Decidable p] {f : p → Except ε α} {g : ¬ p → Except ε α}
    (hf : ∀ h, Blames P (f h)) (hg : ∀ h, Blames P (g h)) : Blames P (dite p f g) := by
  split
  · exact hf _
  · exact hg _

theorem Blames.map {x : Except ε α} (hx : Blames P x) (f : α → β) : Blames P (x.map f) :=
  fun e he => hx e (map_eq_error.1 he)

end Blames
end Outcome

namespace Attempt

variable {ε α β σ : Type}

/-- What an attempt comes to with a source, and what is left of the source then. -/
def outcome (x : Attempt ε α) (source : Source σ) (s : σ) : Except ε α × σ := x.run.run source s

section Outcome
variable (source : Source σ) (s : σ)

@[simp] theorem outcome_pure (a : α) : outcome (pure a : Attempt ε α) source s = (.ok a, s) := rfl

@[simp] theorem outcome_throw (e : ε) :
    outcome (throw e : Attempt ε α) source s = (.error e, s) := rfl

@[simp] theorem outcome_lift (r : Except ε α) :
    outcome (liftM r : Attempt ε α) source s = (r, s) := by
  cases r <;> rfl

theorem outcome_draw (d : Draw α) :
    outcome (ExceptT.lift d : Attempt ε α) source s =
      (.ok (d.run source s).1, (d.run source s).2) := by
  show Draw.run source (d.bind fun a => .done (Except.ok a : Except ε α)) s = _
  rw [Draw.run_bind]
  rfl

theorem outcome_bind (x : Attempt ε α) (f : α → Attempt ε β) :
    outcome (x >>= f) source s =
      match x.outcome source s with
      | (.ok a, t) => (f a).outcome source t
      | (.error e, t) => (.error e, t) := by
  show Draw.run source (Draw.bind _ _) s = _
  rw [Draw.run_bind]
  unfold outcome ExceptT.run
  rcases Draw.run source x s with ⟨r, t⟩
  cases r <;> rfl

end Outcome

variable {source : Source σ} {s t : σ}

theorem outcome_bind_eq_ok {x : Attempt ε α} {f : α → Attempt ε β} {b : β} :
    outcome (x >>= f) source s = (.ok b, t) ↔
      ∃ a u, x.outcome source s = (.ok a, u) ∧ (f a).outcome source u = (.ok b, t) := by
  rw [outcome_bind]
  rcases x.outcome source s with ⟨r, u⟩
  cases r <;> simp [and_assoc]

theorem outcome_bind_ok {x : Attempt ε α} {f : α → Attempt ε β} {b : β}
    (h : outcome (x >>= f) source s = (.ok b, t)) :
    ∃ a u, x.outcome source s = (.ok a, u) ∧ (f a).outcome source u = (.ok b, t) :=
  outcome_bind_eq_ok.1 h

/-- A sequence that fails has failed in one of its parts, and asks for nothing after that. -/
theorem outcome_bind_error {x : Attempt ε α} {f : α → Attempt ε β} {e : ε}
    (h : outcome (x >>= f) source s = (.error e, t)) :
    x.outcome source s = (.error e, t) ∨
      ∃ a u, x.outcome source s = (.ok a, u) ∧ (f a).outcome source u = (.error e, t) := by
  rw [outcome_bind] at h
  rcases hx : x.outcome source s with ⟨r, u⟩
  rw [hx] at h
  cases r with
  | ok a => exact Or.inr ⟨a, u, rfl, h⟩
  | error e' =>
    left
    simpa using h

theorem lift_bind (d : Draw α) (f : α → Attempt ε β) :
    (ExceptT.lift d >>= f : Attempt ε β) = ExceptT.mk (d.bind fun a => (f a).run) :=
  Draw.bind_assoc d (fun a => .done (Except.ok a : Except ε α)) (ExceptT.bindCont f)

@[simp] theorem lift_ok_bind (a : α) (f : α → Attempt ε β) :
    ((liftM (.ok a : Except ε α) : Attempt ε α) >>= f) = f a := rfl

end Attempt
end Fixture
