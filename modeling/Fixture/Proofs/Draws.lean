import Fixture.Draw.Range
import Fixture.Fault
import Fixture.Proofs.Attempt

/-! What holds of a drawn value whatever words the source gives: a property of all the values at the
ends of the draw, so that no source needs to be spoken of. -/
namespace Fixture

namespace Draw
variable {α β σ : Type} {P P' : α → Prop} {Q : β → Prop}

/-- Every value that the draw can come to has the property. -/
def Always (P : α → Prop) : Draw α → Prop
  | done a => P a
  | word32 k => ∀ w, (k w).Always P
  | word64 k => ∀ w, (k w).Always P
  | bytes _ k => ∀ bs, (k bs).Always P
  | search _ _ k => ∀ w, (k w).Always P

@[simp] theorem always_done {a : α} : (done a).Always P ↔ P a := Iff.rfl

theorem Always.run {x : Draw α} (h : x.Always P) (source : Source σ) (s : σ) :
    P (x.run source s).1 := by
  induction x generalizing s with
  | done a => exact h
  | word32 k ih => exact ih _ (h _) _
  | word64 k ih => exact ih _ (h _) _
  | bytes n k ih => exact ih _ (h _) _
  | search width accepts k ih =>
    rw [Draw.run]
    split
    · exact ih _ (h _) _
    · exact ih _ (h _) _

theorem Always.bind {x : Draw α} {f : α → Draw β} (hx : x.Always P)
    (hf : ∀ a, P a → (f a).Always Q) : (x.bind f).Always Q := by
  induction x with
  | done a => exact hf a hx
  | word32 k ih => exact fun w => ih w (hx w)
  | word64 k ih => exact fun w => ih w (hx w)
  | bytes n k ih => exact fun bs => ih bs (hx bs)
  | search width accepts k ih => exact fun w => ih w (hx w)

theorem Always.mono {x : Draw α} (hx : x.Always P) (h : ∀ a, P a → P' a) : x.Always P' := by
  induction x with
  | done a => exact h a hx
  | word32 k ih => exact fun w => ih w (hx w)
  | word64 k ih => exact fun w => ih w (hx w)
  | bytes n k ih => exact fun bs => ih bs (hx bs)
  | search width accepts k ih => exact fun w => ih w (hx w)

theorem Always.bind_congr {x : Draw α} {f g : α → Draw β} (hx : x.Always P)
    (h : ∀ a, P a → f a = g a) : x.bind f = x.bind g := by
  induction x with
  | done a => exact h a hx
  | word32 k ih => exact congrArg word32 (funext fun w => ih w (hx w))
  | word64 k ih => exact congrArg word64 (funext fun w => ih w (hx w))
  | bytes n k ih => exact congrArg (bytes n) (funext fun bs => ih bs (hx bs))
  | search width accepts k ih => exact congrArg (search width accepts) (funext fun w => ih w (hx w))

theorem always_true (x : Draw α) : x.Always fun _ => True := by
  induction x with
  | done a => trivial
  | word32 k ih => exact fun w => ih w
  | word64 k ih => exact fun w => ih w
  | bytes n k ih => exact fun bs => ih bs
  | search width accepts k ih => exact fun w => ih w

theorem run_bind_of {x : Draw α} {f : α → Draw β} {source : Source σ} {s t : σ} {a : α}
    (h : x.run source s = (a, t)) : (x.bind f).run source s = (f a).run source t := by
  rw [run_bind, h]

/-- An integer is drawn from its range; the word that stands for itself is one of all integers of 64
bits. -/
theorem integer_always (r : IntRange) (hl : -9223372036854775808 ≤ r.low)
    (hh : r.high < 9223372036854775808) :
    (integer r).Always fun n => r.low ≤ n ∧ n ≤ r.high := by
  have hr := r.low_le_high
  unfold integer
  split
  · rename_i hall
    intro w
    have hlow := BitVec.le_toInt w.toBitVec
    have hhigh := BitVec.toInt_lt (x := w.toBitVec)
    simp only [UInt64.size] at hall
    simp only [Draw.bind, always_done]
    omega
  · refine (always_true _).bind fun n _ => ?_
    have hn := n.isLt
    simp only [always_done]
    omega

theorem natural_always (r : NatRange) : (natural r).Always fun n => r.low ≤ n ∧ n ≤ r.high := by
  have hr := r.low_le_high
  unfold natural
  split
  · refine (always_true _).bind fun k _ => ?_
    have hk := k.isLt
    simp only [always_done]
    omega
  · refine (always_true _).bind fun k _ => ?_
    have hk := k.isLt
    simp only [always_done]
    omega

end Draw

namespace Attempt
variable {ε α β σ : Type} {P : α → Prop}

section Lift
variable (d : Draw α)

theorem lift_bind_pure (f : α → β) :
    (ExceptT.lift d >>= fun a => pure (f a) : Attempt ε β) =
      ExceptT.lift (d.bind fun a => .done (f a)) := by
  rw [lift_bind]
  exact (Draw.bind_assoc d (fun a => .done (f a)) fun b => .done (Except.ok b : Except ε β)).symm

theorem lift_bind_lift (f : α → Draw β) :
    (ExceptT.lift d >>= fun a => ExceptT.lift (f a) : Attempt ε β) = ExceptT.lift (d.bind f) := by
  rw [lift_bind]
  exact (Draw.bind_assoc d f _).symm

theorem lift_bind_congr {f g : α → Attempt ε β} (hd : d.Always P) (h : ∀ a, P a → f a = g a) :
    (ExceptT.lift d >>= f : Attempt ε β) = ExceptT.lift d >>= g := by
  rw [lift_bind, lift_bind]
  exact congrArg ExceptT.mk (hd.bind_congr fun a ha => congrArg ExceptT.run (h a ha))

end Lift

/-- The attempt comes to a value with every source. -/
def Succeeds (x : Attempt ε α) : Prop := x.run.Always fun r => ∃ a, r = .ok a

theorem Succeeds.outcome {x : Attempt ε α} (h : x.Succeeds) (source : Source σ) (s : σ) :
    ∃ a t, x.outcome source s = (.ok a, t) := by
  obtain ⟨a, ha⟩ := Draw.Always.run h source s
  exact ⟨a, _, Prod.ext ha rfl⟩

theorem succeeds_lift (d : Draw α) : Succeeds (ExceptT.lift d : Attempt ε α) :=
  (Draw.always_true d).bind fun a _ => Draw.always_done.2 ⟨a, rfl⟩

theorem succeeds_pure (a : α) : Succeeds (pure a : Attempt ε α) := Draw.always_done.2 ⟨a, rfl⟩

theorem Succeeds.bind {x : Attempt ε α} {f : α → Attempt ε β} (hx : x.Succeeds)
    (hf : ∀ a, (f a).Succeeds) : Succeeds (x >>= f) := by
  refine Draw.Always.bind hx ?_
  rintro _ ⟨a, rfl⟩
  exact hf a

theorem succeeds_mk {d : Draw α} {f : α → Except ε β} (hd : d.Always P)
    (hf : ∀ a, P a → ∃ b, f a = .ok b) :
    Succeeds (ExceptT.mk (d.bind fun a => .done (f a)) : Attempt ε β) :=
  hd.bind fun a ha => Draw.always_done.2 (hf a ha)

theorem Succeeds.replicate {x : Attempt ε α} (h : x.Succeeds) (n : Nat) :
    Succeeds (Draw.replicate n x) := by
  have after : ∀ n drawn, Succeeds (Draw.replicateAfter x drawn n) := by
    intro n
    induction n with
    | zero => exact fun drawn => succeeds_pure _
    | succ n ih => exact fun drawn => h.bind fun a => ih (a :: drawn)
  exact after n []

section Stopping

theorem stopping_lift (d : Draw α) : stopping (ExceptT.lift d) = ExceptT.lift d :=
  Draw.bind_assoc d _ _

theorem stopping_map {x : Attempt Stop α} {d : Draw α} (h : x = ExceptT.lift d) (f : α → β) :
    stopping (x >>= fun a => pure (f a)) = ExceptT.lift (d.bind fun a => .done (f a)) := by
  rw [h, lift_bind_pure, stopping_lift]

theorem outcome_stopping (x : Attempt Stop α) (source : Source σ) (s : σ) :
    x.stopping.outcome source s =
      ((x.outcome source s).1.mapError .stopped, (x.outcome source s).2) := by
  show Draw.run source (x.run.bind fun r => .done (r.mapError Fault.stopped)) s = _
  rw [Draw.run_bind]
  rfl

theorem Succeeds.stopping {x : Attempt Stop α} (h : x.Succeeds) : x.stopping.Succeeds := by
  refine Draw.Always.bind h ?_
  rintro _ ⟨a, rfl⟩
  exact Draw.always_done.2 ⟨a, rfl⟩

end Stopping
end Attempt
end Fixture
