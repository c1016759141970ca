import Fixture.Binary64.Basic
import Fixture.Draw.Basic

/-! Uniform choice. A word is multiplied by the number of choices and its high half taken; where
the low half shows that a further word could carry into it, one is drawn. What there is to choose
from is never empty, by the types of the ranges. -/
namespace Fixture

/-- The integers from `low` to `high`, of which there is at least one. -/
structure IntRange where
  low : Int
  high : Int
  low_le_high : low ≤ high := by decide

/-- The natural numbers from `low` to `high`, of which there is at least one. -/
structure NatRange where
  low : Nat
  high : Nat
  low_le_high : low ≤ high := by decide

theorem NatRange.count_pos (r : NatRange) : 0 < r.high - r.low + 1 := Nat.succ_pos _

/-- Finite bounds, in order and at a finite distance from each other. -/
structure FloatRange where
  low : Binary64
  high : Binary64
  finite : low.isFinite ∧ high.isFinite
  ordered : high.lt low = false
  narrow : (high.sub low).isFinite

/-- A number between zero and one. -/
def Probability : Type := { p : Binary64.Finite // 0 ≤ p.signed ∧ p.signed ≤ Binary64.one }

namespace Draw

variable {α : Type}

/-- The high half of a product, and what a second one may carry into it, stay below the factor. -/
theorem high_lt {size range x y : Nat} (hx : x < size) (hy : y < size) (hr : 0 < range) :
    (x * range + y * range / size) / size < range := by
  have hp : 0 < size := Nat.zero_lt_of_lt hx
  have h₁ : y * range / size < range := by
    rw [Nat.div_lt_iff_lt_mul hp, Nat.mul_comm range]
    exact Nat.mul_lt_mul_of_pos_right hy hr
  have h₂ : (x + 1) * range ≤ size * range := Nat.mul_le_mul_right range hx
  rw [Nat.div_lt_iff_lt_mul hp, Nat.mul_comm range]
  rw [Nat.add_mul, Nat.one_mul] at h₂
  omega

/-- The high half of the product of a word and `range`. -/
def highHalf {size : Nat} (range : Nat) (h : 0 < range) (x : Fin size) : Fin range :=
  ⟨x * range / size, by simpa using high_lt x.isLt (Nat.zero_lt_of_lt x.isLt) h⟩

/-- A number below `range`, by words below `size`; `range` is at most `size`. -/
def scaled {size : Nat} (range : Nat) (h : 0 < range) (word : Draw (Fin size)) : Draw (Fin range) :=
  word.bind fun x =>
    if size - range < x * range % size then
      word.bind fun y =>
        done ⟨(x * range + y * range / size) / size, high_lt x.isLt y.isLt h⟩
    else done (highHalf range h x)

def below32 (range : Nat) (h : 0 < range) : Draw (Fin range) :=
  scaled range h (next32.bind fun w => done w.toFin)

def below64 (range : Nat) (h : 0 < range) : Draw (Fin range) :=
  scaled range h (next64.bind fun w => done w.toFin)

/-- A number below `range`, each with the same chance: of the words that give it, those in excess of
the others' are refused. -/
def fair (width : Width) (range : Nat) (h : 0 < range) : Attempt Stop (Fin range) :=
  ExceptT.mk ((nextAccepted width fun w =>
      decide (width.count % range ≤ w * range % width.count)).bind fun
    | some w => done (.ok (highHalf range h w))
    | none => done (.error .endless))

/-- An integer of a range. For all the integers of 64 bits the word itself is the integer, in two's
complement. -/
def integer (r : IntRange) : Draw Int :=
  if r.high - r.low + 1 = UInt64.size then next64.bind fun w => done w.toBitVec.toInt
  else
    (below64 (r.high - r.low + 1).toNat (by have := r.low_le_high; omega)).bind fun n =>
      done (r.low + n.val)

/-- An index into `count` choices. -/
def index (count : Nat) (h : 0 < count) : Draw (Fin count) :=
  if count < UInt32.size then below32 count h else below64 count h

/-- An index into `count` choices, each with the same chance. -/
def fairIndex (count : Nat) (h : 0 < count) : Attempt Stop (Fin count) :=
  fair (if count ≤ UInt32.size then .bits32 else .bits64) count h

/-- A natural number of a range; words of 32 bits do if one holds the bound. -/
def natural (r : NatRange) : Draw Nat :=
  if r.high < UInt32.size then
    (below32 (r.high - r.low + 1) r.count_pos).bind fun n => done (r.low + n.val)
  else (below64 (r.high - r.low + 1) r.count_pos).bind fun n => done (r.low + n.val)

/-- One of the choices. -/
def choose (choices : List α) (h : choices ≠ []) : Draw α :=
  (index choices.length (List.length_pos_iff.2 h)).bind fun i => done choices[i]

/-- True with probability `p`, certainty being decided without a draw. -/
def chance (p : Probability) : Draw Bool :=
  if p.val.units = Binary64.one then done true
  else next64.bind fun w => done (decide (w.toNat < p.val.units * UInt64.size / Binary64.one))

/-- A fraction of one with 52 bits. -/
def fraction : Draw Binary64 :=
  next64.bind fun w => done (.ofUnits false (w.toNat / 4096 * Nat.pow 2 1022))

/-- A float from the lower bound up to the upper one. -/
def float (r : FloatRange) : Draw Binary64 :=
  fraction.bind fun u => done ((u.mul (r.high.sub r.low)).add r.low)

/-- `count` more draws, after the ones that `drawn` lists from the last to the first. -/
def replicateAfter {m : Type → Type} [Monad m] (x : m α) (drawn : List α) : Nat → m (List α)
  | 0 => pure drawn.reverse
  | n + 1 => x >>= fun a => replicateAfter x (a :: drawn) n

/-- `count` draws, one after another. -/
def replicate {m : Type → Type} [Monad m] (count : Nat) (x : m α) : m (List α) :=
  replicateAfter x [] count

@[simp] theorem replicate_zero (x : Draw α) : replicate 0 x = done [] := rfl

end Draw
end Fixture
