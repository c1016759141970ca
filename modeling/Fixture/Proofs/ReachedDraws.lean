import Fixture.Draw.Sources
import Fixture.Proofs.Draws

/-! What a draw comes to with some source. A value is reached if there are words that lead to it, and
what is chosen uniformly reaches everything that there is to choose from, the ends of a range
included: a choice is the high half of a product, and every one is the high half for some word. -/
namespace Fixture

theorem WordCycle.word_append (before after : List UInt64) (w : UInt64) :
    WordCycle.word ⟨before ++ w :: after, before.length⟩ = w := by
  have hlt : before.length < (before ++ w :: after).length := by simp
  have hindex : before.length % (before ++ w :: after).length = before.length :=
    Nat.mod_eq_of_lt hlt
  simp only [WordCycle.word]
  rw [hindex]
  simp

namespace Draw
variable {α β : Type} {x : Draw α} {a : α}

/-- The words, taken one after another, lead to the value, and none of them is left then. -/
def LeadsTo (x : Draw α) (words : List UInt64) (a : α) : Prop :=
  ∀ before after, x.run WordCycle.source ⟨before ++ words ++ after, before.length⟩ =
    (a, ⟨before ++ words ++ after, before.length + words.length⟩)

def Reaches (x : Draw α) (a : α) : Prop := ∃ words, x.LeadsTo words a

theorem LeadsTo.run {words : List UInt64} (h : x.LeadsTo words a) :
    x.run WordCycle.source ⟨words, 0⟩ = (a, ⟨words, words.length⟩) := by
  have hrun := h [] []
  simpa using hrun

section Steps

theorem reaches_done (a : α) : (done a).Reaches a := ⟨[], fun _ _ => by simp [run]⟩

theorem reaches_next64 (w : UInt64) : next64.Reaches w := by
  refine ⟨[w], fun before after => ?_⟩
  have hword := WordCycle.word_append before after w
  simp [next64, run, WordCycle.source, WordCycle.advance, hword]

theorem Reaches.bind {f : α → Draw β} {b : β} (hx : x.Reaches a) (hf : (f a).Reaches b) :
    (x.bind f).Reaches b := by
  obtain ⟨first, hfirst⟩ := hx
  obtain ⟨second, hsecond⟩ := hf
  refine ⟨first ++ second, fun before after => ?_⟩
  have h₁ := hfirst before (second ++ after)
  have h₂ := hsecond (before ++ first) after
  simp only [List.append_assoc, List.length_append, Nat.add_assoc] at h₁ h₂ ⊢
  rw [run_bind, h₁, h₂]

theorem Reaches.map {f : α → β} (hx : x.Reaches a) : (x.bind fun a => done (f a)).Reaches (f a) :=
  hx.bind (reaches_done _)

end Steps

section Scaled
variable {size range : Nat} {h : 0 < range}

/-- Every choice is the high half of the product with some word: with the least one whose product is
not below that choice. -/
theorem exists_highHalf (hr : range ≤ size) (k : Fin range) :
    ∃ x : Fin size, highHalf range h x = k := by
  have hk := k.isLt
  let x := (k * size + (range - 1)) / range
  have hdiv : range * x + (k * size + (range - 1)) % range = k * size + (range - 1) :=
    Nat.div_add_mod _ _
  have hmod : (k * size + (range - 1)) % range < range := Nat.mod_lt _ h
  have hlow : k * size ≤ x * range := by
    rw [Nat.mul_comm x]
    omega
  have hhigh : x * range < (k + 1) * size := by
    rw [Nat.mul_comm x, Nat.add_mul, Nat.one_mul]
    omega
  have hx : x < size := by
    have hle : (k + 1) * size ≤ range * size := Nat.mul_le_mul_right size hk
    have hlt : range * x < range * size := by
      rw [Nat.mul_comm range x]
      omega
    exact Nat.lt_of_mul_lt_mul_left hlt
  exact ⟨⟨x, hx⟩, Fin.ext (Nat.div_eq_of_lt_le hlow hhigh)⟩

/-- A second word of zero carries nothing into the high half. -/
theorem scaled_reaches_highHalf {word : Draw (Fin size)} (hword : ∀ x, word.Reaches x)
    (x : Fin size) : (scaled range h word).Reaches (highHalf range h x) := by
  refine (hword x).bind ?_
  split
  · have hzero : 0 < size := Nat.zero_lt_of_lt x.isLt
    have hsame : highHalf range h x =
        ⟨(x * range + (⟨0, hzero⟩ : Fin size) * range / size) / size, high_lt x.isLt hzero h⟩ := by
      simp [highHalf]
    rw [hsame]
    exact (hword ⟨0, hzero⟩).map
  · exact reaches_done _

end Scaled

section Words
variable {range : Nat} {h : 0 < range}

theorem toFin_next64_reaches (x : Fin UInt64.size) :
    (next64.bind fun w => done w.toFin).Reaches x :=
  (reaches_next64 ⟨⟨x⟩⟩).map

theorem below64_reaches (hr : range ≤ UInt64.size) (k : Fin range) :
    (below64 range h).Reaches k := by
  obtain ⟨x, rfl⟩ := exists_highHalf (h := h) hr k
  exact scaled_reaches_highHalf toFin_next64_reaches x

end Words

/-- All integers of a range are drawn, if 64 bits hold its bounds. -/
theorem integer_reaches (r : IntRange) (hl : -9223372036854775808 ≤ r.low)
    (hh : r.high < 9223372036854775808) {n : Int} (hn : r.low ≤ n) (hn' : n ≤ r.high) :
    (integer r).Reaches n := by
  unfold integer
  by_cases hall : r.high - r.low + 1 = UInt64.size
  · rw [if_pos hall]
    have hword : (BitVec.ofInt 64 n).toInt = n := by
      rw [BitVec.toInt_ofInt]
      exact Int.bmod_eq_of_le (by omega) (by omega)
    have hreach := (reaches_next64 ⟨BitVec.ofInt 64 n⟩).map (f := fun w => w.toBitVec.toInt)
    rwa [hword] at hreach
  · rw [if_neg hall]
    have hsize : (r.high - r.low + 1).toNat ≤ UInt64.size := by
      simp only [UInt64.size]
      omega
    have hlt : (n - r.low).toNat < (r.high - r.low + 1).toNat := by omega
    have hsum : r.low + ((n - r.low).toNat : Int) = n := by omega
    have hreach := (below64_reaches (h := by omega) hsize ⟨(n - r.low).toNat, hlt⟩).map
      (f := fun k => r.low + (k.val : Int))
    rwa [hsum] at hreach

section Choose
variable {choices : List α} {h : choices ≠ []}

end Choose

section Replicate
variable {P : α → Prop}

end Replicate

end Draw

namespace Attempt
variable {ε α : Type} {d : Draw α} {P : α → Prop}

theorem exists_of_always (h : d.Always P) {σ : Type} (source : Source σ) (s : σ) :
    ∃ a t, outcome (ExceptT.lift d : Attempt ε α) source s = (.ok a, t) ∧ P a := by
  have houtcome := outcome_draw (ε := ε) source s d
  exact ⟨_, _, houtcome, h.run source s⟩

theorem exists_of_reaches {a : α} (h : d.Reaches a) :
    ∃ words, outcome (ExceptT.lift d : Attempt ε α) WordCycle.source ⟨words, 0⟩ =
      (.ok a, ⟨words, words.length⟩) := by
  obtain ⟨words, hwords⟩ := h
  have houtcome := outcome_draw (ε := ε) WordCycle.source ⟨words, 0⟩ d
  rw [hwords.run] at houtcome
  exact ⟨words, houtcome⟩

end Attempt
end Fixture
