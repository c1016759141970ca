import Fixture.Proofs.CountLimit
import Fixture.Proofs.ReachedDraws

/-! What the text directives are asked for, and that it is what they give. A call asks for a text over
a pool of characters, with a length between two bounds, or for one of its arguments; every length
and every argument is given with some source. -/
namespace Fixture
open Outcome

inductive TextRequest where
  | drawn (pool : List Char) (low high : Nat)
  | oneOf (texts : List String)

namespace TextRequest

def Allows : TextRequest → String → Prop
  | drawn pool low high, s => low ≤ s.length ∧ s.length ≤ high ∧ ∀ c ∈ s.toList, c ∈ pool
  | oneOf texts, s => s ∈ texts

/-- All texts that are asked for are given; if a word cannot number the characters of the pool, still
all lengths. -/
def Covered : TextRequest → (String → Prop) → Prop
  | drawn pool low high, Given =>
    (∀ n, low ≤ n → n ≤ high → ∃ s, s.length = n ∧ Given s) ∧
      (pool.length ≤ UInt64.size → ∀ s, (drawn pool low high).Allows s → Given s)
  | oneOf texts, Given => ∀ s ∈ texts, Given s

/-- No longer text is drawn from a pool. -/
def Within (limit : Nat) : TextRequest → Prop
  | drawn _ _ high => high ≤ limit
  | oneOf _ => True

theorem Covered.mono {r : TextRequest} {P Q : String → Prop} (h : r.Covered P)
    (hpq : ∀ s, P s → Q s) : r.Covered Q := by
  cases r with
  | drawn pool low high =>
    refine ⟨fun n hn hn' => ?_, fun hp s hs => hpq s (h.2 hp s hs)⟩
    obtain ⟨s, hs, hgiven⟩ := h.1 n hn hn'
    exact ⟨s, hs, hpq s hgiven⟩
  | oneOf texts => exact fun s hs => hpq s (h s hs)

end TextRequest

namespace Library
open Draw

section DrawChars
variable (pool : Pool)

end DrawChars

end Library

namespace Generator

end Generator

namespace Library
open Generator

section Faked
variable {fakers : Fakers}

end Faked
end Library

end Fixture
