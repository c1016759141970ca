import Fixture.Outcome

/-! Computations that draw from a source of random words. A draw asks for its words one after
another and says nothing of the source, so what it does with every source can be read off it. -/
namespace Fixture

/-- The sizes of words, in bits. -/
inductive Width where
  | bits32 | bits64

namespace Width

/-- How many words there are. -/
def count : Width → Nat
  | bits32 => UInt32.size
  | bits64 => UInt64.size

end Width

inductive Draw (α : Type) where
  | done (a : α)
  | word32 (next : UInt32 → Draw α)
  | word64 (next : UInt64 → Draw α)
  | bytes (count : Nat) (next : Vector UInt8 count → Draw α)
  /-- Takes words up to the first that is accepted; goes on with none where none ever is. -/
  | search (width : Width) (accepts : Fin width.count → Bool)
      (next : Option (Fin width.count) → Draw α)

namespace Draw

variable {α β γ : Type}

def bind : Draw α → (α → Draw β) → Draw β
  | done a, f => f a
  | word32 k, f => word32 fun w => (k w).bind f
  | word64 k, f => word64 fun w => (k w).bind f
  | bytes n k, f => bytes n fun bs => (k bs).bind f
  | search width accepts k, f => search width accepts fun w => (k w).bind f

instance : Monad Draw where
  pure := done
  bind := bind

@[simp] theorem pure_eq (a : α) : (pure a : Draw α) = done a := rfl
@[simp] theorem done_bind (a : α) (f : α → Draw β) : (done a).bind f = f a := rfl

theorem bind_done (x : Draw α) : x.bind done = x := by
  induction x <;> simp_all [bind]

theorem bind_assoc (x : Draw α) (f : α → Draw β) (g : β → Draw γ) :
    (x.bind f).bind g = x.bind fun a => (f a).bind g := by
  induction x <;> simp_all [bind]

instance : LawfulMonad Draw := LawfulMonad.mk' Draw bind_done (fun _ _ => rfl) bind_assoc

def next32 : Draw UInt32 := word32 done

def next64 : Draw UInt64 := word64 done

def nextBytes (count : Nat) : Draw (Vector UInt8 count) := bytes count done

def nextAccepted (width : Width) (accepts : Fin width.count → Bool) :
    Draw (Option (Fin width.count)) :=
  search width accepts done

end Draw

/-- A source: how each request is met and what is left of the source then. -/
structure Source (σ : Type) where
  word32 : σ → UInt32 × σ
  word64 : σ → UInt64 × σ
  bytes : (count : Nat) → σ → Vector UInt8 count × σ

namespace Source

variable {σ : Type}

def word (source : Source σ) (s : σ) : (width : Width) → Fin width.count × σ
  | .bits32 => let w := source.word32 s; (w.1.toFin, w.2)
  | .bits64 => let w := source.word64 s; (w.1.toFin, w.2)

/-- The first word to come that is accepted, if one ever is. -/
def search (source : Source σ) (width : Width) (accepts : Fin width.count → Bool) (s : σ) :
    Option (Fin width.count × σ) :=
  let w := source.word s width
  if accepts w.1 then some w else source |>.search width accepts w.2
partial_fixpoint

end Source

namespace Draw

variable {α β σ : Type}

def run (source : Source σ) : Draw α → σ → α × σ
  | done a, s => (a, s)
  | word32 k, s => let w := source.word32 s; run source (k w.1) w.2
  | word64 k, s => let w := source.word64 s; run source (k w.1) w.2
  | bytes n k, s => let bs := source.bytes n s; run source (k bs.1) bs.2
  | search width accepts k, s =>
    match source.search width accepts s with
    | some w => run source (k (some w.1)) w.2
    | none => run source (k none) s

theorem run_bind (source : Source σ) (x : Draw α) (f : α → Draw β) (s : σ) :
    (x.bind f).run source s = (f (x.run source s).1).run source (x.run source s).2 := by
  induction x generalizing s with
  | search width accepts k ih =>
    cases h : source.search width accepts s <;> simp [bind, run, h, ih]
  | _ => simp_all [bind, run]

end Draw

/-- A draw that may end in a failure. -/
abbrev Attempt (ε α : Type) := ExceptT ε Draw α

/-- Why a draw gives nothing. -/
inductive Stop where
  /-- No text can have so many characters. -/
  | capacity
  /-- There is no such date. -/
  | dateOverflow
  /-- There is nothing to choose from. -/
  | emptyRange
  /-- None of the words to come is accepted. -/
  | endless
  deriving DecidableEq

end Fixture
