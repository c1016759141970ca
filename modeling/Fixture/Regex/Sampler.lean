import Fixture.Draw.Range
import Fixture.Regex.Meaning
import Fixture.Regex.Reading

/-! Drawing a text that an expression matches. Sets and choices are not empty, and ranges of counts
have their bounds in order: all that can go wrong is that a word is sought in vain. -/
namespace Fixture.Regex

/-- A fixed count times a count from each of the ranges. -/
structure Count where
  fixed : UInt32 := 1
  ranges : List NatRange := []

inductive Sampler where
  | text (s : List Char)
  | chars (s : CharSet) (size_pos : 0 < s.size)
  | sequence (parts : List Sampler)
  /-- One of the samplers. -/
  | choice (first : Sampler) (rest : List Sampler)
  | times (count : Count) (s : Sampler)

namespace Count

def isOne (c : Count) : Bool := c.fixed == 1 && c.ranges.isEmpty

/-- The count as often as one from `low` to `high` says. -/
def between? (c : Count) (low high : UInt32) : Option Count :=
  if low = high then some { c with fixed := c.fixed * low }
  else if h : low.toNat ≤ high.toNat then
    some { c with ranges := c.ranges ++ [⟨low.toNat, high.toNat, h⟩] }
  else none

def drawFrom (r : NatRange) : Attempt Stop UInt32 := do
  let n ← Draw.fair .bits32 (r.high - r.low + 1) r.count_pos
  return UInt32.ofNat (r.low + n.val)

/-- The product of all counts, every one of which is drawn. -/
def draw (c : Count) : Attempt Stop UInt32 :=
  c.ranges.foldlM (fun n r => do return n * (← drawFrom r)) c.fixed

end Count

namespace Sampler

/-- The count of a sampler and what it counts. -/
def counted : Sampler → Count × Sampler
  | times c s => (c, s)
  | s => ({}, s)

/-- A count of one is left out. -/
def withCount (c : Count) (s : Sampler) : Sampler := if c.isOne then s else times c s

/-- Repeated from `low` to `high` times. A sampler has one count at most: that of what is repeated
again is the product. -/
def between? (s : Sampler) (low high : UInt32) : Option Sampler :=
  (s.counted.1.between? low high).map fun c => withCount c s.counted.2

/-- A choice that is not repeated is, in another choice, one with it. -/
def branches : Sampler → List Sampler
  | choice s ss => s :: ss
  | s => [s]

def choice? (ss : List Sampler) : Option Sampler :=
  match ss.flatMap branches with
  | [] => none
  | s :: ss => some (choice s ss)

mutual
def draw : Sampler → Attempt Stop (List Char)
  | text s => return s
  | chars s h => do return (CharSet.char? (← Draw.fair .bits32 s.size h) s.ranges).toList
  | sequence parts => drawAll parts
  | choice first rest => do
    match (← Draw.fairIndex (rest.length + 1) (Nat.succ_pos _)).val with
    | 0 => first.draw
    | n + 1 => drawNth rest n
  | times count s => do return (← Draw.replicate (← count.draw).toNat s.draw).flatten

def drawAll : List Sampler → Attempt Stop (List Char)
  | [] => return []
  | s :: ss => do return (← s.draw) ++ (← drawAll ss)

def drawNth : List Sampler → Nat → Attempt Stop (List Char)
  | [], _ => return []
  | s :: _, 0 => s.draw
  | _ :: ss, n + 1 => drawNth ss n
end

end Sampler

mutual
/-- The sampler of a pattern, unless it asks for a position or for a character of an empty set. An
unbounded repetition goes `extra` times beyond its least count. -/
def Pattern.sampler? (extra : UInt32) : Pattern → Option Sampler
  | .empty => some (.text [])
  | .anchor => none
  | .text s => some (.text s)
  | .chars s _ => if h : 0 < s.size then some (.chars s h) else none
  | .repeated p least most _ => do
    let low := UInt32.ofNat least
    (← p.sampler? extra).between? low (match most with
      | some n => .ofNat n
      | none => low + extra)
  | .capture p => p.sampler? extra
  | .concat ps => (Pattern.listSamplers? extra ps).map Sampler.sequence
  | .either ps => (Pattern.listSamplers? extra ps).bind Sampler.choice?

def Pattern.listSamplers? (extra : UInt32) : List Pattern → Option (List Sampler)
  | [] => some []
  | p :: ps => do return (← p.sampler? extra) :: (← Pattern.listSamplers? extra ps)
end

/-- The sampler of the expression that a text is. -/
def sampler? (extra : Nat) (s : List Char) : Option Sampler := do
  (← (← Expr.read? s).pattern? {}).1.sampler? (.ofNat extra)

end Fixture.Regex
