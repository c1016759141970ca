/-! Sets of characters, as ascending ranges of positions. The position of a character is its rank
among all of them, so that the gap of the surrogates is no gap here. A table of a property, as of version
16.0 of the standard, runs through all characters in order: a count, left out when it is one, and the
code of the value that so many characters have. A code is a capital and the small letters after it. -/
namespace Fixture

structure CharSet where
  /-- First and last position of each range. -/
  ranges : List (Nat × Nat)
  deriving DecidableEq

namespace CharSet

def gapStart : Nat := 0xD800

def gapLength : Nat := 0x800

/-- How many characters there are. -/
def charCount : Nat := 0x110000 - gapLength

def position (c : Char) : Nat := if c.toNat < gapStart then c.toNat else c.toNat - gapLength

def charAt (n : Nat) : Char := Char.ofNat (if n < gapStart then n else n + gapLength)

/-- The range `r` and those after it, all sorted by their first position, made disjoint. -/
def join (r : Nat × Nat) : List (Nat × Nat) → List (Nat × Nat)
  | [] => [r]
  | s :: rs => if s.1 ≤ r.2 + 1 then join (r.1, max r.2 s.2) rs else r :: join s rs

def ofRanges (rs : List (Nat × Nat)) : CharSet :=
  match rs.mergeSort fun a b => a.1 ≤ b.1 with
  | [] => ⟨[]⟩
  | r :: rs => ⟨join r rs⟩

def empty : CharSet := ⟨[]⟩

def full : CharSet := ⟨[(0, charCount - 1)]⟩

/-- The characters from `a` to `b`. -/
def range (a b : Char) : CharSet := if a ≤ b then ⟨[(position a, position b)]⟩ else empty

def single (c : Char) : CharSet := range c c

def union (s t : CharSet) : CharSet := ofRanges (s.ranges ++ t.ranges)

def unions (ss : List CharSet) : CharSet := ofRanges (ss.flatMap ranges)

/-- The set of ranges that are given by the numbers of characters. -/
def ofCodes (rs : List (Nat × Nat)) : CharSet :=
  unions (rs.map fun r => range (Char.ofNat r.1) (Char.ofNat r.2))

/-- The positions from `start` on that lie between the ranges. -/
def gaps (start : Nat) : List (Nat × Nat) → List (Nat × Nat)
  | [] => if start < charCount then [(start, charCount - 1)] else []
  | r :: rs => (if start < r.1 then [(start, r.1 - 1)] else []) ++ gaps (r.2 + 1) rs

def complement (s : CharSet) : CharSet := ⟨gaps 0 s.ranges⟩

def inter (s t : CharSet) : CharSet := (s.complement.union t.complement).complement

def diff (s t : CharSet) : CharSet := s.inter t.complement

def symmDiff (s t : CharSet) : CharSet := (s.diff t).union (t.diff s)

def size (s : CharSet) : Nat := s.ranges.foldl (fun n r => n + (r.2 + 1 - r.1)) 0

/-- The `n`-th character. -/
def char? (n : Nat) : List (Nat × Nat) → Option Char
  | [] => none
  | r :: rs => if n < r.2 + 1 - r.1 then some (charAt (r.1 + n)) else char? (n - (r.2 + 1 - r.1)) rs

def contains (s : CharSet) (c : Char) : Bool :=
  s.ranges.any fun r => r.1 ≤ position c && position c ≤ r.2

end CharSet
end Fixture

namespace Fixture.Unicode

structure Table where
  text : String

namespace Table

def ofLines (lines : List String) : Table := ⟨String.join lines⟩

/-- What has been read of a run of characters: where it starts, the count, the code backwards. -/
structure Run where
  start : Nat
  count : Nat := 0
  code : List Char := []

namespace Run

def next (r : Run) : Nat := r.start + max 1 r.count

def ranges (r : Run) (wanted : String → Bool) : List (Nat × Nat) :=
  if wanted (String.ofList r.code.reverse) then [(r.start, r.next - 1)] else []

end Run

/-- The ranges of characters whose code is wanted, from the run at hand on. -/
def rangesFrom (wanted : String → Bool) (run : Run) : List Char → List (Nat × Nat)
  | [] => run.ranges wanted
  | c :: r =>
    if c.isLower ∨ c.isUpper ∧ run.code = [] then
      rangesFrom wanted { run with code := c :: run.code } r
    else if c.isUpper then
      run.ranges wanted ++ rangesFrom wanted { start := run.next, code := [c] } r
    else if run.code = [] then
      rangesFrom wanted { run with count := 10 * run.count + (c.toNat - 48) } r
    else run.ranges wanted ++ rangesFrom wanted { start := run.next, count := c.toNat - 48 } r

/-- The characters whose code is wanted. -/
def chars (t : Table) (wanted : String → Bool) : CharSet :=
  .ofRanges (rangesFrom wanted { start := 0 } t.text.toList)

/-- The characters with the code `Y`. -/
def yes (t : Table) : CharSet := t.chars (· == "Y")

end Table
end Fixture.Unicode
