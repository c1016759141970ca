import Fixture.Unicode.CharSet

/-! Patterns: what an expression asks for, in a form that has few ways to say one thing. The
functions that build a pattern keep it in that form. -/
namespace Fixture.Regex

inductive Pattern where
  | empty
  /-- A position, such as the start of the text; it matches no character. -/
  | anchor
  | text (s : List Char)
  /-- One character of a set, which was asked for as a set of bytes or not. -/
  | chars (set : CharSet) (bytes : Bool)
  /-- At least `least` times, and at most `most` times unless that is unbounded. -/
  | repeated (p : Pattern) (least : Nat) (most : Option Nat) (greedy : Bool)
  | capture (p : Pattern)
  | concat (ps : List Pattern)
  | either (ps : List Pattern)

namespace Pattern

mutual
/-- Patterns that say the same; a capture is the same as no other pattern. -/
def same : Pattern → Pattern → Bool
  | empty, empty => true
  | anchor, anchor => true
  | text s, text t => s == t
  | chars s b, chars t c => decide (s = t) && b == c
  | repeated p l m g, repeated q l' m' g' => l == l' && m == m' && g == g' && p.same q
  | concat ps, concat qs => areSame ps qs
  | either ps, either qs => areSame ps qs
  | _, _ => false

def areSame : List Pattern → List Pattern → Bool
  | [], [] => true
  | p :: ps, q :: qs => p.same q && areSame ps qs
  | _, _ => false
end

mutual
/-- No text that matches the pattern has a character. -/
def isBlank : Pattern → Bool
  | empty | anchor => true
  | text _ | chars _ _ => false
  | repeated p _ _ _ => p.isBlank
  | capture p => p.isBlank
  | concat ps => areBlank ps
  | either ps => areBlank ps

def areBlank : List Pattern → Bool
  | [] => true
  | p :: ps => p.isBlank && areBlank ps
end

/-- What no text matches. -/
def impossible : Pattern := chars .empty true

/-- One character of a set; the only one of a set is a text. -/
def ofChars (s : CharSet) (bytes : Bool) : Pattern :=
  match s.size with
  | 0 => impossible
  | 1 => text (CharSet.char? 0 s.ranges).toList
  | _ => chars s bytes

/-- What matches no character is repeated once at most; what is repeated never is empty, and what is
repeated just once is no repetition. -/
def times (p : Pattern) (least : Nat) (most : Option Nat) (greedy : Bool) : Pattern :=
  let (least, most) :=
    if p.isBlank then (min 1 least, some (min 1 (most.getD 1))) else (least, most)
  if least = 0 ∧ most = some 0 then empty
  else if least = 1 ∧ most = some 1 then p
  else repeated p least most greedy

/-! Sequences. -/

def pieces : Pattern → List Pattern
  | empty => []
  | concat ps => ps
  | p => [p]

/-- Neighbouring texts are one text. -/
def joinTexts : List Pattern → List Pattern
  | [] => []
  | text s :: ps =>
    match joinTexts ps with
    | text t :: qs => text (s ++ t) :: qs
    | qs => text s :: qs
  | p :: ps => p :: joinTexts ps

/-- One pattern after another. -/
def sequence (ps : List Pattern) : Pattern :=
  match joinTexts (ps.flatMap pieces) with
  | [] => empty
  | [p] => p
  | ps => concat ps

/-! Choices. -/

def branches : Pattern → List Pattern
  | either ps => ps
  | p => [p]

def char? : Pattern → Option Char
  | text [c] => some c
  | _ => none

def set? : Pattern → Option CharSet
  | chars s _ => some s
  | _ => none

/-- The set that a choice among single characters, or among sets of them, comes to. -/
def joinedSet? (ps : List Pattern) : Option CharSet :=
  ((ps.mapM char?).map fun cs => .unions (cs.map .single)).or ((ps.mapM set?).map .unions)

/-- A choice whose branches are taken as they are. -/
def plainChoice (ps : List Pattern) : Pattern :=
  match ps.flatMap branches with
  | [] => impossible
  | [p] => p
  | ps =>
    match joinedSet? ps with
    | some s => ofChars s false
    | none => either ps

def concat? : Pattern → Option (List Pattern)
  | concat ps => some ps
  | _ => none

/-- How many patterns two lists have in common before they differ. -/
def agreement : List Pattern → List Pattern → Nat
  | p :: ps, q :: qs => if p.same q then agreement ps qs + 1 else 0
  | _, _ => 0

/-- One of several patterns; what all of them begin with stands before the choice. -/
def choice (ps : List Pattern) : Pattern :=
  match plainChoice ps with
  | either qs =>
    match qs.mapM concat? with
    | some (first :: rest) =>
      let n := rest.foldl (fun n qs => min n (agreement first qs)) first.length
      if n = 0 then either qs
      else sequence (first.take n ++
        [plainChoice ((first :: rest).map fun qs => sequence (qs.drop n))])
    | _ => either qs
  | p => p

end Pattern
end Fixture.Regex
