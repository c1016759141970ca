import Fixture.Unicode.CharSet

/-! Regular expressions as they are written. -/
namespace Fixture.Regex

inductive Flag where
  | caseless | multiline | dotAll | swapGreed | unicode | crlf | spaced
  deriving DecidableEq

def Flag.ofLetter? : Char → Option Flag
  | 'i' => some caseless
  | 'm' => some multiline
  | 's' => some dotAll
  | 'U' => some swapGreed
  | 'u' => some unicode
  | 'R' => some crlf
  | 'x' => some spaced
  | _ => none

/-- The flags that are set, each with its value. -/
abbrev FlagChange := List (Flag × Bool)

structure Literal where
  char : Char
  /-- Written with two hexadecimal digits, as a byte may be. -/
  byte : Bool := false

/-- The classes that have a letter of their own. -/
inductive ShortClass where
  | digit | space | word

/-- A class by a property, or by a property and its value. -/
structure PropertyClass where
  negated : Bool
  name : List Char
  value : Option (List Char)

/-- What stands for itself or follows a backslash. -/
inductive Atom where
  | literal (l : Literal)
  | short (negated : Bool) (c : ShortClass)
  | property (p : PropertyClass)
  | dot
  /-- A position, such as the start of the text. -/
  | anchor

inductive SetOperation where
  | inter | diff | symmDiff

/-- What stands in brackets. -/
inductive SetExpr where
  | empty
  | literal (l : Literal)
  | range (first last : Literal)
  | ascii (negated : Bool) (chars : CharSet)
  | short (negated : Bool) (c : ShortClass)
  | property (p : PropertyClass)
  | bracketed (negated : Bool) (inside : SetExpr)
  | union (items : List SetExpr)
  | operation (op : SetOperation) (left right : SetExpr)

def SetExpr.ofItems : List SetExpr → SetExpr
  | [] => empty
  | [x] => x
  | xs => union xs

inductive GroupKind where
  | capture (name : Option String)
  | plain (change : FlagChange)

inductive Expr where
  | empty
  | flags (change : FlagChange)
  | atom (a : Atom)
  | set (negated : Bool) (inside : SetExpr)
  /-- At least `least` times, and at most `most` times unless that is unbounded. -/
  | repetition (e : Expr) (least : Nat) (most : Option Nat) (greedy : Bool)
  | group (kind : GroupKind) (e : Expr)
  | concat (es : List Expr)
  | either (es : List Expr)

namespace Expr

def sequence : List Expr → Expr
  | [] => empty
  | [e] => e
  | es => concat es

def choice : List Expr → Expr
  | [e] => e
  | es => either es

end Expr

mutual
def SetExpr.depth : SetExpr → Nat
  | .bracketed _ s => s.depth + 1
  | .union ss => SetExpr.listDepth ss + 1
  | .operation _ s t => max s.depth t.depth + 1
  | _ => 0

def SetExpr.listDepth : List SetExpr → Nat
  | [] => 0
  | s :: ss => max s.depth (SetExpr.listDepth ss)
end

mutual
/-- How deep the parts of an expression are nested. -/
def Expr.depth : Expr → Nat
  | .set _ s => s.depth + 1
  | .repetition e _ _ _ => e.depth + 1
  | .group _ e => e.depth + 1
  | .concat es => Expr.listDepth es + 1
  | .either es => Expr.listDepth es + 1
  | _ => 0

def Expr.listDepth : List Expr → Nat
  | [] => 0
  | e :: es => max e.depth (Expr.listDepth es)
end

mutual
/-- The names of groups, in the order of their opening. -/
def Expr.groupNames : Expr → List String
  | .repetition e _ _ _ => e.groupNames
  | .group (.capture (some name)) e => name :: e.groupNames
  | .group _ e => e.groupNames
  | .concat es => Expr.listGroupNames es
  | .either es => Expr.listGroupNames es
  | _ => []

def Expr.listGroupNames : List Expr → List String
  | [] => []
  | e :: es => e.groupNames ++ Expr.listGroupNames es
end

def greatestDepth : Nat := 250

/-- No expression is nested too deep, and no two groups share a name. -/
def Expr.isWellFormed (e : Expr) : Bool :=
  decide (e.depth ≤ greatestDepth) && decide e.groupNames.Nodup

end Fixture.Regex
