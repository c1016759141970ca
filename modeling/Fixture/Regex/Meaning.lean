import Fixture.Regex.Pattern
import Fixture.Regex.Syntax
import Fixture.Unicode.Property

/-! The pattern that an expression means. A change of flags holds for the rest of the group in which
it stands. Without the flag `unicode` characters are bytes; since only a valid text may match, no
set can then hold more than the bytes of ASCII. -/
namespace Fixture.Regex

structure Flags where
  caseless : Bool := false
  dotAll : Bool := false
  swapGreed : Bool := false
  unicode : Bool := true
  crlf : Bool := false

namespace Flags

/-- The flags that bear on positions and on the layout have no bearing on what is drawn. -/
def set (f : Flags) : Flag × Bool → Flags
  | (.caseless, b) => { f with caseless := b }
  | (.dotAll, b) => { f with dotAll := b }
  | (.swapGreed, b) => { f with swapGreed := b }
  | (.unicode, b) => { f with unicode := b }
  | (.crlf, b) => { f with crlf := b }
  | (.multiline, _) | (.spaced, _) => f

def change (f : Flags) (c : FlagChange) : Flags := c.foldl set f

def asciiChars : CharSet := .ofCodes [(0, 0x7F)]

/-- With the other cases, if case does not matter. -/
def fold (f : Flags) (s : CharSet) : CharSet :=
  if f.caseless then
    if f.unicode then Unicode.withCases s else (Unicode.withCases s).inter asciiChars
  else s

/-- What is not in a set of bytes are not only bytes of ASCII. -/
def negate? (f : Flags) (negated : Bool) (s : CharSet) : Option CharSet :=
  if negated then if f.unicode then some s.complement else none else some s

end Flags

def Literal.isAscii (l : Literal) : Bool := l.char.toNat < 0x80

namespace ShortClass

def chars : ShortClass → CharSet
  | digit => Unicode.Category.chars ["Nd"]
  | space => Unicode.whiteSpace
  | word => Unicode.wordChars

def bytes : ShortClass → CharSet
  | digit => .range '0' '9'
  | space => .unions [.range '\t' '\r', .single ' ']
  | word => .unions [.range '0' '9', .range 'A' 'Z', .single '_', .range 'a' 'z']

/-- The classes have the other cases of their characters already. -/
def chars? (f : Flags) (negated : Bool) (c : ShortClass) : Option CharSet :=
  f.negate? negated (if f.unicode then c.chars else c.bytes)

end ShortClass

def PropertyClass.chars? (f : Flags) (p : PropertyClass) : Option CharSet := do
  let s ← match p.value with
    | none => Unicode.named? p.name
    | some value => Unicode.valued? p.name value
  if f.unicode then f.negate? p.negated (f.fold s) else none

def SetOperation.apply : SetOperation → CharSet → CharSet → CharSet
  | inter => CharSet.inter
  | diff => CharSet.diff
  | symmDiff => CharSet.symmDiff

mutual
/-- The set that stands in brackets. The other cases are added to the sides of an operation and
before a negation. -/
def SetExpr.chars? (f : Flags) : SetExpr → Option CharSet
  | .empty => some .empty
  | .literal l => if f.unicode || l.isAscii then some (.single l.char) else none
  | .range a b =>
    if f.unicode || (a.isAscii && b.isAscii) then some (.range a.char b.char) else none
  | .ascii negated s => f.negate? negated (f.fold s)
  | .short negated c => c.chars? f negated
  | .property p => p.chars? f
  | .bracketed negated s => do f.negate? negated (f.fold (← s.chars? f))
  | .union ss => SetExpr.listChars? f ss
  | .operation op s t => do return op.apply (f.fold (← s.chars? f)) (f.fold (← t.chars? f))

def SetExpr.listChars? (f : Flags) : List SetExpr → Option CharSet
  | [] => some .empty
  | s :: ss => do return (← s.chars? f).union (← SetExpr.listChars? f ss)
end

/-- What a dot stands for: all but what ends a line, unless that is asked for too. -/
def Flags.dotChars (f : Flags) : CharSet :=
  if f.dotAll then .full
  else if f.crlf then (CharSet.unions [.single '\n', .single '\r']).complement
  else (CharSet.single '\n').complement

/-- A literal may stand for a character beyond ASCII where characters are bytes, but not for one of
its bytes. -/
def Atom.pattern? (f : Flags) : Atom → Option Pattern
  | literal l =>
    if f.unicode || l.isAscii then some (.ofChars (f.fold (.single l.char)) !f.unicode)
    else if l.byte then none
    else some (.text [l.char])
  | short negated c => do return .ofChars (← c.chars? f negated) !f.unicode
  | property p => do return .ofChars (← p.chars? f) false
  | dot => if f.unicode then some (.ofChars f.dotChars false) else none
  | anchor => some .anchor

mutual
/-- The pattern of an expression, and the flags for what follows it. -/
def Expr.pattern? (f : Flags) : Expr → Option (Pattern × Flags)
  | .empty => some (.empty, f)
  | .flags change => some (.empty, f.change change)
  | .atom a => do return (← a.pattern? f, f)
  | .set negated s => do
    return (.ofChars (← f.negate? negated (f.fold (← s.chars? f))) !f.unicode, f)
  | .repetition e least most greedy => do
    let (p, g) ← e.pattern? f
    return (p.times least most (greedy != g.swapGreed), g)
  | .group (.capture _) e => do return (.capture (← e.pattern? f).1, f)
  | .group (.plain change) e => do return ((← e.pattern? (f.change change)).1, f)
  | .concat es => do
    let (ps, g) ← Expr.listPatterns? f es
    return (.sequence ps, g)
  | .either es => do
    let (ps, g) ← Expr.listPatterns? f es
    return (.choice ps, g)

def Expr.listPatterns? (f : Flags) : List Expr → Option (List Pattern × Flags)
  | [] => some ([], f)
  | e :: es => do
    let (p, g) ← e.pattern? f
    let (ps, h) ← Expr.listPatterns? g es
    return (p :: ps, h)
end

end Fixture.Regex
