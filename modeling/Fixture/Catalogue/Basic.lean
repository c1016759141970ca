import Fixture.Argument.Basic
import Fixture.Directive
import Fixture.Draw.Basic
import Fixture.Text
import Fixture.Value

/-! Catalogues: generators by name, those of one name standing in the order in which their parameter
lists were first registered. A generator has a name, the kinds of its parameters, and a way to draw a
value; all those of a catalogue share its options. -/
namespace Fixture

inductive Locale where
  | english | portuguese | chinese
  deriving DecidableEq, Inhabited

namespace Locale

def all : List Locale := [english, portuguese, chinese]

def name : Locale → String
  | english => "en_US"
  | portuguese => "pt_BR"
  | chinese => "zh_CN"

def ofName? (s : String) : Option Locale := all.find? (·.name == s)

/-- The spelling with a hyphen is read too. -/
def read? (s : String) : Option Locale :=
  ofName? (String.ofList ((Text.trim s.toList).map fun c => if c = '-' then '_' else c))

end Locale

structure Options where
  /-- The locale of names asked for without one. -/
  locale : Locale := .english
  /-- The most extra repetitions of an unbounded pattern. -/
  maxRepeat : Nat := 32
  /-- The length bound of texts asked for without one. -/
  maxTextLength : Nat := 32
  /-- The largest length or count that may be asked for. -/
  maxCount : Nat := 10000
  deriving DecidableEq, Inhabited

structure Generator where
  name : String
  params : List ParamKind
  output : ValueKind
  description : String := ""
  /-- Refuses arguments of the right kinds that mean nothing. -/
  validate : Options → Arguments → Except Fault Unit := fun _ _ => .ok ()
  generate : Options → Arguments → Attempt Fault Value

namespace Generator

/-- A generator that accepts the arguments which `plan` finds a draw for. -/
def ofPlan (name : String) (params : List ParamKind) (output : ValueKind) (description : String)
    (plan : Options → Arguments → Except Fault (Attempt Fault Value)) : Generator where
  name
  params
  output
  description
  validate o args := (plan o args).map fun _ => ()
  generate o args :=
    match plan o args with
    | .ok draw => draw
    | .error e => throw e

/-- A generator that accepts all arguments of its kinds. -/
def ofDraw (name : String) (params : List ParamKind) (output : ValueKind) (description : String)
    (draw : Options → Arguments → Draw Value) : Generator where
  name
  params
  output
  description
  generate o args := ExceptT.lift (draw o args)

/-- A generator that accepts all arguments of its kinds, and whose draw may give nothing. -/
def ofAttempt (name : String) (params : List ParamKind) (output : ValueKind) (description : String)
    (draw : Options → Arguments → Attempt Stop Value) : Generator where
  name
  params
  output
  description
  generate o args := (draw o args).stopping

def arity (g : Generator) : Nat := g.params.length

def signature (g : Generator) : String :=
  g.name ++ "(" ++ ", ".intercalate (g.params.map ParamKind.name) ++ ") -> " ++ g.output.name

/-- The arguments have the forms of the parameters. -/
def fits (g : Generator) (args : List Value) : Bool :=
  (g.params.zip args).all fun p => p.1.fits p.2

def coerce (g : Generator) (name : String) (args : List Value) : Except Fault Arguments :=
  Arguments.coerce name g.params args

end Generator

structure Catalogue where
  options : Options := {}
  /-- Sorted by name. -/
  entries : List (String × List Generator) := []

namespace Catalogue

def empty (options : Options) : Catalogue := { options }

/-- The generator in the slot of the same parameters is replaced and returned. -/
def place (g : Generator) : List Generator → List Generator × Option Generator
  | [] => ([g], none)
  | h :: hs =>
    if h.params = g.params then (g :: hs, some h)
    else
      let r := place g hs
      (h :: r.1, r.2)

def placeNamed (g : Generator) :
    List (String × List Generator) → List (String × List Generator) × Option Generator
  | [] => ([(g.name, [g])], none)
  | (n, hs) :: es =>
    if n = g.name then
      let r := place g hs
      ((n, r.1) :: es, r.2)
    else if g.name < n then ((g.name, [g]) :: (n, hs) :: es, none)
    else
      let r := placeNamed g es
      ((n, hs) :: r.1, r.2)

def register (c : Catalogue) (g : Generator) : Catalogue × Option Generator :=
  let r := placeNamed g c.entries
  ({ c with entries := r.1 }, r.2)

def registerAll (c : Catalogue) (gs : List Generator) : Catalogue :=
  gs.foldl (fun c g => (c.register g).1) c

/-- The generators of a name. -/
def overloads (c : Catalogue) (name : String) : List Generator :=
  (c.entries.lookup name).getD []

def candidates (c : Catalogue) (name : String) (arity : Nat) : List Generator :=
  (c.overloads name).filter fun g => g.arity == arity

/-- The first of the generators that all arguments can be coerced for, or the first fault. -/
def firstCoercible (name : String) (args : List Value) : List Generator → Except Fault Generator
  | [] => .error (.unknownDirective name args.length)
  | g :: gs =>
    match g.coerce name args with
    | .ok _ => .ok g
    | .error e =>
      match gs.find? fun h => (h.coerce name args).isOk with
      | some h => .ok h
      | none => .error e

/-- The generator for a call: the first whose parameters have the forms of the arguments, else the
first that the arguments can be coerced for. -/
def lookup (c : Catalogue) (name : String) (args : List Value) : Except Fault Generator :=
  let gs := c.candidates name args.length
  match gs.find? (·.fits args) with
  | some g => .ok g
  | none => firstCoercible name args gs

def contains (c : Catalogue) (name : String) (arity : Nat) : Bool :=
  (c.overloads name).any fun g => g.arity == arity

/-- The generator for a call and the coerced arguments that it accepts. -/
def prepare (c : Catalogue) (call : Call) : Except Fault (Generator × Arguments) := do
  let g ← c.lookup call.name call.args
  let args ← g.coerce call.name call.args
  g.validate c.options args
  return (g, args)

/-- Everything but the draw. -/
def check (c : Catalogue) (call : Call) : Except Fault Unit := (c.prepare call).map fun _ => ()

def resolve (c : Catalogue) (call : Call) : Attempt Fault Value :=
  match c.prepare call with
  | .ok (g, args) => g.generate c.options args
  | .error e => throw e

def generators (c : Catalogue) : List Generator := c.entries.flatMap Prod.snd

/-- All generators by name and arity. -/
def directives (c : Catalogue) : List Generator :=
  c.generators.mergeSort fun a b => a.name < b.name || (a.name == b.name && a.arity ≤ b.arity)

def signatures (c : Catalogue) : List String := c.directives.map Generator.signature

def names (c : Catalogue) : List String := c.entries.map Prod.fst

def size (c : Catalogue) : Nat := c.generators.length

def isEmpty (c : Catalogue) : Bool := c.entries.isEmpty

end Catalogue
end Fixture
