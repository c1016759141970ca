import Fixture.Catalogue.Basic
import Fixture.Draw.Range

/-! Generators of truth values and numbers. -/
namespace Fixture.Library

/-- One half. -/
def evenChance : Probability := ⟨⟨false, Nat.pow 2 1073, by decide +kernel⟩, by decide +kernel⟩

def probability (args : Arguments) : Except Fault Probability :=
  if args.length = 0 then .ok evenChance
  else do
    let p ← args.float 0
    match p with
    | .finite x =>
      if h : 0 ≤ x.signed ∧ x.signed ≤ Binary64.one then return ⟨x, h⟩
      else .error (.badArgument "boolean" (.probability p))
    | p => .error (.badArgument "boolean" (.probability p))

def boolean (params : List ParamKind) : Generator :=
  .ofPlan "boolean" params .bool "true with the given probability (default 0.5)" fun _ args => do
    let p ← probability args
    return ExceptT.lift (do return .bool (← Draw.chance p))

/-- The bounds of an integer: none given, an upper one, or both. -/
def integerBounds (name : String) (default : IntRange) (args : Arguments) :
    Except Fault IntRange :=
  if args.length = 1 then do
    let high ← args.int 0
    if h : 0 ≤ high then return ⟨0, high, h⟩ else .error (.badArgument name (.negativeHigh high))
  else return (← args.intBounds 0).getD default

def uniformInteger (r : IntRange) : Attempt Fault Value :=
  ExceptT.lift (do return .ofInt (← Draw.integer r))

def integerDescription : String := "uniform integer within inclusive bounds"

def integer (params : List ParamKind) : Generator :=
  .ofPlan "integer" params .int integerDescription fun _ args => do
    return uniformInteger (← integerBounds "integer" { low := -10000, high := 10000 } args)

def natural (params : List ParamKind) : Generator :=
  .ofPlan "natural" params .int integerDescription fun _ args => do
    let r ← integerBounds "natural" { low := 0, high := 10000 } args
    if r.low < 0 then .error (.badArgument "natural" (.negativeLow r.low))
    else return uniformInteger r

def greatestScale : Nat := 10

/-- The number of decimal places, if one is given. -/
def scale (args : Arguments) : Except Fault (Option Nat) :=
  if args.length < 3 then .ok none
  else do
    let n ← args.int 2
    if 0 ≤ n ∧ n ≤ greatestScale then return some n.toNat
    else .error (.badArgument "float" (.scale greatestScale n))

def defaultFloats : FloatRange where
  low := .ofInt 0
  high := .ofInt 10000
  finite := by decide +kernel
  ordered := by decide +kernel
  narrow := by decide +kernel

/-- The number rounded to decimal places, but within its bounds. -/
def roundTo (places : Nat) (r : FloatRange) (x : Binary64) : Binary64 :=
  let factor := Binary64.ofInt (Nat.pow 10 places)
  ((x.mul factor).roundHalfAway.div factor).clamp r.low r.high

/-- The number rounded to decimal places, if some are asked for. -/
def inPlaces (places : Option Nat) (r : FloatRange) (x : Binary64) : Binary64 :=
  match places with
  | some n => roundTo n r x
  | none => x

/-- The number as a value, unless it is not finite. -/
def floatValue : Binary64 → Except Fault Value
  | .finite x => .ok (.float x)
  | _ => .error (.badArgument "float" .generatedNotFinite)

/-- The number of decimal places is looked at after the float is drawn. -/
def float (params : List ParamKind) : Generator where
  name := "float"
  params
  output := .float
  description := "uniform float within inclusive bounds, optionally rounded to a scale"
  validate _ args := do
    let _ ← args.floatBounds 0
    (scale args).map fun _ => ()
  generate _ args := do
    let r := (← args.floatBounds 0).getD defaultFloats
    let x ← Draw.float r
    floatValue (inPlaces (← scale args) r x)

def numbers : List Generator := [
  boolean [], boolean [.float],
  integer [], integer [.int], integer [.int, .int],
  natural [], natural [.int, .int],
  float [], float [.float, .float], float [.float, .float, .int]]

end Fixture.Library
