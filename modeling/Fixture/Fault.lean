import Fixture.Calendar.Basic
import Fixture.Coercion.Basic
import Fixture.Draw.Basic
import Fixture.Value

/-! What can go wrong, by cause, and the wording of each cause. -/
namespace Fixture

/-- Why a text is not a directive. -/
inductive SyntaxProblem where
  | head
  | missingArgument
  | emptyArgument
  | unterminated
  | escape (c : Char)
  | unexpected (c : Char) (after : Nat)
  | notLiteral (token : String)
  deriving DecidableEq

namespace SyntaxProblem

def message : SyntaxProblem → String
  | head => "expected '@name' or '@name(arg, ...)' with a name of letters, digits or '_'"
  | missingArgument => "missing argument after ','"
  | emptyArgument => "empty argument"
  | unterminated => "unterminated string argument"
  | escape c => "unsupported escape '\\" ++ c.toString ++ "'"
  | unexpected c n => "unexpected '" ++ c.toString ++ "' after argument " ++ toString n
  | notLiteral t => "argument '" ++ t ++ "' is not a number or quoted string"

end SyntaxProblem

/-- Why a rule is refused, or, for the last three, does not belong to its field. -/
inductive RuleProblem where
  | directive (p : SyntaxProblem)
  | notMapping (found : String)
  | emptySegment
  | repeatedField (typeName field : String)
  | unknownField (typeName segment : String)
  | notNested
  | missingValue
  | notObject (orNull : Bool) (found : String)
  | insideList
  | notList (found : String)
  | notItem (found : String)
  | wrongForm
  | itemNotNested
  | nestedValue
  deriving DecidableEq

namespace RuleProblem

def message : RuleProblem → String
  | directive p => p.message
  | notMapping found => "rule set must be a mapping, found " ++ found
  | emptySegment => "empty path segment"
  | repeatedField t f => "'" ++ t ++ "' declares field '" ++ f ++ "' more than once"
  | unknownField t s => "'" ++ t ++ "' has no field '" ++ s ++ "'"
  | notNested => "not a nested type, cannot descend into it"
  | missingValue => "missing value"
  | notObject orNull found =>
    "nested field expects " ++ (if orNull then "a mapping or null" else "a mapping") ++
      ", found " ++ found
  | insideList => "cannot descend into a list field"
  | notList found => "list field expects an array of mappings, found " ++ found
  | notItem found => "expected a mapping, found " ++ found
  | wrongForm => "rule does not match the field kind"
  | itemNotNested => "expected a nested rule set"
  | nestedValue => "nested rule set where a value was expected"

end RuleProblem

/-- Why a generator refuses arguments of the right kinds. -/
inductive ArgumentProblem where
  | missing (kind : ParamKind) (index : Nat)
  | negative (index : Nat) (n : Int)
  | order (low high : Int)
  | floatOrder (low high : Binary64)
  | notFinite (low high : Binary64)
  | tooWide (low high : Binary64)
  | aboveLimit (count limit : Nat)
  | probability (p : Binary64)
  | negativeHigh (high : Int)
  | negativeLow (low : Int)
  | scale (most : Nat) (n : Int)
  | generatedNotFinite
  | emptyPool
  | pattern (p : String)
  | notDate (text : String)
  | dateOrder (low high : Date)
  | format (text : String)
  | formatMisfit
  | locale (text : String) (supported : List String)
  | zeroHigh
  | refused (reason : String)
  deriving DecidableEq

namespace ArgumentProblem

def number (n : Int) : String := String.ofList (Text.signedDecimal n)

def float (x : Binary64) : String := String.ofList x.plainText

def outOfOrder (low high : String) : String := "min must be <= max, got " ++ low ++ " > " ++ high

def message : ArgumentProblem → String
  | missing k i => "missing " ++ k.name ++ " argument #" ++ number i
  | negative i n => "argument #" ++ number i ++ " must be >= 0, got " ++ number n
  | order low high => outOfOrder (number low) (number high)
  | floatOrder low high => outOfOrder (float low) (float high)
  | notFinite low high => "bounds must be finite, got " ++ float low ++ " and " ++ float high
  | tooWide low high => "range " ++ float low ++ "..=" ++ float high ++ " is too wide"
  | aboveLimit count limit => "count " ++ number count ++ " exceeds the limit of " ++ number limit
  | probability p => "probability must be within [0, 1], got " ++ float p
  | negativeHigh n => "max must be >= 0, got " ++ number n
  | negativeLow n => "min must be >= 0, got " ++ number n
  | scale most n => "scale must be within [0, " ++ number most ++ "], got " ++ number n
  | generatedNotFinite => "generated a non-finite value"
  | emptyPool => "character pool must not be empty"
  | pattern p => "invalid pattern '" ++ p ++ "'"
  | notDate s => "'" ++ s ++ "' is not a YYYY-MM-DD date"
  | dateOrder low high => outOfOrder (String.ofList low.text) (String.ofList high.text)
  | format s => "invalid format '" ++ s ++ "'"
  | formatMisfit => "format does not apply to this value"
  | locale s supported =>
    "unsupported locale '" ++ s ++ "' (supported: " ++ ", ".intercalate supported ++ ")"
  | zeroHigh => "max must be > 0"
  | refused reason => reason

end ArgumentProblem

/-- Why there is no object of a type. -/
inductive ConstructionProblem where
  | noConstructor
  /-- The type's schema is that of another type. -/
  | foreignSchema (name : String)
  /-- What was built is of another type. -/
  | foreignObject (m : Mismatch)
  | failed (reason : String)
  deriving DecidableEq

def ConstructionProblem.message : ConstructionProblem → String
  | noConstructor => "no constructor registered"
  | foreignSchema name => "schema describes '" ++ name ++ "'"
  | foreignObject m => m.message
  | failed reason => reason

inductive Fault where
  | unknownDirective (name : String) (arity : Nat)
  | malformed (path : String) (problem : RuleProblem)
  | notConstructible (typeName : String) (problem : ConstructionProblem)
  | notAssignable (typeName field : String)
  | mismatch (path : String) (cause : Mismatch)
  | badArgument (directive : String) (problem : ArgumentProblem)
  /-- No answer is given. -/
  | stopped (cause : Stop)
  deriving DecidableEq

namespace Fault

def message : Fault → String
  | unknownDirective name arity =>
    "directive not found: @" ++ name ++ " with " ++ toString arity ++ " argument(s)"
  | malformed path p => "parse error at '" ++ path ++ "': " ++ p.message
  | notConstructible t p => "cannot construct '" ++ t ++ "': " ++ p.message
  | notAssignable t field => "field '" ++ field ++ "' of '" ++ t ++ "' is not assignable"
  | mismatch path cause => "cannot assign '" ++ path ++ "': " ++ cause.message
  | badArgument d p => "invalid arguments for @" ++ d ++ ": " ++ p.message
  | stopped _ => ""

/-- The short stable name of the sort of fault. -/
def code : Fault → String
  | unknownDirective .. => "directive_not_found"
  | malformed .. => "parse_error"
  | notConstructible .. => "construction_error"
  | notAssignable .. => "assignment_error"
  | mismatch .. => "coercion_error"
  | badArgument .. => "invalid_argument"
  | stopped _ => "panic"

end Fault

/-- A draw that gives nothing, as a fault of the call. -/
def Attempt.stopping {α : Type} (x : Attempt Stop α) : Attempt Fault α := x.adapt Fault.stopped

end Fixture
