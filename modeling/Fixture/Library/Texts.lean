import Fixture.Catalogue.Basic
import Fixture.Draw.Range
import Fixture.Regex.Sampler

/-! Generators of characters, texts, identifiers and choices. -/
namespace Fixture.Library

/-- The characters that a text is drawn from; one that stands there twice is drawn twice as often. -/
structure Pool where
  chars : List Char
  chars_ne_nil : chars ≠ []

/-- The characters of a text asked for without a pool. -/
def defaultPool : Pool where
  chars := "abcdefghijklmnopqrstuvwxyzABCDEFGHIJKLMNOPQRSTUVWXYZ0123456789".toList
  chars_ne_nil := by decide

def drawnText (x : Attempt Stop String) : Attempt Fault Value := Attempt.stopping (do
  return .text (← x))

def drawChars (pool : Pool) (length : Nat) : Draw Value := do
  return .text (String.ofList
    (← Draw.replicate length (Draw.choose pool.chars pool.chars_ne_nil)))

/-- The most characters that room can be made for. -/
def maxCapacity : Nat := 9223372036854775807

/-- Room is made for the characters before the first of them is drawn. -/
def drawText (pool : Pool) (length : Nat) : Attempt Stop Value :=
  if length ≤ maxCapacity then ExceptT.lift (drawChars pool length) else throw .capacity

/-- A text whose length is drawn too, unless only one is possible. -/
def drawTextBetween (pool : Pool) (lengths : NatRange) : Attempt Stop Value :=
  if lengths.low = lengths.high then drawText pool lengths.low
  else do drawText pool (← Draw.natural lengths)

def poolArgument (directive : String) (args : Arguments) : Except Fault Pool := do
  let s ← args.text 0
  if h : s.toList = [] then .error (.badArgument directive .emptyPool) else return ⟨s.toList, h⟩

def characterDescription : String := "single character from a pool (default alphanumeric)"

def character : Generator :=
  .ofAttempt "character" [] .text characterDescription fun _ _ => drawText defaultPool 1

def characterOf : Generator :=
  .ofPlan "character" [.text] .text characterDescription fun _ args => do
    let pool ← poolArgument "character" args
    return (drawText pool 1).stopping

def stringDescription : String := "random string: (), (len), (min, max) or (pool, len)"

/-- The lengths of a text asked for without one: at least one character, and within the limit unless
that is zero. -/
def defaultLengths (o : Options) : NatRange where
  low := 1
  high := max 1 (min o.maxTextLength (max 1 o.maxCount))
  low_le_high := Nat.le_max_left _ _

def string : Generator :=
  .ofAttempt "string" [] .text stringDescription fun o _ =>
    drawTextBetween defaultPool (defaultLengths o)

def stringOfLength : Generator :=
  .ofPlan "string" [.int] .text stringDescription fun o args => do
    let length ← args.count 0
    checkCount "string" length o.maxCount
    return (drawText defaultPool length).stopping

def stringBetween : Generator :=
  .ofPlan "string" [.int, .int] .text stringDescription fun o args => do
    let low ← args.count 0
    let high ← args.count 1
    if h : low ≤ high then
      checkCount "string" high o.maxCount
      return (drawTextBetween defaultPool ⟨low, high, h⟩).stopping
    else .error (.badArgument "string" (.order low high))

def stringOf : Generator :=
  .ofPlan "string" [.text, .int] .text stringDescription fun o args => do
    let length ← args.count 1
    checkCount "string" length o.maxCount
    let pool ← poolArgument "string" args
    return (drawText pool length).stopping

def uuid : Generator :=
  .ofDraw "uuid" [] .uuid "random v4 uuid" fun _ _ => do
    return .text (String.ofList (Uuid.random (← Draw.nextBytes 16)).text)

def regex : Generator :=
  .ofPlan "regex" [.text] .text "string matching a regular expression" fun o args => do
    let s ← args.text 0
    match Regex.sampler? o.maxRepeat s.toList with
    | some sampler => return drawnText (do return String.ofList (← sampler.draw))
    | none => .error (.badArgument "regex" (.pattern s))

def pick (arity : Nat) : Generator :=
  .ofDraw "pick" (List.replicate arity .text) .text "one of the given values" fun _ args =>
    if h : args.texts = [] then return .text "" else do return .text (← Draw.choose args.texts h)

def texts : List Generator :=
  [character, characterOf, string, stringOfLength, stringBetween, stringOf, uuid, regex] ++
    [2, 3, 4, 5, 6, 7, 8].map pick

end Fixture.Library
