import Fixture.Library.Moments
import Fixture.Library.Numbers
import Fixture.Library.People
import Fixture.Library.Texts

/-! Generators of words, sentences and paragraphs of placeholder text, and the catalogue of all
generators of the library. -/
namespace Fixture

namespace Library

/-- Counts of which the upper one must not be zero. -/
def countRange (name : String) (o : Options) (low high : Nat) : Except Fault NatRange :=
  if h : low ≤ high then
    if high = 0 then .error (.badArgument name .zeroHigh)
    else do
      checkCount name high o.maxCount
      return ⟨low, high, h⟩
  else .error (.badArgument name (.order low high))

/-- Counts that are not given are held to the limit as well. -/
def placeholder (name description : String) (low high : Nat)
    (draw : NatRange → Attempt Stop String) : Generator :=
  .ofPlan name [] .text description fun o _ => do
    let counts ← countRange name o low high
    return drawnText (draw counts)

def placeholderBetween (name description : String) (draw : NatRange → Attempt Stop String) :
    Generator :=
  .ofPlan name [.int, .int] .text description fun o args => do
    let low ← args.count 0
    let high ← args.count 1
    let counts ← countRange name o low high
    return drawnText (draw counts)

section Prose
variable (fakers : Fakers)

/-- As many words as the counts say. -/
def drawWords (counts : NatRange) : Attempt Stop (List PlainWord) :=
  fakers.words counts.low (counts.high + 1)

def drawSentence (counts : NatRange) : Attempt Stop String :=
  fakers.sentence counts.low (counts.high + 1)

def drawParagraph (counts : NatRange) : Attempt Stop String :=
  fakers.paragraph counts.low (counts.high + 1)

def drawTitle (counts : NatRange) : Attempt Stop String := do
  return " ".intercalate ((← drawWords fakers counts).map fun w => w.val.capitalize)

def words : Generator :=
  .ofPlan "words" [.int] .text "space separated lorem words" fun o args => do
    let count ← args.count 0
    checkCount "words" count o.maxCount
    return drawnText (do
      return " ".intercalate
        ((← drawWords fakers ⟨count, count, Nat.le_refl _⟩).map Subtype.val))

def sentenceDescription : String := "lorem sentence, optional (min, max) words"

def paragraphDescription : String := "lorem paragraph, optional (min, max) sentences"

/-- A single word is held to the counts of a sentence. -/
def prose : List Generator := [
  placeholder "word" "single lorem word" 4 12 (fun _ => ExceptT.lift fakers.word), words fakers,
  placeholder "sentence" sentenceDescription 4 12 (drawSentence fakers),
  placeholderBetween "sentence" sentenceDescription (drawSentence fakers),
  placeholder "paragraph" paragraphDescription 3 7 (drawParagraph fakers),
  placeholderBetween "paragraph" paragraphDescription (drawParagraph fakers),
  placeholder "title" "capitalized lorem title" 3 6 (drawTitle fakers)]

def builtin : List Generator := numbers ++ texts ++ moments ++ people fakers ++ prose fakers

end Prose
end Library

/-- The catalogue whose names, addresses and prose come from a collection. -/
def Catalogue.builtin (fakers : Library.Fakers) (options : Options) : Catalogue :=
  (empty options).registerAll (Library.builtin fakers)

end Fixture
