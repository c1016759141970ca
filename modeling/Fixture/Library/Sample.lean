import Fixture.Draw.Range
import Fixture.Library.People

/-! A small collection: lists of words, and texts made of them. -/
namespace Fixture.Library

namespace Sample

def givenNames : Locale → List String
  | .english => ["Ada", "Alice", "Amelia", "Benjamin", "Charlotte", "Daniel", "Edward", "Eleanor",
      "Grace", "Hannah", "Henry", "Isaac", "James", "Julia", "Lucas", "Margaret", "Nathan", "Olivia",
      "Oscar", "Peter", "Rachel", "Samuel", "Sophie", "Thomas", "Victoria", "William"]
  | .portuguese => ["Ana", "Antônio", "Beatriz", "Bruno", "Camila", "Carlos", "Cecília", "Eduardo",
      "Fernanda", "Gabriel", "Helena", "Isabela", "João", "Júlia", "Larissa", "Lucas", "Mariana",
      "Mateus", "Paulo", "Rafael", "Sofia", "Thiago", "Vitória"]
  | .chinese => ["伟", "芳", "娜", "敏", "静", "强", "磊", "洋", "艳", "勇", "军", "杰", "娟", "涛",
      "明", "超", "秀英", "秀兰", "建国", "文静", "志强", "晓东", "雨桐", "子涵"]

def familyNames : Locale → List String
  | .english => ["Adams", "Baker", "Bennett", "Carter", "Clark", "Cooper", "Davies", "Evans",
      "Fisher", "Foster", "Graham", "Harris", "Hughes", "Johnson", "Kelly", "Marshall", "Mitchell",
      "Parker", "Reed", "Roberts", "Shaw", "Turner", "Walker", "Wright"]
  | .portuguese => ["Almeida", "Araújo", "Barbosa", "Cardoso", "Carvalho", "Costa", "Dias",
      "Fernandes", "Gomes", "Gonçalves", "Lima", "Martins", "Melo", "Moreira", "Nunes", "Oliveira",
      "Pereira", "Ribeiro", "Rocha", "Santos", "Silva", "Souza"]
  | .chinese => ["王", "李", "张", "刘", "陈", "杨", "赵", "黄", "周", "吴", "徐", "孙", "胡", "朱",
      "高", "林", "何", "郭", "马", "罗", "欧阳", "司马"]

theorem givenNames_ne_nil (l : Locale) : givenNames l ≠ [] := by cases l <;> decide

theorem familyNames_ne_nil (l : Locale) : familyNames l ≠ [] := by cases l <;> decide

def cities : List String := ["Ashford", "Bridgeport", "Brookside", "Cedarville", "Clearwater",
  "Eastfield", "Fairview", "Greenhaven", "Hillcrest", "Lakewood", "Maplewood", "Northgate",
  "Oakdale", "Alderton", "Riverton", "Springdale", "Stonebridge", "West Harbor", "Willow Creek"]

def countries : List String := ["Argentina", "Australia", "Austria", "Belgium", "Brazil", "Canada",
  "Chile", "Denmark", "Egypt", "Finland", "France", "Germany", "Ghana", "Greece", "Iceland", "India",
  "Ireland", "Italy", "Japan", "Kenya", "Mexico", "Morocco", "Norway", "Peru", "Poland", "Portugal",
  "Spain", "Sweden", "Uruguay", "Vietnam"]

def streetNames : List String := ["Birch", "Cedar", "Chestnut", "Church", "Elm", "Garden", "Hill",
  "Lake", "Maple", "Mill", "Oak", "Orchard", "Park", "Pine", "River", "School", "Spring", "Walnut"]

def streetKinds : List String := ["Avenue", "Drive", "Lane", "Road", "Square", "Street", "Way"]

def companyKinds : List String := ["and Sons", "Brothers", "Group", "Holdings", "Inc", "Ltd"]

def safeDomains : List String := ["example.com", "example.net", "example.org"]

def domainSuffixes : List String := ["biz", "com", "info", "name", "net", "org"]

def loremTexts : List String := ["a", "ab", "accusamus", "ad", "alias", "amet", "animi", "at", "aut",
  "beatae", "cum", "cumque", "debitis", "delectus", "dicta", "dolor", "dolore", "ducimus", "ea",
  "eaque", "eius", "enim", "eos", "error", "esse", "est", "et", "ex", "facere", "fuga", "fugit", "harum",
  "hic", "id", "illo", "in", "ipsa", "ipsum", "iste", "iure", "iusto", "laborum", "libero", "magnam",
  "maiores", "maxime", "minima", "modi", "natus", "nemo", "nisi", "nobis", "non", "nulla", "odio",
  "odit", "omnis", "optio", "pariatur", "placeat", "porro", "quae", "quas", "quia", "quis", "quo",
  "quod", "ratione", "rem", "rerum", "saepe", "sed", "sequi", "sint", "sit", "soluta", "sunt", "tempora",
  "tempore", "totam", "ullam", "unde", "ut", "vel", "velit", "vero", "vitae", "voluptas"]

theorem isAlpha_loremTexts : ∀ s ∈ loremTexts, s.toList.all Char.isAlpha := by decide

def loremWords : List PlainWord := loremTexts.attachWith _ isAlpha_loremTexts

theorem loremWords_ne_nil : loremWords ≠ [] := by decide

/-- One of the words. -/
def oneOf (choices : List String) (h : choices ≠ [] := by decide) : Draw String :=
  Draw.choose choices h

def givenName (l : Locale) : Draw String := oneOf (givenNames l) (givenNames_ne_nil l)

def familyName (l : Locale) : Draw String := oneOf (familyNames l) (familyNames_ne_nil l)

/-- `count` digits, the first of them not zero. -/
def digitString (count : Nat) : Draw String := do
  let first ← Draw.natural { low := 1, high := 9 }
  let rest ← Draw.replicate (count - 1) (Draw.index 10 (by decide))
  return String.join ((first :: rest.map Fin.val).map toString)

def ipv4 : Draw String := do
  return ".".intercalate ((← Draw.replicate 4 (Draw.index 256 (by decide))).map toString)

def ipv6 : Draw String := do
  let groups ← Draw.replicate 8 (Draw.index 65536 (by decide))
  return ":".intercalate (groups.map fun n => String.ofList (Nat.toDigits 16 n.val))

def username : Draw String := do return (← givenName .english).toLower ++ (← digitString 2)

def word : Draw PlainWord := Draw.choose loremWords loremWords_ne_nil

/-- A count of a range. -/
def count (low high : Nat) : Attempt Stop Nat :=
  if h : low < high then Draw.natural ⟨low, high - 1, Nat.le_sub_one_of_lt h⟩ else throw .emptyRange

def words (low high : Nat) : Attempt Stop (List PlainWord) := do
  Draw.replicate (m := Draw) (← count low high) word

def sentence (low high : Nat) : Attempt Stop String := do
  return (" ".intercalate ((← words low high).map Subtype.val)).capitalize ++ "."

/-- Sentences of four to ten words, one on each line. -/
def paragraph (low high : Nat) : Attempt Stop String := do
  return "\n".intercalate (← Draw.replicate (← count low high) (sentence 4 11))

end Sample

open Sample in
def sample : Fakers where
  fullName l := do return (← givenName l) ++ " " ++ (← familyName l)
  givenName
  familyName
  email := do return (← username) ++ "@" ++ (← oneOf safeDomains)
  username
  phone := do return (← digitString 3) ++ "-" ++ (← digitString 3) ++ "-" ++ (← digitString 4)
  ipv4
  ipv6
  domainSuffix := oneOf domainSuffixes
  city := oneOf cities
  country := oneOf countries
  street := do return (← oneOf streetNames) ++ " " ++ (← oneOf streetKinds)
  zip := digitString 5
  company := do return (← familyName .english) ++ " " ++ (← oneOf companyKinds)
  word := do return (← word).val
  words
  sentence
  paragraph

end Fixture.Library
