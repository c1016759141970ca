import Fixture.Unicode.Age
import Fixture.Unicode.Break
import Fixture.Unicode.Case
import Fixture.Unicode.Category
import Fixture.Unicode.Listed
import Fixture.Unicode.Script

/-! Properties of characters that other properties define, and sets of characters by the name of a
property, a category or a script. -/
namespace Fixture.Unicode

/-- Characters that patterns are made of; no identifier holds them. -/
def patternChars : CharSet := patternSyntax.union patternWhiteSpace

/-- Characters whose compatibility forms are no identifiers, though they could be in one. -/
def brokenContinue : CharSet := .ofCodes [
  (0x37A, 0x37A), (0x309B, 0x309C), (0xFC5E, 0xFC63), (0xFDFA, 0xFDFB), (0xFE70, 0xFE70),
  (0xFE72, 0xFE72), (0xFE74, 0xFE74), (0xFE76, 0xFE76), (0xFE78, 0xFE78), (0xFE7A, 0xFE7A),
  (0xFE7C, 0xFE7C), (0xFE7E, 0xFE7E)]

/-- Those that their compatibility forms allow inside an identifier but not at its start. -/
def brokenStart : CharSet :=
  brokenContinue.union (.ofCodes [(0xE33, 0xE33), (0xEB3, 0xEB3), (0xFF9E, 0xFF9F)])

def lowercase : CharSet := (Category.chars ["Ll"]).union otherLowercase

def uppercase : CharSet := (Category.chars ["Lu"]).union otherUppercase

def cased : CharSet := .unions [lowercase, uppercase, Category.chars ["Lt"]]

def alphabetic : CharSet :=
  .unions [lowercase, uppercase, Category.chars ["Lt", "Lm", "Lo", "Nl"], otherAlphabetic]

def caseIgnorable : CharSet :=
  .unions [Category.chars ["Mn", "Me", "Cf", "Lm", "Sk"],
    (Break.word.chars? "midletter").getD .empty, (Break.word.chars? "midnumlet").getD .empty,
    (Break.word.chars? "singlequote").getD .empty]

def changesWhenCasemapped : CharSet :=
  .unions [changesWhenLowercased, changesWhenUppercased, changesWhenTitlecased]

def math : CharSet := (Category.chars ["Sm"]).union otherMath

def graphemeExtend : CharSet := (Category.chars ["Me", "Mn"]).union otherGraphemeExtend

def graphemeBase : CharSet :=
  ((Category.chars ["Cc", "Cf", "Co", "Cn", "Zl", "Zp"]).union graphemeExtend).complement

def idStart : CharSet :=
  ((Category.chars ["Lu", "Ll", "Lt", "Lm", "Lo", "Nl"]).union otherIdStart).diff patternChars

def idContinue : CharSet :=
  (CharSet.unions [idStart, Category.chars ["Mn", "Mc", "Nd", "Pc"], otherIdContinue]).diff
    patternChars

def xidStart : CharSet := idStart.diff brokenStart

def xidContinue : CharSet := idContinue.diff brokenContinue

/-- Letters, marks, decimal digits, connectors and joiners: what words are made of. -/
def wordChars : CharSet :=
  .unions [alphabetic, Category.chars ["Mn", "Mc", "Me", "Nd", "Pc"], joinControl]

/-- The properties, each with its names in small letters without separators. -/
def properties : List (List String × CharSet) := [
  (["ahex", "asciihexdigit"], asciiHexDigit),
  (["alpha", "alphabetic"], alphabetic),
  (["bidic", "bidicontrol"], bidiControl),
  (["bidim", "bidimirrored"], bidiMirrored),
  (["ci", "caseignorable"], caseIgnorable),
  (["cased"], cased),
  (["cwcf", "changeswhencasefolded"], changesWhenCasefolded),
  (["cwcm", "changeswhencasemapped"], changesWhenCasemapped),
  (["cwl", "changeswhenlowercased"], changesWhenLowercased),
  (["cwt", "changeswhentitlecased"], changesWhenTitlecased),
  (["cwu", "changeswhenuppercased"], changesWhenUppercased),
  (["dash"], dash),
  (["di", "defaultignorablecodepoint"], defaultIgnorableCodePoint),
  (["dep", "deprecated"], deprecated),
  (["dia", "diacritic"], diacritic),
  (["emoji"], emoji),
  (["ecomp", "emojicomponent"], emojiComponent),
  (["emod", "emojimodifier"], emojiModifier),
  (["ebase", "emojimodifierbase"], emojiModifierBase),
  (["epres", "emojipresentation"], emojiPresentation),
  (["extpict", "extendedpictographic"], extendedPictographic),
  (["ext", "extender"], extender),
  (["grbase", "graphemebase"], graphemeBase),
  (["grext", "graphemeextend"], graphemeExtend),
  (["grlink", "graphemelink"], graphemeLink),
  (["hex", "hexdigit"], hexDigit),
  (["hyphen"], hyphen),
  (["idsb", "idsbinaryoperator"], idsBinaryOperator),
  (["idst", "idstrinaryoperator"], idsTrinaryOperator),
  (["idsu", "idsunaryoperator"], idsUnaryOperator),
  (["idcompatmathcontinue"], idCompatMathContinue),
  (["idcompatmathstart"], idCompatMathStart),
  (["idc", "idcontinue"], idContinue),
  (["ids", "idstart"], idStart),
  (["ideo", "ideographic"], ideographic),
  (["joinc", "joincontrol"], joinControl),
  (["loe", "logicalorderexception"], logicalOrderException),
  (["lower", "lowercase"], lowercase),
  (["math"], math),
  (["mcm", "modifiercombiningmark"], modifierCombiningMark),
  (["nchar", "noncharactercodepoint"], noncharacterCodePoint),
  (["oalpha", "otheralphabetic"], otherAlphabetic),
  (["odi", "otherdefaultignorablecodepoint"], otherDefaultIgnorableCodePoint),
  (["ogrext", "othergraphemeextend"], otherGraphemeExtend),
  (["oidc", "otheridcontinue"], otherIdContinue),
  (["oids", "otheridstart"], otherIdStart),
  (["olower", "otherlowercase"], otherLowercase),
  (["omath", "othermath"], otherMath),
  (["oupper", "otheruppercase"], otherUppercase),
  (["patsyn", "patternsyntax"], patternSyntax),
  (["patws", "patternwhitespace"], patternWhiteSpace),
  (["pcm", "prependedconcatenationmark"], prependedConcatenationMark),
  (["qmark", "quotationmark"], quotationMark),
  (["radical"], radical),
  (["ri", "regionalindicator"], regionalIndicator),
  (["sterm", "sentenceterminal"], sentenceTerminal),
  (["sd", "softdotted"], softDotted),
  (["term", "terminalpunctuation"], terminalPunctuation),
  (["uideo", "unifiedideograph"], unifiedIdeograph),
  (["upper", "uppercase"], uppercase),
  (["vs", "variationselector"], variationSelector),
  (["space", "wspace", "whitespace"], whiteSpace),
  (["xidc", "xidcontinue"], xidContinue),
  (["xids", "xidstart"], xidStart)]

def property? (name : String) : Option CharSet :=
  (properties.find? fun e => e.1.contains name).map Prod.snd

/-- A name as it is compared: in small letters, without separators and other alphabets, and without
an `is` before it. But `isc` names a property that tells of no characters, and not the category
`c`. -/
def looseName (s : List Char) : String :=
  let plain (s : List Char) : List Char :=
    (s.filter fun c => c.toNat < 128 && c != ' ' && c != '_' && c != '-').map Char.toLower
  if (s.take 2).map Char.toLower = ['i', 's'] then
    if plain (s.drop 2) = ['c'] then "isc" else String.ofList (plain (s.drop 2))
  else String.ofList (plain s)

/-- The set of a category, of a group of them or of all. -/
def category? (name : String) : Option CharSet :=
  if name = "any" then some .full
  else if name = "ascii" then some (.ofCodes [(0, 0x7F)])
  else if name = "assigned" then some (Category.chars ["Cn"]).complement
  else (Category.named? name).map Category.chars

/-- The set of a property that characters have or lack, of a category, or of a script. -/
def named? (name : List Char) : Option CharSet :=
  let name := looseName name
  (property? name).or ((category? name).or ((Script.named? name).map Script.chars))

/-- The set of a property and its value. -/
def valued? (property value : List Char) : Option CharSet :=
  let value := looseName value
  match looseName property with
  | "gc" | "generalcategory" => category? value
  | "sc" | "script" => (Script.named? value).map Script.chars
  | "scx" | "scriptextensions" => (Script.named? value).map Script.extendedChars
  | "age" => Age.chars? value
  | "gcb" | "graphemeclusterbreak" => Break.grapheme.chars? value
  | "wb" | "wordbreak" => Break.word.chars? value
  | "sb" | "sentencebreak" => Break.sentence.chars? value
  | _ => none

/-- The set with the other cases of its characters. -/
def withCases (s : CharSet) : CharSet :=
  .unions (s :: (caseGroups.filter fun g => g.any s.contains).map fun g => .unions (g.map .single))

end Fixture.Unicode
