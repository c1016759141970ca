import Fixture.Catalogue.Basic
import Fixture.Draw.Range

/-! The collection that names, addresses and prose are taken from, which is not part of the library: it
only says what it asks the collection for. Then the generators of what belongs to a person: names, age,
addresses of all sorts. -/
namespace Fixture.Library

/-- A word of the letters A to Z, in either case. -/
abbrev PlainWord : Type := { s : String // s.toList.all Char.isAlpha }

/-- Texts drawn by a collection. A range of counts goes from the first number up to the second one,
which does not belong to it; of an empty range nothing can be drawn. -/
structure Fakers where
  fullName : Locale → Draw String
  givenName : Locale → Draw String
  familyName : Locale → Draw String
  email : Draw String
  username : Draw String
  phone : Draw String
  ipv4 : Draw String
  ipv6 : Draw String
  domainSuffix : Draw String
  city : Draw String
  country : Draw String
  street : Draw String
  zip : Draw String
  company : Draw String
  word : Draw String
  words : Nat → Nat → Attempt Stop (List PlainWord)
  sentence : Nat → Nat → Attempt Stop String
  paragraph : Nat → Nat → Attempt Stop String

inductive NamePart where
  | full | given | family
  deriving DecidableEq

namespace NamePart

/-- A full Chinese name is put together here: it begins with the family's and has no blank. -/
def draw (fakers : Fakers) : NamePart → Locale → Draw String
  | full, .chinese => do
    let family ← fakers.familyName .chinese
    let given ← fakers.givenName .chinese
    return family ++ given
  | full, l => fakers.fullName l
  | given, l => fakers.givenName l
  | family, l => fakers.familyName l

def description : NamePart → String
  | full => "full person name"
  | given => "given name"
  | family => "family name"

def chineseDescription : NamePart → String
  | full => "zh_CN full name"
  | given => "zh_CN given name"
  | family => "zh_CN family name"

end NamePart

variable (fakers : Fakers)

def personName (name : String) (part : NamePart) : Generator :=
  .ofDraw name [] .text (part.description ++ ", optional locale") fun o _ => do
    return .text (← part.draw fakers o.locale)

def personNameIn (name : String) (part : NamePart) : Generator :=
  .ofPlan name [.text] .text (part.description ++ ", optional locale") fun _ args => do
    let s ← args.text 0
    match Locale.read? s with
    | some l => return ExceptT.lift (do return .text (← part.draw fakers l))
    | none => .error (.badArgument name (.locale s (Locale.all.map Locale.name)))

def chineseName (name : String) (part : NamePart) : Generator :=
  .ofDraw name [] .text part.chineseDescription fun _ _ => do
    return .text (← part.draw fakers .chinese)

def age : Generator :=
  .ofDraw "age" [] .int "person age in years" fun _ _ => do
    return .ofInt (← Draw.integer { low := 1, high := 100 })

def domain : Draw String := do return (← fakers.word) ++ "." ++ (← fakers.domainSuffix)

def drawn (name description : String) (draw : Draw String) : Generator :=
  .ofDraw name [] .text description fun _ _ => do return .text (← draw)

def people : List Generator := [
  personName fakers "name" .full, personNameIn fakers "name" .full,
  personName fakers "firstName" .given, personNameIn fakers "firstName" .given,
  personName fakers "lastName" .family, personNameIn fakers "lastName" .family,
  chineseName fakers "cname" .full, chineseName fakers "cfirstName" .given,
  chineseName fakers "clastName" .family,
  age,
  drawn "email" "safe example email address" fakers.email,
  drawn "username" "login name" fakers.username,
  drawn "phone" "phone number" fakers.phone,
  drawn "ip" "IPv4 address" fakers.ipv4,
  drawn "ipv6" "IPv6 address" fakers.ipv6,
  drawn "domain" "domain name" (domain fakers),
  drawn "city" "city name" fakers.city,
  drawn "country" "country name" fakers.country,
  drawn "street" "street name" fakers.street,
  drawn "zip" "postal code" fakers.zip,
  drawn "company" "company name" fakers.company]

end Fixture.Library
