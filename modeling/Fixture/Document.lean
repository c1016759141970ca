import Fixture.Catalogue.Basic
import Fixture.Factory

/-! Options, locales, kinds and calls as values, and one-line summaries. A record is read from a map
of its fields or from a list of them in order; a name also from a map with null. -/
namespace Fixture

namespace Value

/-- A name, alone or as the one key of a map. -/
def name? : Value → Option String
  | text s => some s
  | map [(s, null)] => some s
  | _ => none

/-- A natural number below `bound`. -/
def natural? (bound : Nat) : Value → Option Nat
  | int n _ => if 0 ≤ n ∧ n < bound then some n.toNat else none
  | _ => none

def items? : Value → Option (List Value)
  | list vs => some vs
  | _ => none

end Value

def Locale.ofValue? (v : Value) : Option Locale := v.name?.bind Locale.ofName?

def Locale.toValue (l : Locale) : Value := .text l.name

def ValueKind.ofValue? (v : Value) : Option ValueKind := v.name?.bind ValueKind.ofName?

def ValueKind.toValue (k : ValueKind) : Value := .text k.name

namespace Options

/-- Names of the fields, in the order in which a list gives them. -/
def fieldNames : List String := ["locale", "max_repeat", "string_max_len", "max_count"]

/-- A field that is not given has its default. -/
def ofFields? (field : String → Option Value) : Option Options := do
  let read {α : Type} (key : String) (default : α) (f : Value → Option α) : Option α :=
    match field key with
    | none => some default
    | some v => f v
  let defaults : Options := {}
  return {
    locale := ← read "locale" defaults.locale Locale.ofValue?
    maxRepeat := ← read "max_repeat" defaults.maxRepeat (Value.natural? UInt32.size)
    maxTextLength := ← read "string_max_len" defaults.maxTextLength (Value.natural? UInt64.size)
    maxCount := ← read "max_count" defaults.maxCount (Value.natural? UInt64.size) }

def ofValue? : Value → Option Options
  | .map entries => ofFields? fun key => entries.lookup key
  | .list vs =>
    if vs.length ≤ fieldNames.length then ofFields? fun key => (fieldNames.zip vs).lookup key
    else none
  | _ => none

def toValue (o : Options) : Value :=
  .map [("locale", o.locale.toValue), ("max_count", .ofInt o.maxCount),
    ("max_repeat", .ofInt o.maxRepeat), ("string_max_len", .ofInt o.maxTextLength)]

end Options

namespace Call

def ofValue? : Value → Option Call
  | .map entries => do
    return ⟨← (← entries.lookup "name").text?, ← (← entries.lookup "args").items?⟩
  | .list [name, args] => do return ⟨← name.text?, ← args.items?⟩
  | _ => none

def toValue (c : Call) : Value := .map [("args", .list c.args), ("name", .text c.name)]

end Call

/-- Fields in braces, after the name of what has them. -/
def summaryOf (name : String) (fields : List (String × String)) : String :=
  name ++ " \x7b " ++ ", ".intercalate (fields.map fun f => f.1 ++ ": " ++ f.2) ++ " \x7d"

def Locale.summary : Locale → String
  | english => "EnUs"
  | portuguese => "PtBr"
  | chinese => "ZhCn"

def Options.summary (o : Options) : String :=
  summaryOf "CatalogueOptions" [("locale", o.locale.summary), ("max_repeat", toString o.maxRepeat),
    ("string_max_len", toString o.maxTextLength), ("max_count", toString o.maxCount)]

def Catalogue.summary (c : Catalogue) : String :=
  summaryOf "DirectiveCatalogue" [("options", c.options.summary), ("directives", toString c.size)]

def ValueKind.summary (k : ValueKind) : String := k.name.capitalize

/-- A value field or a field without a way to write it; nested fields have no summary. -/
def FieldForm.summary? : FieldForm → Option String
  | value _ t => some ("Value(" ++ t.kind.summary ++ ")")
  | readOnly k => some ("Value(" ++ k.summary ++ ")")
  | _ => none

def quote (s : String) : String := String.ofList (Text.quoted s.toList)

def boolText (b : Bool) : String := if b then "true" else "false"

def Field.summary? (f : Field) : Option String :=
  f.form.summary?.map fun kind =>
    summaryOf "FieldDescriptor" [("name", quote f.name), ("kind", kind),
      ("assignable", boolText f.form.isAssignable)]

def Schema.summary? (s : Schema) : Option String :=
  (s.fields.mapM Field.summary?).map fun fields =>
    summaryOf "ObjectSchema" [("type_name", quote s.name),
      ("constructible", boolText s.initial.isSome), ("fields", "[" ++ ", ".intercalate fields ++ "]")]

def Object.summary (o : Object) : String :=
  "Instance \x7b type_name: " ++ quote o.type ++ ", .. \x7d"

def Factory.summary (f : Factory) : String :=
  summaryOf "MockFactory" [("type_name", quote f.binding.schema.name),
    ("rules", toString f.binding.rules.length)]

end Fixture
