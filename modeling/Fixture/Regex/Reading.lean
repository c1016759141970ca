import Fixture.Regex.Syntax
import Fixture.Text
import Fixture.Unicode.Property
import Fixture.Uuid

/-! Expressions from text. Readers take what is left of the text and give what they leave of it;
those that call each other are bounded by the length of the text. An expression is `spaced` where it
may be laid out with blanks and comments, which then count for nothing. -/
namespace Fixture.Regex

/-- What follows the blanks and comments. -/
def skip (spaced : Bool) (s : List Char) : List Char := if spaced then bare false s else s
where
  bare : Bool → List Char → List Char
    | _, [] => []
    | true, c :: r => bare (c != '\n') r
    | false, c :: r =>
      if Text.isBlank c then bare false r else if c = '#' then bare true r else c :: r

/-- The text up to a closing brace, which is read too. The flag tells whether a comment is open. -/
def braced (spaced : Bool) : Bool → List Char → Option (List Char × List Char)
  | _, [] => none
  | true, c :: r => braced spaced (c != '\n') r
  | false, c :: r =>
    if spaced && Text.isBlank c then braced spaced false r
    else if spaced && c == '#' then braced spaced true r
    else if c = '}' then some ([], r)
    else (braced spaced false r).map fun (cs, rest) => (c :: cs, rest)

/-! Atoms. -/

def char? (n : Nat) : Option Char := if n.isValidChar then some (Char.ofNat n) else none

/-- The character that hexadecimal digits number. -/
def hexChar? (ds : List Char) : Option Char :=
  if ds = [] then none
  else
    (ds.foldlM (fun n c => (Uuid.digit? c).map fun d => min (16 * n + d.val) 0x110000) 0).bind char?

def hexDigits (spaced : Bool) : Nat → List Char → Option (List Char × List Char)
  | 0, s => some ([], s)
  | n + 1, s =>
    match skip spaced s with
    | [] => none
    | c :: r => (hexDigits spaced n r).map fun (cs, rest) => (c :: cs, rest)

/-- A character by its number, of `count` digits or any number of them in braces. -/
def hexEscape? (spaced : Bool) (count : Nat) (s : List Char) : Option (Atom × List Char) :=
  match skip spaced s with
  | '{' :: r => (braced spaced false r).bind fun (ds, rest) =>
      (hexChar? ds).map fun c => (.literal { char := c }, rest)
  | s => (hexDigits spaced count s).bind fun (ds, rest) =>
      (hexChar? ds).map fun c => (.literal { char := c, byte := count == 2 }, rest)

/-- The parts before and after the first `mark`. -/
def cut? (mark : List Char) : List Char → Option (List Char × List Char)
  | [] => none
  | c :: r =>
    if mark.isPrefixOf (c :: r) then some ([], (c :: r).drop mark.length)
    else (cut? mark r).map fun (a, b) => (c :: a, b)

def PropertyClass.ofText (negated : Bool) (s : List Char) : PropertyClass :=
  match cut? ['!', '='] s with
  | some (name, value) => ⟨!negated, name, some value⟩
  | none =>
    match (cut? [':'] s).or (cut? ['='] s) with
    | some (name, value) => ⟨negated, name, some value⟩
    | none => ⟨negated, s, none⟩

def propertyEscape? (spaced negated : Bool) (s : List Char) : Option (Atom × List Char) :=
  match skip spaced s with
  | [] | '\\' :: _ => none
  | '{' :: r => (braced spaced false r).map fun (t, rest) => (.property (.ofText negated t), rest)
  | c :: r => some (.property ⟨negated, [c], none⟩, r)

def boundaryNames : List String := ["start", "end", "start-half", "end-half"]

/-- A boundary of words; a name in braces may say which side of a word is meant. Braces that begin
with anything else are a repetition. -/
def boundary? (spaced : Bool) (s : List Char) : Option (Atom × List Char) :=
  let isNameChar (c : Char) : Bool := c.isAlpha || c == '-'
  match s with
  | '{' :: r =>
    match skip spaced r with
    | [] => none
    | c :: _ =>
      if isNameChar c then (braced spaced false r).bind fun (name, rest) =>
        if boundaryNames.contains (String.ofList name) then some (.anchor, rest) else none
      else some (.anchor, s)
  | _ => some (.anchor, s)

/-- What stands after a backslash. -/
def escape? (spaced : Bool) : List Char → Option (Atom × List Char)
  | [] => none
  | c :: r =>
    let char (n : Nat) : Option (Atom × List Char) := some (.literal { char := Char.ofNat n }, r)
    match c with
    | 'x' => hexEscape? spaced 2 r
    | 'u' => hexEscape? spaced 4 r
    | 'U' => hexEscape? spaced 8 r
    | 'p' => propertyEscape? spaced false r
    | 'P' => propertyEscape? spaced true r
    | 'd' => some (.short false .digit, r)
    | 'D' => some (.short true .digit, r)
    | 's' => some (.short false .space, r)
    | 'S' => some (.short true .space, r)
    | 'w' => some (.short false .word, r)
    | 'W' => some (.short true .word, r)
    | 'a' => char 7
    | 't' => char 9
    | 'n' => char 10
    | 'v' => char 11
    | 'f' => char 12
    | 'r' => char 13
    | 'A' | 'z' | 'B' | '<' | '>' => some (.anchor, r)
    | 'b' => boundary? spaced r
    | c => if c.toNat < 128 ∧ !c.isAlphanum then char c.toNat else none

/-! Bracketed classes. -/

def asciiChars (rs : List (Char × Char)) : CharSet := .unions (rs.map fun r => .range r.1 r.2)

/-- The classes written `[:name:]`. -/
def asciiClasses : List (String × List (Char × Char)) := [
  ("alnum", [('0', '9'), ('A', 'Z'), ('a', 'z')]), ("alpha", [('A', 'Z'), ('a', 'z')]),
  ("ascii", [('\x00', '\x7f')]), ("blank", [('\t', '\t'), (' ', ' ')]),
  ("cntrl", [('\x00', '\x1f'), ('\x7f', '\x7f')]), ("digit", [('0', '9')]),
  ("graph", [('!', '~')]), ("lower", [('a', 'z')]), ("print", [(' ', '~')]),
  ("punct", [('!', '/'), (':', '@'), ('[', '`'), ('\x7b', '~')]),
  ("space", [('\t', '\r'), (' ', ' ')]), ("upper", [('A', 'Z')]),
  ("word", [('0', '9'), ('A', 'Z'), ('_', '_'), ('a', 'z')]),
  ("xdigit", [('0', '9'), ('A', 'F'), ('a', 'f')])]

/-- The class whose name follows `[:`. -/
def asciiClass? (s : List Char) : Option (SetExpr × List Char) :=
  let (negated, s) := match s with
    | '^' :: r => (true, r)
    | s => (false, s)
  match s.dropWhile (· != ':') with
  | ':' :: ']' :: r =>
    (asciiClasses.lookup (String.ofList (s.takeWhile (· != ':')))).map fun rs =>
      (.ascii negated (asciiChars rs), r)
  | _ => none

/-- The hyphens that a class begins with. -/
def openingHyphens (spaced : Bool) : Bool → List Char → List SetExpr × List Char
  | _, [] => ([], [])
  | true, c :: r => openingHyphens spaced (c != '\n') r
  | false, c :: r =>
    if spaced && Text.isBlank c then openingHyphens spaced false r
    else if spaced && c == '#' then openingHyphens spaced true r
    else if c = '-' then
      let (items, rest) := openingHyphens spaced false r
      (.literal { char := '-' } :: items, rest)
    else ([], c :: r)

/-- The start of a class: whether it is negated, and the hyphens or the bracket that stand there for
themselves. -/
def classStart (spaced : Bool) (s : List Char) : Bool × List SetExpr × List Char :=
  let (negated, s) := match skip spaced s with
    | '^' :: r => (true, r)
    | s => (false, s)
  match openingHyphens spaced false s with
  | ([], ']' :: r) => (negated, [.literal { char := ']' }], r)
  | (items, r) => (negated, items, r)

def classAtom? (spaced : Bool) : List Char → Option (Atom × List Char)
  | '\\' :: r => escape? spaced r
  | c :: r => some (.literal { char := c }, r)
  | [] => none

def Atom.set? : Atom → Option SetExpr
  | literal l => some (.literal l)
  | short negated c => some (.short negated c)
  | property p => some (.property p)
  | dot | anchor => none

/-- The character that decides whether a hyphen before it makes a range: the next one, but past
blanks and one sign of a comment. -/
def glimpse (spaced : Bool) (s : List Char) : Option Char :=
  if spaced then
    match Text.skipBlank s with
    | '#' :: r => (Text.skipBlank r).head?.or s.head?
    | r => r.head?.or s.head?
  else s.head?

/-- An atom, or a range of characters. -/
def classItem? (spaced : Bool) (s : List Char) : Option (SetExpr × List Char) := do
  let (first, r) ← classAtom? spaced s
  match skip spaced r with
  | [] => none
  | '-' :: q =>
    if glimpse spaced q = some ']' ∨ glimpse spaced q = some '-' then
      return (← first.set?, '-' :: q)
    else
      match first, ← classAtom? spaced (skip spaced q) with
      | .literal a, (.literal b, r) => if a.char ≤ b.char then some (.range a b, r) else none
      | _, _ => none
  | r => return (← first.set?, r)

/-- The operation still open, with its left side, applied to the items after it. -/
def closeOperation (left : Option (SetOperation × SetExpr)) (items : List SetExpr) : SetExpr :=
  match left with
  | some (op, s) => .operation op s (.ofItems items.reverse)
  | none => .ofItems items.reverse

/-- The rest of a class, its closing bracket included; the items stand in reverse. -/
def classBody? (spaced : Bool) : Nat → Option (SetOperation × SetExpr) → List SetExpr →
    List Char → Option (SetExpr × List Char)
  | 0, _, _, _ => none
  | fuel + 1, left, items, s =>
    let operate (op : SetOperation) (r : List Char) : Option (SetExpr × List Char) :=
      classBody? spaced fuel (some (op, closeOperation left items)) [] r
    let add (item : SetExpr) (r : List Char) : Option (SetExpr × List Char) :=
      classBody? spaced fuel left (item :: items) r
    match skip spaced s with
    | [] => none
    | ']' :: r => some (closeOperation left items, r)
    | '&' :: '&' :: r => operate .inter r
    | '-' :: '-' :: r => operate .diff r
    | '~' :: '~' :: r => operate .symmDiff r
    | '[' :: r =>
      let named := match r with
        | ':' :: q => asciiClass? q
        | _ => none
      match named with
      | some (item, r) => add item r
      | none =>
        let (negated, inner, r) := classStart spaced r
        match classBody? spaced fuel none inner.reverse r with
        | some (inside, r) => add (.bracketed negated inside) r
        | none => none
    | s =>
      match classItem? spaced s with
      | some (item, r) => add item r
      | none => none

/-! Repetitions. -/

def digitRun (spaced : Bool) : Bool → List Char → List Char × List Char
  | _, [] => ([], [])
  | true, c :: r => digitRun spaced (c != '\n') r
  | false, c :: r =>
    if spaced && Text.isBlank c then digitRun spaced false r
    else if spaced && c == '#' then digitRun spaced true r
    else if c.isDigit then
      let (ds, rest) := digitRun spaced false r
      (c :: ds, rest)
    else ([], c :: r)

/-- A count below `2 ^ 32`; blanks may stand around it in any case. -/
def count? (spaced : Bool) (s : List Char) : Option (Nat × List Char) :=
  let (ds, r) := digitRun spaced false (Text.skipBlank s)
  if ds = [] ∨ UInt32.size ≤ Text.digitsValue ds then none
  else some (Text.digitsValue ds, Text.skipBlank r)

/-- The bounds after an opening brace, with the closing one. -/
def bounds? (spaced : Bool) (s : List Char) : Option (Nat × Option Nat × List Char) := do
  let (low, r) ← count? spaced (skip spaced s)
  match r with
  | '}' :: r => return (low, some low, r)
  | ',' :: r =>
    match skip spaced r with
    | '}' :: r => return (low, none, r)
    | r =>
      match ← count? spaced r with
      | (high, '}' :: r) => if low ≤ high then return (low, some high, r) else none
      | _ => none
  | _ => none

def isRepetition (c : Char) : Bool := c == '*' || c == '+' || c == '?' || c == '{'

/-- The repetition of `e`. A question mark that follows makes it the shortest one; after bounds, but
not after a single sign, blanks may stand before it. -/
def repetition? (spaced : Bool) (e : Expr) (s : List Char) : Option (Expr × List Char) := do
  let (low, high, r) ← match s with
    | '*' :: r => some (0, none, r)
    | '+' :: r => some (1, none, r)
    | '?' :: r => some (0, some 1, r)
    | '{' :: r => (bounds? spaced r).map fun (low, high, r) => (low, high, skip spaced r)
    | _ => none
  match r with
  | '?' :: r => return (.repetition e low high false, r)
  | r => return (.repetition e low high true, r)

/-! Groups and the whole expression. -/

/-- Flags up to a `:` or a parenthesis: no letter twice, one `-` at most and not at the end. What
has been read stands in reverse, with `none` for the `-`. -/
def flags? (seen : List (Option Flag)) : List Char → Option (List (Option Flag) × Char × List Char)
  | [] => none
  | c :: r =>
    if c = ':' ∨ c = ')' then
      if seen.head? = some none then none else some (seen.reverse, c, r)
    else
      let item : Option (Option Flag) := if c = '-' then some none else (Flag.ofLetter? c).map some
      item.bind fun item => if seen.contains item then none else flags? (item :: seen) r

/-- The flags before the `-` are set, those after it are unset. -/
def FlagChange.ofItems (items : List (Option Flag)) : FlagChange :=
  let on := (items.takeWhile (· != none)).filterMap id
  let off := (items.dropWhile (· != none)).filterMap id
  on.map (·, true) ++ off.map (·, false)

inductive GroupStart where
  /-- Flags for what follows in the enclosing group. -/
  | flags (change : FlagChange)
  | group (kind : GroupKind)

def isGroupName (s : List Char) : Bool :=
  let isLetter (c : Char) : Bool := c == '_' || Unicode.alphabetic.contains c
  let isNumber (c : Char) : Bool := (Unicode.Category.chars ["Nd", "Nl", "No"]).contains c
  match s with
  | [] => false
  | c :: r => isLetter c && r.all fun c =>
      isLetter c || c == '.' || c == '[' || c == ']' || isNumber c

def groupName? (s : List Char) : Option (GroupStart × List Char) :=
  match cut? ['>'] s with
  | some (name, r) =>
    if isGroupName name then some (.group (.capture (some (String.ofList name))), r) else none
  | none => none

/-- What follows an opening parenthesis. -/
def groupStart? (spaced : Bool) (s : List Char) : Option (GroupStart × List Char) :=
  match skip spaced s with
  | '?' :: 'P' :: '<' :: r => groupName? r
  | '?' :: '<' :: '=' :: _ | '?' :: '<' :: '!' :: _ => none
  | '?' :: '<' :: r => groupName? r
  | '?' :: r =>
    match flags? [] r with
    | some ([], ')', _) => none
    | some (items, ')', r) => some (.flags (.ofItems items), r)
    | some (items, _, r) => some (.group (.plain (.ofItems items)), r)
    | none => none
  | s => some (.group (.capture none), s)

def FlagChange.spaced (change : FlagChange) (spaced : Bool) : Bool :=
  (change.lookup Flag.spaced).getD spaced

def GroupKind.spaced (spaced : Bool) : GroupKind → Bool
  | capture _ => spaced
  | plain change => change.spaced spaced

def atom? (spaced : Bool) : List Char → Option (Atom × List Char)
  | '\\' :: r => escape? spaced r
  | '.' :: r => some (.dot, r)
  | '^' :: r | '$' :: r => some (.anchor, r)
  | c :: r => some (.literal { char := c }, r)
  | [] => none

def Expr.isRepeatable : Expr → Bool
  | empty | flags _ => false
  | _ => true

/-- The rest of a group, up to its closing parenthesis or the end of the text. The alternatives read
before and the items of the last one stand in reverse. -/
def group? : Nat → Bool → List Expr → List Expr → List Char → Option (Expr × List Char)
  | 0, _, _, _, _ => none
  | fuel + 1, spaced, choices, items, s =>
    let choices' := .sequence items.reverse :: choices
    let add (e : Expr) (r : List Char) : Option (Expr × List Char) :=
      group? fuel spaced choices (e :: items) r
    match skip spaced s with
    | [] => some (.choice choices'.reverse, [])
    | ')' :: r => some (.choice choices'.reverse, ')' :: r)
    | '|' :: r => group? fuel spaced choices' [] r
    | '(' :: r =>
      match groupStart? spaced r with
      | some (.flags change, r) =>
        group? fuel (change.spaced spaced) choices (.flags change :: items) r
      | some (.group kind, r) =>
        match group? fuel (kind.spaced spaced) [] [] r with
        | some (e, ')' :: r) => add (.group kind e) r
        | _ => none
      | none => none
    | '[' :: r =>
      let (negated, inner, r) := classStart spaced r
      match classBody? spaced fuel none inner.reverse r with
      | some (inside, r) => add (.set negated inside) r
      | none => none
    | c :: r =>
      if isRepetition c then
        match items with
        | e :: items =>
          if e.isRepeatable then
            match repetition? spaced e (c :: r) with
            | some (e, r) => group? fuel spaced choices (e :: items) r
            | none => none
          else none
        | [] => none
      else
        match atom? spaced (c :: r) with
        | some (a, r) => add (.atom a) r
        | none => none

/-- The expression that a text is, if it is one. -/
def Expr.read? (s : List Char) : Option Expr :=
  match group? (2 * s.length + 2) false [] [] s with
  | some (e, []) => if e.isWellFormed then some e else none
  | _ => none

end Fixture.Regex
