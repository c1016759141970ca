import Fixture.Binary64.Text
import Fixture.Fault
import Fixture.Outcome
import Fixture.Text
import Fixture.Value

/-! Directive calls `@name(arg, ...)`: their written form, and calls from text. After `@` and a name,
the arguments stand in parentheses that end the text: numbers, and texts in single or double quotes. -/
namespace Fixture

structure Call where
  name : String
  args : List Value
  deriving Inhabited

namespace Call

def arity (c : Call) : Nat := c.args.length

/-- Equality of name and arguments, as values. -/
def same (a b : Call) : Bool := a.name == b.name && Value.sameItems a.args b.args

theorem same_refl (a : Call) : a.same a := by simp [same, Value.sameItems_refl]

def renderArgs : List Value → List Char
  | [] => []
  | [v] => v.render
  | v :: w :: vs => v.render ++ ',' :: ' ' :: renderArgs (w :: vs)

/-- The canonical text; a call without arguments has no parentheses. -/
def render (c : Call) : List Char :=
  '@' :: c.name.toList ++ if c.args = [] then [] else '(' :: renderArgs c.args ++ [')']

end Call

/-- A rule text that begins with `@` is meant as a directive. -/
def isDirective (s : String) : Bool := s.toList.head? == some '@'

end Fixture

namespace Fixture.Call

def isNameStart (c : Char) : Bool := c.isAlpha || c == '_'

def isNameChar (c : Char) : Bool := c.isAlphanum || c == '_'

/-- The number that a token without quotes is. -/
def number? (token : List Char) : Option Value :=
  match Text.integer? true token with
  | some n =>
    if h : Value.intRange n then some (.int n h) else (Binary64.read? token).bind Value.ofBinary64?
  | none => (Binary64.read? token).bind Value.ofBinary64?

def numberArg (token : List Char) : Except SyntaxProblem Value :=
  if token = [] then .error .emptyArgument
  else match number? token with
    | some v => .ok v
    | none => .error (.notLiteral (String.ofList token))

def unescape? (c : Char) : Option Char :=
  if c = 'n' then some '\n'
  else if c = 't' then some '\t'
  else if c = '\\' ∨ c = '"' ∨ c = '\'' then some c
  else none

/-- The text up to the closing quote, and what follows it. -/
def quotedArg (quote : Char) : List Char → Except SyntaxProblem (List Char × List Char)
  | [] => .error .unterminated
  | c :: r =>
    if c = quote then .ok ([], r)
    else if c = '\\' then
      match r with
      | [] => .error .unterminated
      | e :: r =>
        match unescape? e with
        | some x => (quotedArg quote r).map fun p => (x :: p.1, p.2)
        | none => .error (.escape e)
    else (quotedArg quote r).map fun p => (c :: p.1, p.2)

theorem quotedArg_rest_lt {q : Char} {s t r : List Char} (h : quotedArg q s = .ok (t, r)) :
    r.length < s.length := by
  fun_induction quotedArg q s generalizing t <;> try cases h
  · simp
  · rename_i ih
    obtain ⟨p, hp, he⟩ := Outcome.map_eq_ok.1 h
    cases he
    have := ih hp
    simp only [List.length_cons]
    omega
  · rename_i ih
    obtain ⟨p, hp, he⟩ := Outcome.map_eq_ok.1 h
    cases he
    have := ih hp
    simp only [List.length_cons]
    omega

/-- The first argument of a text without blanks before it, and what follows the argument. -/
def firstArg : List Char → Except SyntaxProblem (Value × List Char)
  | [] => .error .missingArgument
  | c :: r =>
    if c = '"' ∨ c = '\'' then
      (quotedArg c r).map fun p => (.text (String.ofList p.1), p.2)
    else
      (numberArg (Text.trim ((c :: r).takeWhile (· != ',')))).map
        fun v => (v, (c :: r).dropWhile (· != ','))

theorem firstArg_rest_le {s r : List Char} {v : Value} (h : firstArg s = .ok (v, r)) :
    r.length ≤ s.length := by
  cases s with
  | nil => cases h
  | cons c s =>
    simp only [firstArg] at h
    split at h
    · obtain ⟨p, hp, he⟩ := Outcome.map_eq_ok.1 h
      cases he
      have := quotedArg_rest_lt (t := p.1) (r := p.2) hp
      simp only [List.length_cons]
      omega
    · obtain ⟨_, -, he⟩ := Outcome.map_eq_ok.1 h
      cases he
      exact (List.dropWhile_sublist _).length_le

/-- The arguments that follow the `count` ones already read. -/
def argsAfter (count : Nat) (s : List Char) : Except SyntaxProblem (List Value) :=
  match _h : firstArg (Text.skipBlank s) with
  | .error p => .error p
  | .ok (v, r) =>
    match h' : Text.skipBlank r with
    | [] => .ok [v]
    | c :: rest =>
      if c = ',' then (argsAfter (count + 1) rest).map (v :: ·)
      else .error (.unexpected c (count + 1))
termination_by s.length
decreasing_by
  have h₁ := firstArg_rest_le _h
  have h₂ := Text.skipBlank_length_le s
  have h₃ := Text.skipBlank_length_le r
  simp only [h', List.length_cons] at h₃
  omega

def readArgs (s : List Char) : Except SyntaxProblem (List Value) :=
  if Text.skipBlank s = [] then .ok [] else argsAfter 0 s

/-- The name, and what stands between the parentheses if there are any. -/
def head? : List Char → Option (List Char × Option (List Char))
  | '@' :: c :: r =>
    if isNameStart c then
      let name := c :: r.takeWhile isNameChar
      match r.dropWhile isNameChar with
      | [] => some (name, none)
      | '(' :: body => if body.getLast? = some ')' then some (name, some body.dropLast) else none
      | _ => none
    else none
  | _ => none

def parse (s : List Char) : Except SyntaxProblem Call :=
  match head? s with
  | none => .error .head
  | some (name, none) => .ok ⟨String.ofList name, []⟩
  | some (name, some body) => (readArgs body).map fun vs => ⟨String.ofList name, vs⟩

/-- A directive of its own, outside a rule set; a fault names the whole text. -/
def ofText (s : String) : Except Fault Call :=
  (parse s.toList).mapError fun p => .malformed s (.directive p)

end Fixture.Call
