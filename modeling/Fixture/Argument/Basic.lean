import Fixture.Draw.Range
import Fixture.Fault
import Fixture.Outcome

/-! Arguments of a directive, brought to the kinds of the parameters, and the bounds they give. -/
namespace Fixture

inductive Argument where
  | bool (b : Bool)
  | int (n : Int)
  | float (x : Binary64)
  | text (s : String)
  deriving DecidableEq

def Argument.kind : Argument → ParamKind
  | bool _ => .bool
  | int _ => .int
  | float _ => .float
  | text _ => .text

/-- A value as an argument of the kind, by the coercion into the field type of that kind. -/
def ParamKind.coerce : ParamKind → Value → Except Mismatch Argument
  | bool, v => (FieldType.bool.coerce v).map Argument.bool
  | int, v => ((FieldType.int .int64).coerce v).map fun n => Argument.int n.val
  | float, v => (FieldType.float64.coerce v).map Argument.float
  | text, v => (FieldType.text.coerce v).map Argument.text

theorem ParamKind.kind_of_coerce {k : ParamKind} {v : Value} {a : Argument}
    (h : k.coerce v = .ok a) : a.kind = k := by
  cases k <;> obtain ⟨_, -, rfl⟩ := Outcome.map_eq_ok.1 h <;> rfl

structure Arguments where
  directive : String
  values : List Argument

namespace Arguments

/-- The arguments from position `index` on; a fault names the position of the first that does not
fit. -/
def coerceFrom (directive : String) (index : Nat) :
    List ParamKind → List Value → Except Fault (List Argument)
  | k :: ks, v :: vs =>
    match k.coerce v with
    | .error m => .error (.mismatch ("@" ++ directive ++ "#" ++ toString index) m)
    | .ok a => (coerceFrom directive (index + 1) ks vs).map (a :: ·)
  | _, _ => .ok []

def coerce (directive : String) (kinds : List ParamKind) (raw : List Value) :
    Except Fault Arguments :=
  if kinds.length = raw.length then
    (coerceFrom directive 0 kinds raw).map fun as => ⟨directive, as⟩
  else .error (.unknownDirective directive raw.length)

theorem coerceFrom_kinds {d : String} {i : Nat} {ks : List ParamKind} {vs : List Value}
    {as : List Argument} (hl : ks.length = vs.length) (h : coerceFrom d i ks vs = .ok as) :
    as.map Argument.kind = ks := by
  induction ks generalizing i vs as with
  | nil => cases h; rfl
  | cons k ks ih =>
    cases vs with
    | nil => simp at hl
    | cons v vs =>
      simp only [coerceFrom] at h
      split at h
      · cases h
      · rename_i a ha
        obtain ⟨as, hs, rfl⟩ := Outcome.map_eq_ok.1 h
        simp [ParamKind.kind_of_coerce ha, ih (by simpa using hl) hs]

variable (args : Arguments)

def length : Nat := args.values.length

def get? (index : Nat) : Option Argument := args.values[index]?

def reject {α : Type} (p : ArgumentProblem) : Except Fault α := .error (.badArgument args.directive p)

def int (index : Nat) : Except Fault Int :=
  match args.get? index with
  | some (.int n) => .ok n
  | _ => args.reject (.missing .int index)

def float (index : Nat) : Except Fault Binary64 :=
  match args.get? index with
  | some (.float x) => .ok x
  | some (.int n) => .ok (.ofInt n)
  | _ => args.reject (.missing .float index)

def text (index : Nat) : Except Fault String :=
  match args.get? index with
  | some (.text s) => .ok s
  | _ => args.reject (.missing .text index)

def bool (index : Nat) : Except Fault Bool :=
  match args.get? index with
  | some (.bool b) => .ok b
  | _ => args.reject (.missing .bool index)

/-- The texts among the arguments, in order. -/
def texts : List String := args.values.filterMap fun
  | .text s => some s
  | _ => none

/-- An integer that must not be negative. -/
def count (index : Nat) : Except Fault Nat := do
  let n ← args.int index
  if n < 0 then args.reject (.negative index n) else return n.toNat

/-- The bounds that stand at `index` and after it, if there is such a pair. -/
def intBounds (index : Nat) : Except Fault (Option IntRange) :=
  if args.length < index + 2 then .ok none
  else do
    let low ← args.int index
    let high ← args.int (index + 1)
    if h : low ≤ high then return some ⟨low, high, h⟩ else args.reject (.order low high)

def floatBounds (index : Nat) : Except Fault (Option FloatRange) :=
  if args.length < index + 2 then .ok none
  else do
    let low ← args.float index
    let high ← args.float (index + 1)
    if finite : low.isFinite ∧ high.isFinite then
      match ordered : high.lt low with
      | true => args.reject (.floatOrder low high)
      | false =>
        if narrow : (high.sub low).isFinite then return some ⟨low, high, finite, ordered, narrow⟩
        else args.reject (.tooWide low high)
    else args.reject (.notFinite low high)

end Arguments

/-- Refuses a length or count above the limit. -/
def checkCount (directive : String) (count limit : Nat) : Except Fault Unit :=
  if limit < count then .error (.badArgument directive (.aboveLimit count limit)) else .ok ()

end Fixture
