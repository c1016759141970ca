import Fixture.Proofs.CheckedCalls

/-! Why a built-in generator refuses arguments, in its check or its draw. It misses an argument only
where none of the kind of its parameter stands; a count above the limit is one of the arguments,
unless the generator takes none; and in all other cases the arguments are there but make no sense, or
the draw stops. -/
namespace Fixture
open Outcome

namespace Attempt
variable {ε α β σ : Type} {P : ε → Prop}

/-- What the attempt fails with has the property, with every source. -/
def Blames (P : ε → Prop) (x : Attempt ε α) : Prop := x.run.Always (Outcome.Blames P)

theorem blames_draw (d : Draw α) : Blames P (ExceptT.lift d : Attempt ε α) :=
  (Draw.always_true d).bind fun a _ => Draw.always_done.2 (blames_ok a)

theorem blames_throw {e : ε} (h : P e) : Blames P (throw e : Attempt ε α) :=
  Draw.always_done.2 (blames_error h)

theorem blames_lift {r : Except ε α} (h : Outcome.Blames P r) :
    Blames P (liftM r : Attempt ε α) := by
  cases r with
  | ok a => exact Draw.always_done.2 (blames_ok a)
  | error e => exact blames_throw (h e rfl)

theorem Blames.bind {x : Attempt ε α} {f : α → Attempt ε β} (hx : Blames P x)
    (hf : ∀ a, Blames P (f a)) : Blames P (x >>= f) := by
  refine Draw.Always.bind hx fun r hr => ?_
  cases r with
  | ok a => exact hf a
  | error e => exact blames_throw (hr e rfl)

theorem Blames.of_outcome {x : Attempt ε α} (h : Blames P x) {source : Source σ} {s t : σ} {e : ε}
    (ho : x.outcome source s = (.error e, t)) : P e :=
  h.run source s e (congrArg Prod.fst ho)

end Attempt

/-- The problem is what the arguments say, not that one is missing or above the limit. -/
def ArgumentProblem.OfSense : ArgumentProblem → Prop
  | .missing .. | .aboveLimit .. => False
  | _ => True

/-- Why a generator of these parameters refuses the arguments. -/
inductive Refusal (params : List ParamKind) (o : Options) (args : Arguments) : Fault → Prop where
  /-- The kind is that of the parameter, if there are as many arguments as parameters. -/
  | missing {directive : String} {kind : ParamKind} {index : Nat}
      (asked : args.length = params.length → params[index]? = some kind)
      (absent : ∀ a, args.get? index = some a → a.kind ≠ kind) :
      Refusal params o args (.badArgument directive (.missing kind index))
  /-- A generator without parameters stands for a count of its own. -/
  | aboveLimit {directive : String} {count : Nat} (above : o.maxCount < count)
      (given : params ≠ [] → .int count ∈ args.values) :
      Refusal params o args (.badArgument directive (.aboveLimit count o.maxCount))
  | ofSense {directive : String} {problem : ArgumentProblem} (h : problem.OfSense) :
      Refusal params o args (.badArgument directive problem)
  | stopped (cause : Stop) : Refusal params o args (.stopped cause)

section Arguments
variable {α : Type} {params : List ParamKind} {o : Options} {args : Arguments} {directive : String}
  {i : Nat}

theorem refuses_sense {p : ArgumentProblem} (hp : p.OfSense) :
    Blames (Refusal params o args) (.error (.badArgument directive p) : Except Fault α) :=
  blames_error (.ofSense hp)

theorem refuses_int (h : args.length = params.length → params[i]? = some .int) :
    Blames (Refusal params o args) (args.int i) := by
  unfold Arguments.int
  split
  · exact blames_ok _
  · rename_i habsent
    refine blames_error (.missing h fun a ha hk => ?_)
    obtain ⟨n, rfl⟩ := a.exists_int hk
    exact habsent n ha

theorem refuses_text (h : args.length = params.length → params[i]? = some .text) :
    Blames (Refusal params o args) (args.text i) := by
  unfold Arguments.text
  split
  · exact blames_ok _
  · rename_i habsent
    refine blames_error (.missing h fun a ha hk => ?_)
    obtain ⟨s, rfl⟩ := a.exists_text hk
    exact habsent s ha

theorem refuses_float (h : args.length = params.length → params[i]? = some .float) :
    Blames (Refusal params o args) (args.float i) := by
  unfold Arguments.float
  split
  · exact blames_ok _
  · exact blames_ok _
  · rename_i habsent _
    refine blames_error (.missing h fun a ha hk => ?_)
    cases a with
    | float x => exact habsent x ha
    | _ => cases hk

theorem refuses_count (h : args.length = params.length → params[i]? = some .int) :
    Blames (Refusal params o args) (args.count i) := by
  refine (refuses_int h).bind fun n _ => ?_
  split
  · exact refuses_sense trivial
  · exact blames_ok _

theorem refuses_checkCount {count : Nat} (h : params ≠ [] → .int count ∈ args.values) :
    Blames (Refusal params o args) (checkCount directive count o.maxCount) := by
  unfold checkCount
  split
  · rename_i hlt
    exact blames_error (.aboveLimit hlt h)
  · exact blames_ok _

theorem refuses_checkCount_read {n : Nat} (h : args.count i = .ok n) :
    Blames (Refusal params o args) (checkCount directive n o.maxCount) :=
  refuses_checkCount fun _ => Arguments.mem_of_count h

/-- Bounds are asked for only where there are two arguments. -/
theorem refuses_intBounds (hall : ∀ j < params.length, params[j]? = some .int) :
    Blames (Refusal params o args) (args.intBounds i) := by
  unfold Arguments.intBounds
  split
  · exact blames_ok _
  · refine (refuses_int fun hl => hall i (by omega)).bind fun low _ =>
      (refuses_int fun hl => hall (i + 1) (by omega)).bind fun high _ => ?_
    split
    · exact blames_ok _
    · exact refuses_sense trivial

theorem refuses_floatBounds
    (hpair : i + 2 ≤ params.length → params[i]? = some .float ∧ params[i + 1]? = some .float) :
    Blames (Refusal params o args) (args.floatBounds i) := by
  unfold Arguments.floatBounds
  split
  · exact blames_ok _
  · rename_i hlength
    have hpair (hl : args.length = params.length) := hpair (hl ▸ Nat.not_lt.1 hlength)
    refine (refuses_float fun hl => (hpair hl).1).bind fun low _ =>
      (refuses_float fun hl => (hpair hl).2).bind fun high _ => ?_
    split
    · split
      · exact refuses_sense trivial
      · split
        · exact blames_ok _
        · exact refuses_sense trivial
    · exact refuses_sense trivial

theorem refuses_stopping (x : Attempt Stop α) : Attempt.Blames (Refusal params o args) x.stopping := by
  refine (Draw.always_true x.run).bind fun r _ => Draw.always_done.2 ?_
  cases r with
  | ok a => exact blames_ok a
  | error cause => exact blames_error (.stopped cause)

end Arguments

namespace Generator

/-- The generator refuses no arguments, in its check or its draw, but for one of the reasons. -/
def Justified (g : Generator) : Prop :=
  ∀ o args, Blames (Refusal g.params o args) (g.validate o args) ∧
    Attempt.Blames (Refusal g.params o args) (g.generate o args)

section Forms
variable {name description : String} {params : List ParamKind} {output : ValueKind}

theorem justified_ofDraw {draw : Options → Arguments → Draw Value} :
    (ofDraw name params output description draw).Justified :=
  fun _ _ => ⟨blames_ok (), Attempt.blames_draw _⟩

theorem justified_ofAttempt {draw : Options → Arguments → Attempt Stop Value} :
    (ofAttempt name params output description draw).Justified :=
  fun _ _ => ⟨blames_ok (), refuses_stopping _⟩

/-- What the plan fails with has the property, and what the draw fails with that it comes to. -/
def Faults (P : Fault → Prop) (plan : Except Fault (Attempt Fault Value)) : Prop :=
  Blames P plan ∧ Ensures (Attempt.Blames P) plan

namespace Faults
variable {α : Type} {P : Fault → Prop}

theorem lift (d : Draw Value) : Faults P (pure (ExceptT.lift d)) :=
  ⟨blames_ok _, ensures_ok (Attempt.blames_draw d)⟩

theorem stopping {params : List ParamKind} {o : Options} {args : Arguments} (x : Attempt Stop Value) :
    Faults (Refusal params o args) (pure x.stopping) :=
  ⟨blames_ok _, ensures_ok (refuses_stopping x)⟩

theorem error {e : Fault} (h : P e) : Faults P (.error e) :=
  ⟨blames_error h, ensures_error e⟩

theorem bind {x : Except Fault α} {f : α → Except Fault (Attempt Fault Value)}
    (hx : Blames P x) (hf : ∀ a, x = .ok a → Faults P (f a)) : Faults P (x >>= f) :=
  ⟨hx.bind fun a ha => (hf a ha).1, ensures_bind fun a ha => (hf a ha).2⟩

end Faults

theorem justified_ofPlan {plan : Options → Arguments → Except Fault (Attempt Fault Value)}
    (h : ∀ o args, Faults (Refusal params o args) (plan o args)) :
    (ofPlan name params output description plan).Justified := by
  intro o args
  obtain ⟨hplan, hdraw⟩ := h o args
  refine ⟨hplan.map _, ?_⟩
  unfold ofPlan
  dsimp only
  split
  · rename_i draw hd
    exact hdraw draw hd
  · rename_i e he
    exact Attempt.blames_throw (hplan e he)

end Forms
end Generator

namespace Library
open Generator

theorem justified_float {params : List ParamKind}
    (hbounds : 2 ≤ params.length → params[0]? = some .float ∧ params[1]? = some .float)
    (hplaces : 3 ≤ params.length → params[2]? = some .int) : (float params).Justified := by
  intro o args
  have bounds : Blames (Refusal params o args) (args.floatBounds 0) := refuses_floatBounds hbounds
  have places : Blames (Refusal params o args) (scale args) := by
    unfold scale
    split
    · exact blames_ok _
    · rename_i hlength
      refine (refuses_int fun hl => hplaces (hl ▸ Nat.not_lt.1 hlength)).bind fun n _ => ?_
      split
      · exact blames_ok _
      · exact refuses_sense trivial
  have value (x : Binary64) : Blames (Refusal params o args) (floatValue x) := by
    unfold floatValue
    split
    · exact blames_ok _
    · exact refuses_sense trivial
  refine ⟨bounds.bind fun _ _ => places.map _, (Attempt.blames_lift bounds).bind fun range => ?_⟩
  refine (Attempt.blames_draw _).bind fun x => (Attempt.blames_lift places).bind fun n => ?_
  exact Attempt.blames_lift (value _)

theorem justified_numbers : ∀ g ∈ numbers, g.Justified := by
  have boolean {params : List ParamKind} (hp : 0 < params.length → params[0]? = some .float) :
      (boolean params).Justified := by
    refine justified_ofPlan fun o args => .bind ?_ fun _ _ => .lift _
    unfold probability
    split
    · exact blames_ok _
    · rename_i hlength
      refine (refuses_float fun hl => hp (hl ▸ Nat.pos_of_ne_zero hlength)).bind fun p _ => ?_
      split
      · exact blames_dite (fun _ => blames_ok _) fun _ => refuses_sense trivial
      · exact refuses_sense trivial
  have bounds {params : List ParamKind} (hp : ∀ i < params.length, params[i]? = some .int)
      (name : String) (default : IntRange) (o : Options) (args : Arguments) :
      Blames (Refusal params o args) (integerBounds name default args) := by
    unfold integerBounds
    split
    · rename_i hlength
      refine (refuses_int fun hl => hp 0 (by omega)).bind fun high _ => ?_
      split
      · exact blames_ok _
      · exact refuses_sense trivial
    · exact (refuses_intBounds hp).bind fun _ _ => blames_ok _
  have integer {params : List ParamKind} (hp : ∀ i < params.length, params[i]? = some .int) :
      (integer params).Justified :=
    justified_ofPlan fun o args => .bind (bounds hp _ _ o args) fun _ _ => .lift _
  have natural {params : List ParamKind} (hp : ∀ i < params.length, params[i]? = some .int) :
      (natural params).Justified :=
    justified_ofPlan fun o args => .bind (bounds hp _ _ o args) fun r _ => by
      split
      · exact .error (.ofSense trivial)
      · exact .lift _
  simp only [numbers, List.forall_mem_cons]
  exact ⟨boolean (by decide), boolean (by decide), integer (by decide), integer (by decide),
    integer (by decide), natural (by decide), natural (by decide),
    justified_float (by decide) (by decide), justified_float (by decide) (by decide),
    justified_float (by decide) (by decide), by simp⟩

theorem justified_texts : ∀ g ∈ texts, g.Justified := by
  have pool {params : List ParamKind} (hp : params[0]? = some .text) (name : String)
      (o : Options) (args : Arguments) :
      Blames (Refusal params o args) (poolArgument name args) := by
    refine (refuses_text fun _ => hp).bind fun s _ => ?_
    split
    · exact refuses_sense trivial
    · exact blames_ok _
  have pooled : characterOf.Justified :=
    justified_ofPlan fun o args => .bind (pool rfl _ o args) fun _ _ => .stopping _
  have ofLength : stringOfLength.Justified :=
    justified_ofPlan fun o args => .bind (refuses_count fun _ => rfl) fun n hn =>
      .bind (refuses_checkCount_read hn) fun _ _ => .stopping _
  have between : stringBetween.Justified :=
    justified_ofPlan fun o args => .bind (refuses_count fun _ => rfl) fun low _ =>
      .bind (refuses_count fun _ => rfl) fun high hhigh => by
        split
        · exact .bind (refuses_checkCount_read hhigh) fun _ _ => .stopping _
        · exact .error (.ofSense trivial)
  have pooledOfLength : stringOf.Justified :=
    justified_ofPlan fun o args => .bind (refuses_count fun _ => rfl) fun n hn =>
      .bind (refuses_checkCount_read hn) fun _ _ =>
        .bind (pool rfl _ o args) fun _ _ => .stopping _
  have regex : regex.Justified :=
    justified_ofPlan fun o args => .bind (refuses_text fun _ => rfl) fun s _ => by
      split
      · exact .stopping _
      · exact .error (.ofSense trivial)
  simp only [texts, List.forall_mem_append, List.forall_mem_cons]
  exact ⟨⟨justified_ofAttempt, pooled, justified_ofAttempt, ofLength, between, pooledOfLength,
    justified_ofDraw, regex, by simp⟩, List.forall_mem_map.2 fun _ _ => justified_ofDraw⟩

theorem justified_patterned (name description : String) (sample : Calendar.Moment)
    (draw : Attempt Stop Calendar.Moment) : (patterned name description sample draw).Justified := by
  intro o args
  have text : Blames (Refusal [.text] o args) (args.text 0) := refuses_text fun _ => rfl
  have pattern : Blames (Refusal [.text] o args) (fittingPattern name sample args) := by
    refine text.bind fun s _ => ?_
    split
    · exact refuses_sense trivial
    · split
      · exact refuses_sense trivial
      · exact blames_ok _
  have layOut (parts : List Calendar.Piece) (m : Calendar.Moment) :
      Blames (Refusal [.text] o args) (laidOut name parts m) := by
    unfold laidOut
    split
    · exact refuses_sense trivial
    · exact blames_ok _
  refine ⟨pattern.map _, (Attempt.blames_lift text).bind fun s =>
    (refuses_stopping draw).bind fun m => ?_⟩
  split
  · exact Attempt.blames_lift (layOut _ _)
  · exact Attempt.blames_throw (.ofSense trivial)

theorem justified_moments : ∀ g ∈ moments, g.Justified := by
  have date {params : List ParamKind} {i : Nat} (hi : params[i]? = some .text) (o : Options)
      (args : Arguments) : Blames (Refusal params o args) (dateArgument args i) := by
    refine (refuses_text fun _ => hi).bind fun s _ => ?_
    split
    · exact blames_ok _
    · exact refuses_sense trivial
  have between : dateBetween.Justified :=
    justified_ofPlan fun o args => .bind (date rfl o args) fun low _ =>
      .bind (date rfl o args) fun high _ => by
        split
        · exact .stopping _
        · exact .error (.ofSense trivial)
  simp only [moments, List.forall_mem_cons]
  exact ⟨justified_ofAttempt, justified_patterned _ _ _ _, between, justified_ofDraw,
    justified_ofAttempt, justified_patterned _ _ _ _, justified_patterned _ _ _ _,
    justified_ofAttempt, by simp⟩

section Faked
variable (fakers : Fakers)

theorem justified_people : ∀ g ∈ people fakers, g.Justified := by
  have named (name : String) (part : NamePart) : (personNameIn fakers name part).Justified :=
    justified_ofPlan fun o args => .bind (refuses_text fun _ => rfl) fun _ _ => by
      split
      · exact .lift _
      · exact .error (.ofSense trivial)
  simp only [people, List.forall_mem_cons]
  exact ⟨justified_ofDraw, named _ _, justified_ofDraw, named _ _, justified_ofDraw, named _ _,
    justified_ofDraw, justified_ofDraw, justified_ofDraw, justified_ofDraw, justified_ofDraw,
    justified_ofDraw, justified_ofDraw, justified_ofDraw, justified_ofDraw, justified_ofDraw,
    justified_ofDraw, justified_ofDraw, justified_ofDraw, justified_ofDraw, justified_ofDraw,
    by simp⟩

theorem justified_prose : ∀ g ∈ prose fakers, g.Justified := by
  have range {params : List ParamKind} {args : Arguments} (name : String) (o : Options)
      (low : Nat) {high : Nat} (h : params ≠ [] → .int high ∈ args.values) :
      Blames (Refusal params o args) (countRange name o low high) := by
    unfold countRange
    split
    · split
      · exact refuses_sense trivial
      · exact (refuses_checkCount h).bind fun _ _ => blames_ok _
    · exact refuses_sense trivial
  have bare (name description : String) (low high : Nat) (draw : NatRange → Attempt Stop String) :
      (placeholder name description low high draw).Justified :=
    justified_ofPlan fun o args => .bind (range _ _ _ fun h => absurd rfl h) fun _ _ => .stopping _
  have between (name description : String) (draw : NatRange → Attempt Stop String) :
      (placeholderBetween name description draw).Justified :=
    justified_ofPlan fun o args => .bind (refuses_count fun _ => rfl) fun low _ =>
      .bind (refuses_count fun _ => rfl) fun high hhigh =>
        .bind (range _ _ _ fun _ => Arguments.mem_of_count hhigh) fun _ _ => .stopping _
  have words : (words fakers).Justified :=
    justified_ofPlan fun o args => .bind (refuses_count fun _ => rfl) fun n hn =>
      .bind (refuses_checkCount_read hn) fun _ _ => .stopping _
  simp only [prose, List.forall_mem_cons]
  exact ⟨bare _ _ _ _ _, words, bare _ _ _ _ _, between _ _ _, bare _ _ _ _ _, between _ _ _,
    bare _ _ _ _ _, by simp⟩

theorem justified_builtin : ∀ g ∈ builtin fakers, g.Justified := by
  simp only [builtin, List.forall_mem_append]
  exact ⟨⟨⟨⟨justified_numbers, justified_texts⟩, justified_moments⟩,
    justified_people fakers⟩, justified_prose fakers⟩

end Faked
end Library
end Fixture
