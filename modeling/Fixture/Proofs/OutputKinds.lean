import Fixture.Proofs.CalendarTexts
import Fixture.Proofs.CallOutcomes
import Fixture.Proofs.UuidTexts

/-! The kinds of what is drawn. Each generator writes its values in one form, the same for all
generators of its output kind, and a value in that form is accepted as one of the kind. -/
namespace Fixture
open Outcome

namespace ValueKind

/-- A value of the kind in the form in which generators write it. -/
def Canonical : ValueKind → Value → Prop
  | date, v => ∃ d : Date, v = Library.textValue d.text
  | time, v => ∃ t : Time, v = Library.textValue t.text
  | timestamp, v => ∃ (d : Date) (t : Time), t.nanosecond = 0 ∧
      v = Library.textValue (d.text ++ 'T' :: t.text)
  | uuid, v => ∃ u : Uuid, u.IsVersion4 ∧ v = Library.textValue u.text
  | k, v => v.kind = k

theorem accepts_of_canonical {k : ValueKind} {v : Value} (h : k.Canonical v) :
    k.accepts v = true := by
  cases k with
  | date =>
    obtain ⟨d, rfl⟩ := h
    simp [accepts, Library.textValue, Value.text?, Calendar.date?_text]
  | time =>
    obtain ⟨t, rfl⟩ := h
    simp [accepts, Library.textValue, Value.asTime?, Value.text?, Calendar.time?_text]
  | timestamp =>
    obtain ⟨d, t, ht, rfl⟩ := h
    simp [accepts, Library.textValue, Value.asTimestamp?, Value.text?, Calendar.timestamp?_text d t ht]
  | uuid =>
    obtain ⟨u, -, rfl⟩ := h
    simp [accepts, Library.textValue, Value.asUuid?, Value.text?, Uuid.read?_text]
  | any => rfl
  | float =>
    have h : v.kind = .float := h
    simp [accepts, h]
  | _ => exact beq_iff_eq.2 h

end ValueKind

namespace Attempt
variable {ε α β σ : Type} {P : α → Prop} {Q : β → Prop}

/-- What the attempt comes to has the property, with every source. -/
def Yields (P : α → Prop) (x : Attempt ε α) : Prop := x.run.Always (Ensures P)

theorem yields_lift {d : Draw α} (h : d.Always P) : Yields P (ExceptT.lift d : Attempt ε α) :=
  h.bind fun _ ha => Draw.always_done.2 (ensures_ok ha)

theorem yields_pure {a : α} (h : P a) : Yields P (pure a : Attempt ε α) :=
  Draw.always_done.2 (ensures_ok h)

theorem yields_true (x : Attempt ε α) : x.Yields fun _ => True :=
  (Draw.always_true x.run).mono fun _ _ _ _ => trivial

theorem Yields.bind {x : Attempt ε α} {f : α → Attempt ε β} (hx : x.Yields P)
    (hf : ∀ a, P a → (f a).Yields Q) : Yields Q (x >>= f) := by
  refine Draw.Always.bind hx fun r hr => ?_
  cases r with
  | ok a => exact hf a (hr a rfl)
  | error e => exact Draw.always_done.2 (ensures_error e)

theorem Yields.stopping {x : Attempt Stop α} (hx : x.Yields P) : x.stopping.Yields P := by
  refine Draw.Always.bind hx fun r hr => Draw.always_done.2 ?_
  cases r with
  | ok a => exact ensures_ok (hr a rfl)
  | error e => exact ensures_error _

theorem Yields.of_outcome {x : Attempt ε α} (h : x.Yields P) {source : Source σ} {s t : σ} {a : α}
    (ho : x.outcome source s = (.ok a, t)) : P a :=
  h.run source s a (congrArg Prod.fst ho)

end Attempt

namespace Generator

/-- What is drawn for arguments that the generator accepts is of its output kind. -/
def Keeps (g : Generator) : Prop :=
  ∀ o args, args.InRange → g.validate o args = .ok () →
    Attempt.Yields g.output.Canonical (g.generate o args)

section Forms
variable {name description : String} {params : List ParamKind} {output : ValueKind}

theorem keeps_ofDraw {draw : Options → Arguments → Draw Value}
    (h : ∀ o args, (draw o args).Always output.Canonical) :
    (ofDraw name params output description draw).Keeps :=
  fun o args _ _ => Attempt.yields_lift (h o args)

theorem keeps_ofAttempt {draw : Options → Arguments → Attempt Stop Value}
    (h : ∀ o args, Attempt.Yields output.Canonical (draw o args)) :
    (ofAttempt name params output description draw).Keeps :=
  fun o args _ _ => (h o args).stopping

theorem keeps_ofPlan {plan : Options → Arguments → Except Fault (Attempt Fault Value)}
    (h : ∀ o args, args.InRange → Ensures (Attempt.Yields output.Canonical) (plan o args)) :
    (ofPlan name params output description plan).Keeps := by
  intro o args hargs hv
  obtain ⟨draw, hd, hg⟩ := exists_draw_ofPlan hv
  rw [hg]
  exact h o args hargs draw hd

theorem ensures_lift {d : Draw Value} (h : d.Always output.Canonical) :
    Ensures (Attempt.Yields output.Canonical)
      (pure (ExceptT.lift d) : Except Fault (Attempt Fault Value)) :=
  ensures_ok (Attempt.yields_lift h)

theorem ensures_stopping {x : Attempt Stop Value} (h : x.Yields output.Canonical) :
    Ensures (Attempt.Yields output.Canonical)
      (pure x.stopping : Except Fault (Attempt Fault Value)) :=
  ensures_ok h.stopping

end Forms
end Generator

theorem Library.ensures_integerBounds {args : Arguments} (h : args.InRange) (name : String)
    {default : IntRange} (hd : default.InRange) :
    Ensures IntRange.InRange (integerBounds name default args) := by
  unfold integerBounds
  split
  · refine (Arguments.ensures_int h 0).bind fun high hhigh => ?_
    split
    · exact ensures_ok ⟨(by decide : IntType.int64.Holds 0), hhigh⟩
    · exact ensures_error _
  · refine (Arguments.ensures_intBounds h 0).bind fun r hr => ensures_ok ?_
    cases r with
    | none => exact hd
    | some b => exact hr b rfl

namespace Library
open Generator

theorem text_always {α : Type} (x : Draw α) (f : α → String) :
    (x.bind fun a => .done (.text (f a))).Always ValueKind.text.Canonical :=
  (Draw.always_true x).bind fun _ _ => rfl

theorem ensures_drawnText (x : Attempt Stop String) :
    Ensures (Attempt.Yields ValueKind.text.Canonical)
      (pure (drawnText x) : Except Fault (Attempt Fault Value)) :=
  ensures_stopping ((Attempt.yields_true x).bind fun _ _ => Attempt.yields_pure rfl)

theorem canonical_ofInt {n : Int} (h : IntType.int64.Holds n) :
    ValueKind.int.Canonical (.ofInt n) := by
  rw [Value.ofInt_of_range (IntType.intRange_of_holds h)]
  rfl

theorem ofInt_always {r : IntRange} (h : r.InRange) :
    ((Draw.integer r).bind fun n => .done (.ofInt n)).Always ValueKind.int.Canonical := by
  have hlow := (IntType.holds_int64.1 h.1).1
  have hhigh := (IntType.holds_int64.1 h.2).2
  refine (Draw.integer_always r hlow hhigh).bind fun n hn => canonical_ofInt ?_
  exact IntType.holds_int64.2 ⟨Int.le_trans hlow hn.1, Int.lt_of_le_of_lt hn.2 hhigh⟩

theorem keeps_float (params : List ParamKind) : (float params).Keeps := by
  intro o args _ hv
  obtain ⟨bounds, places, hbounds, hscale⟩ := exists_of_validate_float hv
  rw [(float_of_bounds params o hbounds hscale).2]
  refine (Draw.always_true _).bind fun x _ => Draw.always_done.2 ?_
  unfold floatValue
  split
  · exact ensures_ok rfl
  · exact ensures_error _

theorem keeps_numbers : ∀ g ∈ numbers, g.Keeps := by
  have boolean (params : List ParamKind) : (boolean params).Keeps :=
    keeps_ofPlan fun _ _ _ => ensures_bind fun _ _ =>
      ensures_lift ((Draw.always_true _).bind fun _ _ => rfl)
  have integer (params : List ParamKind) : (integer params).Keeps :=
    keeps_ofPlan fun _ _ h => (ensures_integerBounds h _ ⟨by decide, by decide⟩).bind fun _ hr =>
      ensures_lift (ofInt_always hr)
  have natural (params : List ParamKind) : (natural params).Keeps :=
    keeps_ofPlan fun _ _ h =>
      (ensures_integerBounds h _ ⟨by decide, by decide⟩).bind fun _ hr => by
        split
        · exact ensures_error _
        · exact ensures_lift (ofInt_always hr)
  simp only [numbers, List.forall_mem_cons]
  exact ⟨boolean _, boolean _, integer _, integer _, integer _, natural _, natural _,
    keeps_float _, keeps_float _, keeps_float _, by simp⟩

theorem yields_drawText (pool : Pool) (length : Nat) :
    (drawText pool length).Yields ValueKind.text.Canonical := by
  unfold drawText
  split
  · exact Attempt.yields_lift (text_always _ String.ofList)
  · exact Draw.always_done.2 (ensures_error _)

theorem yields_drawTextBetween (pool : Pool) (lengths : NatRange) :
    (drawTextBetween pool lengths).Yields ValueKind.text.Canonical := by
  unfold drawTextBetween
  split
  · exact yields_drawText _ _
  · exact (Attempt.yields_true _).bind fun _ _ => yields_drawText _ _

theorem keeps_texts : ∀ g ∈ texts, g.Keeps := by
  have pooled : characterOf.Keeps :=
    keeps_ofPlan fun _ _ _ => ensures_bind fun _ _ => ensures_stopping (yields_drawText _ _)
  have ofLength : stringOfLength.Keeps :=
    keeps_ofPlan fun _ _ _ => ensures_bind fun _ _ => ensures_bind fun _ _ =>
      ensures_stopping (yields_drawText _ _)
  have between : stringBetween.Keeps :=
    keeps_ofPlan fun _ _ _ => ensures_bind fun low _ => ensures_bind fun high _ => by
      split
      · exact ensures_bind fun _ _ => ensures_stopping (yields_drawTextBetween _ _)
      · exact ensures_error _
  have pooledOfLength : stringOf.Keeps :=
    keeps_ofPlan fun _ _ _ => ensures_bind fun _ _ => ensures_bind fun _ _ =>
      ensures_bind fun _ _ => ensures_stopping (yields_drawText _ _)
  have uuid : uuid.Keeps :=
    keeps_ofDraw fun _ _ => (Draw.always_true _).bind fun bytes _ =>
      ⟨Uuid.random bytes, Uuid.isVersion4_random bytes, rfl⟩
  have regex : regex.Keeps :=
    keeps_ofPlan fun _ _ _ => ensures_bind fun _ _ => by
      split
      · exact ensures_drawnText _
      · exact ensures_error _
  have pick (arity : Nat) : (pick arity).Keeps :=
    keeps_ofDraw fun _ args => by
      split
      · exact Draw.always_done.2 rfl
      · exact text_always _ _
  simp only [texts, List.forall_mem_append, List.forall_mem_cons]
  exact ⟨⟨keeps_ofAttempt fun _ _ => yields_drawText _ _, pooled,
    keeps_ofAttempt fun _ _ => yields_drawTextBetween _ _, ofLength, between, pooledOfLength, uuid,
    regex, by simp⟩, List.forall_mem_map.2 fun _ _ => pick _⟩

theorem keeps_patterned {name description : String} {sample : Calendar.Moment}
    {attempt : Attempt Stop Calendar.Moment} {draw : Draw Calendar.Moment}
    (hdraw : attempt = ExceptT.lift draw) : (patterned name description sample attempt).Keeps := by
  intro o args _ hv
  obtain ⟨parts, -, hgenerate⟩ := exists_pattern_of_validate hdraw hv
  rw [hgenerate]
  refine (Draw.always_true _).bind fun m _ => Draw.always_done.2 ?_
  unfold laidOut
  split
  · exact ensures_error _
  · exact ensures_ok rfl

theorem holds_milliseconds (t : Timestamp) : IntType.int64.Holds (1000 * t.unixSeconds) := by
  have hday := t.date.dayNumber_bounds
  have htime : t.time.secondOfDay < 86400 := by
    obtain ⟨hh, hm, -, -⟩ := t.time.valid
    unfold Time.secondOfDay
    omega
  unfold Date.marchDays at hday
  rw [IntType.holds_int64, Timestamp.unixSeconds]
  omega

theorem yields_drawTimestamp : drawTimestamp.Yields fun t => t.time.nanosecond = 0 := by
  have htime : drawTime.Always fun t => t.nanosecond = 0 :=
    (Draw.always_true _).bind fun _ _ => rfl
  exact (Attempt.yields_true _).bind fun _ _ =>
    (Attempt.yields_lift htime).bind fun _ ht => Attempt.yields_pure ht

theorem keeps_moments : ∀ g ∈ moments, g.Keeps := by
  have day (low high : Date) : Attempt.Yields ValueKind.date.Canonical
      (do return textValue (← drawDate low high).text : Attempt Stop Value) :=
    (Attempt.yields_true _).bind fun d _ => Attempt.yields_pure ⟨d, rfl⟩
  have date : date.Keeps := keeps_ofAttempt fun _ _ => day _ _
  have between : dateBetween.Keeps :=
    keeps_ofPlan fun _ _ _ => ensures_bind fun _ _ => ensures_bind fun _ _ => by
      split
      · exact ensures_stopping (day _ _)
      · exact ensures_error _
  have time : time.Keeps :=
    keeps_ofDraw fun _ _ => (Draw.always_true _).bind fun t _ => ⟨t, rfl⟩
  have datetime : datetime.Keeps :=
    keeps_ofAttempt fun _ _ => yields_drawTimestamp.bind fun t ht =>
      Attempt.yields_pure ⟨t.date, t.time, ht, rfl⟩
  have timestamp : timestamp.Keeps :=
    keeps_ofAttempt fun _ _ => (Attempt.yields_true _).bind fun t _ =>
      Attempt.yields_pure (canonical_ofInt (holds_milliseconds t))
  simp only [moments, List.forall_mem_cons]
  exact ⟨date, keeps_patterned dateMoment_eq, between, time, datetime, keeps_patterned timeMoment_eq,
    keeps_patterned datetimeMoment_eq, timestamp, by simp⟩

section Faked
variable (fakers : Fakers)

theorem keeps_people : ∀ g ∈ people fakers, g.Keeps := by
  have name (name : String) (part : NamePart) : (personName fakers name part).Keeps :=
    keeps_ofDraw fun _ _ => text_always _ _
  have nameIn (name : String) (part : NamePart) : (personNameIn fakers name part).Keeps :=
    keeps_ofPlan fun _ _ _ => ensures_bind fun _ _ => by
      split
      · exact ensures_lift (text_always _ _)
      · exact ensures_error _
  have chinese (name : String) (part : NamePart) : (chineseName fakers name part).Keeps :=
    keeps_ofDraw fun _ _ => text_always _ _
  have age : age.Keeps := keeps_ofDraw fun _ _ => ofInt_always ⟨by decide, by decide⟩
  have drawn (name description : String) (draw : Draw String) : (drawn name description draw).Keeps :=
    keeps_ofDraw fun _ _ => text_always _ _
  simp only [people, List.forall_mem_cons]
  exact ⟨name _ _, nameIn _ _, name _ _, nameIn _ _, name _ _, nameIn _ _, chinese _ _, chinese _ _,
    chinese _ _, age, drawn _ _ _, drawn _ _ _, drawn _ _ _, drawn _ _ _, drawn _ _ _,
    drawn _ _ _, drawn _ _ _, drawn _ _ _, drawn _ _ _, drawn _ _ _, drawn _ _ _, by simp⟩

theorem keeps_prose : ∀ g ∈ prose fakers, g.Keeps := by
  have bare (name description : String) (low high : Nat) (draw : NatRange → Attempt Stop String) :
      (placeholder name description low high draw).Keeps :=
    keeps_ofPlan fun _ _ _ => ensures_bind fun _ _ => ensures_drawnText _
  have between (name description : String) (draw : NatRange → Attempt Stop String) :
      (placeholderBetween name description draw).Keeps :=
    keeps_ofPlan fun _ _ _ => ensures_bind fun _ _ => ensures_bind fun _ _ =>
      ensures_bind fun _ _ => ensures_drawnText _
  have words : (words fakers).Keeps :=
    keeps_ofPlan fun _ _ _ => ensures_bind fun _ _ => ensures_bind fun _ _ => ensures_drawnText _
  simp only [prose, List.forall_mem_cons]
  exact ⟨bare _ _ _ _ _, words, bare _ _ _ _ _, between _ _ _, bare _ _ _ _ _, between _ _ _,
    bare _ _ _ _ _, by simp⟩

theorem keeps_builtin : ∀ g ∈ builtin fakers, g.Keeps := by
  simp only [builtin, List.forall_mem_append]
  exact ⟨⟨⟨⟨keeps_numbers, keeps_texts⟩, keeps_moments⟩, keeps_people fakers⟩, keeps_prose fakers⟩

/-- The output kinds of the generators whose texts denote something else. -/
theorem output_of_name : ∀ g ∈ builtin fakers,
    (g.name = "date" → g.arity ≠ 1 → g.output = .date) ∧
    (g.name = "time" → g.arity = 0 → g.output = .time) ∧
    (g.name = "datetime" → g.arity = 0 → g.output = .timestamp) ∧
    (g.name = "uuid" → g.output = .uuid) := by
  have hheads : ∀ h ∈ (builtin sample).map head,
      (h.1 = "date" → h.2.1.length ≠ 1 → h.2.2 = .date) ∧
      (h.1 = "time" → h.2.1.length = 0 → h.2.2 = .time) ∧
      (h.1 = "datetime" → h.2.1.length = 0 → h.2.2 = .timestamp) ∧
      (h.1 = "uuid" → h.2.2 = .uuid) := by
    decide +kernel
  rw [← heads_builtin fakers, List.forall_mem_map] at hheads
  exact hheads

end Faked
end Library

/-- Whatever value a checked call of a built-in generator has is accepted by the output kind of the
generator that the call is looked up to. What is written for a date, a time, a timestamp or an
identifier reads back as what was drawn: a date with any year that dates have, and an identifier of
version 4. If the collection has what it is asked for and an expression can be sampled, there is a
value, unless the call is a bare one for a text whose drawn length there is no room for. -/
theorem resolve_accepted (fakers : Library.Fakers) (o : Options) (c : Call) {σ : Type}
    (source : Source σ) (s : σ) (h : (Catalogue.builtin fakers o).check c = .ok ()) :
    ∃ g r t, (Catalogue.builtin fakers o).lookup c.name c.args = .ok g ∧
      ((Catalogue.builtin fakers o).resolve c).outcome source s = (r, t) ∧
      (fakers.Yields → c.Samples o source s →
        (∃ v, r = .ok v) ∨ c = ⟨"string", []⟩ ∧ r = .error (.stopped .capacity) ∧
          Library.maxCapacity < ((Draw.natural (Library.defaultLengths o)).run source s).1) ∧
      ∀ v, r = .ok v → g.output.accepts v = true ∧
        (c.name = "date" → c.arity ≠ 1 →
          ∃ d : Date, v = Library.textValue d.text ∧ Calendar.date? d.text = some d) ∧
        (c.name = "time" → c.arity = 0 →
          ∃ u : Time, v = Library.textValue u.text ∧ Calendar.time? u.text = some u) ∧
        (c.name = "datetime" → c.arity = 0 →
          ∃ u : Timestamp, v = Library.textValue (u.date.text ++ 'T' :: u.time.text) ∧
            Calendar.timestamp? (u.date.text ++ 'T' :: u.time.text) = some u) ∧
        (c.name = "uuid" →
          ∃ u : Uuid, v = Library.textValue u.text ∧ Uuid.read? u.text = some u ∧ u.IsVersion4) := by
  obtain ⟨g, args, hg, hargs, ⟨hm, hname⟩, hv, hresolve⟩ := Catalogue.exists_of_check h
  have harity : g.arity = c.arity := (Generator.exists_coerce_iff.1 ⟨args, hargs⟩).1
  rcases ho : ((Catalogue.builtin fakers o).resolve c).outcome source s with ⟨r, t⟩
  have hcomes (hf : fakers.Yields) (hs : c.Samples o source s) :
      (∃ v, r = .ok v) ∨ c = ⟨"string", []⟩ ∧ r = .error (.stopped .capacity) ∧
        Library.maxCapacity < ((Draw.natural (Library.defaultLengths o)).run source s).1 := by
    rcases Catalogue.outcome_of_check hf h hs with ⟨v, t', hvalue⟩ | ⟨hc, n, t', hn, hlong, hstop⟩
    · exact .inl ⟨v, congrArg Prod.fst (ho.symm.trans hvalue)⟩
    · exact .inr ⟨hc, congrArg Prod.fst (ho.symm.trans hstop), by rwa [hn]⟩
  refine ⟨g, r, t, hg, rfl, hcomes, ?_⟩
  rintro v rfl
  rw [hresolve] at ho
  have hcanonical : g.output.Canonical v :=
    (Library.keeps_builtin fakers g hm _ args (Arguments.inRange_of_coerce hargs) hv).of_outcome ho
  obtain ⟨hdate, htime, hdatetime, huuid⟩ := Library.output_of_name fakers g hm
  rw [hname, harity] at hdate htime hdatetime
  rw [hname] at huuid
  refine ⟨ValueKind.accepts_of_canonical hcanonical, ?date, ?time, ?datetime, ?uuid⟩
  case date =>
    intro hn ha
    rw [hdate hn ha] at hcanonical
    obtain ⟨d, hd⟩ := hcanonical
    exact ⟨d, hd, Calendar.date?_text d⟩
  case time =>
    intro hn ha
    rw [htime hn ha] at hcanonical
    obtain ⟨u, hu⟩ := hcanonical
    exact ⟨u, hu, Calendar.time?_text u⟩
  case datetime =>
    intro hn ha
    rw [hdatetime hn ha] at hcanonical
    obtain ⟨d, u, hwhole, hu⟩ := hcanonical
    exact ⟨⟨d, u⟩, hu, Calendar.timestamp?_text d u hwhole⟩
  case uuid =>
    intro hn
    rw [huuid hn] at hcanonical
    obtain ⟨u, hversion, hu⟩ := hcanonical
    exact ⟨u, hu, Uuid.read?_text u, hversion⟩

/-- A window from before the year 0 to past the year 9999. -/
def wideWindow : Call := ⟨"date", [.text "-0005-01-01", .text "+12000-12-31"]⟩

theorem resolve_accepted_wideWindow :
    (Catalogue.builtin Library.sample {}).check wideWindow = .ok () ∧
      ∃ d t, ((Catalogue.builtin Library.sample {}).resolve wideWindow).outcome WordCycle.source
        ⟨[7], 0⟩ = (.ok (Library.textValue d.text), t) ∧ Calendar.date? d.text = some d := by
  have hcheck : (Catalogue.builtin Library.sample {}).check wideWindow = .ok () := rfl
  have hsamples : wideWindow.Samples {} WordCycle.source ⟨[7], 0⟩ := by
    intro v p sampler hcall
    have hname : "date" = "regex" := congrArg Call.name hcall
    exact absurd hname (by decide)
  obtain ⟨g, r, t, -, hr, hcomes, haccepted⟩ :=
    resolve_accepted Library.sample {} wideWindow WordCycle.source ⟨[7], 0⟩ hcheck
  rcases hcomes Library.yields_sample hsamples with ⟨v, rfl⟩ | ⟨hcall, -⟩
  · obtain ⟨-, hdate, -⟩ := haccepted v rfl
    obtain ⟨d, rfl, hd⟩ := hdate rfl (by decide)
    exact ⟨hcheck, d, t, hr, hd⟩
  · have hname : "date" = "string" := congrArg Call.name hcall
    exact absurd hname (by decide)

end Fixture
