import Fixture.Library.Builtin
import Fixture.Library.Sample
import Fixture.Proofs.DayNumbers
import Fixture.Proofs.FloatDraws
import Fixture.Proofs.Generation
import Fixture.Proofs.GivenArguments

/-! The built-in generators draw a value for all that they accept, whatever the source gives: all but
two of them, a text of no given length, and one that matches an expression. -/
namespace Fixture

namespace Calendar

/-- The two have the same parts, whatever these are. -/
def Moment.Alike (m m' : Moment) : Prop :=
  m.date.isSome = m'.date.isSome ∧ m.time.isSome = m'.time.isSome

section Alike
variable {m m' : Moment}

theorem Quantity.isSome_layOut (h : m.Alike m') (fill : Fill) (q : Quantity) :
    (q.layOut m fill).isSome = (q.layOut m' fill).isSome := by
  obtain ⟨date, time⟩ := m
  obtain ⟨date', time'⟩ := m'
  obtain ⟨hd, ht⟩ := h
  cases date <;> cases date' <;> cases hd <;> cases time <;> cases time' <;> cases ht <;>
    cases q <;> simp [layOut, ofDate, ofTime]

theorem Piece.isSome_layOut (h : m.Alike m') (p : Piece) :
    (p.layOut m).isSome = (p.layOut m').isSome := by
  cases p with
  | literal c => rfl
  | number q fill => exact q.isSome_layOut h fill
  | monthName short => simpa [layOut] using h.1
  | weekdayName short => simpa [layOut] using h.1
  | halfDay upper => simpa [layOut] using h.2
  | fraction => simpa [layOut] using h.2
  | fractionDigits n point => simpa [layOut] using h.2
  | offset => rfl

/-- Whether a pattern fits a value depends only on which parts the value has. -/
theorem isSome_layOut (h : m.Alike m') (ps : List Piece) :
    (layOut m ps).isSome = (layOut m' ps).isSome := by
  induction ps with
  | nil => rfl
  | cons p ps ih =>
    have hp := p.isSome_layOut h
    rw [layOut, layOut]
    cases hm : p.layOut m <;> cases hm' : p.layOut m' <;> simp [hm, hm'] at hp ⊢
    cases hs : layOut m ps <;> cases hs' : layOut m' ps <;> simp [hs, hs'] at ih ⊢

end Alike
end Calendar

namespace Generator

/-- The generator draws a value for all the arguments that it accepts. -/
def Steady (g : Generator) : Prop :=
  ∀ o args, args.InRange → g.validate o args = .ok () → Attempt.Succeeds (g.generate o args)

section Forms
variable {name description : String} {params : List ParamKind} {output : ValueKind}

theorem steady_ofDraw {draw : Options → Arguments → Draw Value} :
    (ofDraw name params output description draw).Steady :=
  fun _ _ _ _ => Attempt.succeeds_lift _

theorem steady_ofAttempt {draw : Options → Arguments → Attempt Stop Value}
    (h : ∀ o args, (draw o args).Succeeds) :
    (ofAttempt name params output description draw).Steady :=
  fun o args _ _ => (h o args).stopping

/-- The draw that a plan comes to, if it comes to one, gives a value. -/
def Settles (plan : Except Fault (Attempt Fault Value)) : Prop :=
  ∀ draw, plan = .ok draw → Attempt.Succeeds draw

namespace Settles
variable {α : Type}

theorem lift (d : Draw Value) : Settles (pure (ExceptT.lift d)) :=
  Outcome.ensures_ok (Attempt.succeeds_lift d)

theorem stopping {x : Attempt Stop Value} (h : x.Succeeds) : Settles (pure x.stopping) :=
  Outcome.ensures_ok h.stopping

theorem error (e : Fault) : Settles (.error e) := Outcome.ensures_error e

theorem bind {x : Except Fault α} {f : α → Except Fault (Attempt Fault Value)}
    (h : ∀ a, x = .ok a → Settles (f a)) : Settles (x >>= f) := Outcome.ensures_bind h

end Settles

theorem exists_draw_ofPlan {plan : Options → Arguments → Except Fault (Attempt Fault Value)}
    {o : Options} {args : Arguments}
    (hv : (ofPlan name params output description plan).validate o args = .ok ()) :
    ∃ draw, plan o args = .ok draw ∧
      (ofPlan name params output description plan).generate o args = draw := by
  obtain ⟨draw, hd, -⟩ := Outcome.map_eq_ok.1 hv
  exact ⟨draw, hd, by simp only [ofPlan, hd]⟩

theorem steady_ofPlan {plan : Options → Arguments → Except Fault (Attempt Fault Value)}
    (h : ∀ o args, args.InRange → Settles (plan o args)) :
    (ofPlan name params output description plan).Steady := by
  intro o args hargs hv
  obtain ⟨draw, hd, hg⟩ := exists_draw_ofPlan hv
  rw [hg]
  exact h o args hargs draw hd

/-- What is known of a generator without its texts and its draws. -/
def head (g : Generator) : String × List ParamKind × ValueKind := (g.name, g.params, g.output)

theorem head_ofDraw (draw : Options → Arguments → Draw Value) :
    (ofDraw name params output description draw).head = (name, params, output) := rfl

theorem head_ofPlan (plan : Options → Arguments → Except Fault (Attempt Fault Value)) :
    (ofPlan name params output description plan).head = (name, params, output) := rfl

end Forms
end Generator

namespace Library
open Generator

theorem le_greatestScale {args : Arguments} {n : Nat} (h : scale args = .ok (some n)) :
    n ≤ greatestScale := by
  unfold scale at h
  split at h
  · cases h
  · obtain ⟨m, -, h⟩ := Outcome.bind_eq_ok.1 h
    split at h
    · rename_i hm
      cases h
      omega
    · cases h

/-- A float of the range, with a number of decimal places or without one. -/
def drawnFloat (places : Option Nat) (range : FloatRange) : Attempt Fault Value :=
  ExceptT.mk ((Draw.float range).bind fun x => .done (floatValue (inPlaces places range x)))

section Float
variable {params : List ParamKind} {o : Options} {args : Arguments}

theorem exists_of_validate_float (h : (float params).validate o args = .ok ()) :
    ∃ bounds places, args.floatBounds 0 = .ok bounds ∧ scale args = .ok places := by
  obtain ⟨bounds, hbounds, h⟩ := Outcome.bind_eq_ok.1 h
  obtain ⟨places, hscale, -⟩ := Outcome.map_eq_ok.1 h
  exact ⟨bounds, places, hbounds, hscale⟩

variable {bounds : Option FloatRange} {places : Option Nat}

variable (params o) in
theorem float_of_bounds (hbounds : args.floatBounds 0 = .ok bounds)
    (hscale : scale args = .ok places) :
    (float params).validate o args = .ok () ∧
      (float params).generate o args = drawnFloat places (bounds.getD defaultFloats) := by
  refine ⟨Outcome.bind_eq_ok.2 ⟨_, hbounds, Outcome.map_eq_ok.2 ⟨_, hscale, rfl⟩⟩, ?_⟩
  simp only [float, hbounds, hscale, Attempt.lift_ok_bind]
  exact Attempt.lift_bind _ _

end Float

/-- No float is drawn that is not finite, with or without a scale. -/
theorem steady_float (params : List ParamKind) : (float params).Steady := by
  intro o args _ hv
  obtain ⟨bounds, places, hbounds, hscale⟩ := exists_of_validate_float hv
  rw [(float_of_bounds params o hbounds hscale).2]
  refine Attempt.succeeds_mk (Draw.float_always (bounds.getD defaultFloats)) ?_
  rintro x ⟨hx, -, -⟩
  have hfinite : (inPlaces places (bounds.getD defaultFloats) x).isFinite := by
    cases places with
    | none => exact hx
    | some n => exact roundTo_isFinite (le_greatestScale hscale) _ hx
  obtain ⟨y, hy⟩ := Binary64.exists_of_isFinite hfinite
  exact ⟨.float y, by rw [hy, floatValue]⟩

theorem steady_numbers : ∀ g ∈ numbers, g.Steady := by
  have boolean (params : List ParamKind) : (boolean params).Steady :=
    steady_ofPlan fun _ _ _ => .bind fun _ _ => .lift _
  have integer (params : List ParamKind) : (integer params).Steady :=
    steady_ofPlan fun _ _ _ => .bind fun _ _ => .lift _
  have natural (params : List ParamKind) : (natural params).Steady :=
    steady_ofPlan fun _ _ _ => .bind fun r _ => by
      split
      · exact .error _
      · exact .lift _
  simp only [numbers, List.forall_mem_cons]
  exact ⟨boolean _, boolean _, integer _, integer _, integer _, natural _, natural _,
    steady_float _, steady_float _, steady_float _, by simp⟩

section Room
variable (pool : Pool)

theorem drawText_eq {length : Nat} (h : length ≤ maxCapacity) :
    drawText pool length = ExceptT.lift (drawChars pool length) := if_pos h

/-- Characters whose number is drawn too, unless only one is possible. -/
def drawCharsBetween (lengths : NatRange) : Draw Value :=
  if lengths.low = lengths.high then drawChars pool lengths.low
  else (Draw.natural lengths).bind (drawChars pool)

theorem drawTextBetween_eq {lengths : NatRange} (h : lengths.high ≤ maxCapacity) :
    drawTextBetween pool lengths = ExceptT.lift (drawCharsBetween pool lengths) := by
  unfold drawTextBetween drawCharsBetween
  split
  · exact drawText_eq pool (Nat.le_trans lengths.low_le_high h)
  · exact (Attempt.lift_bind_congr _ (Draw.natural_always lengths) fun n hn =>
      drawText_eq pool (Nat.le_trans hn.2 h)).trans (Attempt.lift_bind_lift _ _)

theorem le_maxCapacity {args : Arguments} (h : args.InRange) {i n : Nat}
    (hn : args.count i = .ok n) : n ≤ maxCapacity := by
  have hrange := (IntType.holds_int64.1 (h n (Arguments.mem_of_count hn))).2
  unfold maxCapacity
  omega

theorem succeeds_drawText {length : Nat} (h : length ≤ maxCapacity) :
    (drawText pool length).Succeeds := by
  rw [drawText_eq pool h]
  exact Attempt.succeeds_lift _

end Room

/-- All texts but that of a bare call, whose length no argument bounds, and those that match an
expression. -/
theorem steady_texts : ∀ g ∈ texts, g = string ∨ g = regex ∨ g.Steady := by
  have pooled : characterOf.Steady :=
    steady_ofPlan fun _ _ _ => .bind fun _ _ => .stopping (succeeds_drawText _ (by decide))
  have ofLength : stringOfLength.Steady :=
    steady_ofPlan fun _ _ h => .bind fun _ hn => .bind fun _ _ =>
      .stopping (succeeds_drawText _ (le_maxCapacity h hn))
  have between : stringBetween.Steady :=
    steady_ofPlan fun _ _ h => .bind fun low _ => .bind fun high hhigh => by
      split
      · refine .bind fun _ _ => .stopping ?_
        rw [drawTextBetween_eq _ (le_maxCapacity h hhigh)]
        exact Attempt.succeeds_lift _
      · exact .error _
  have pooledOfLength : stringOf.Steady :=
    steady_ofPlan fun _ _ h => .bind fun _ hn => .bind fun _ _ => .bind fun _ _ =>
      .stopping (succeeds_drawText _ (le_maxCapacity h hn))
  have character : character.Steady :=
    steady_ofAttempt fun _ _ => succeeds_drawText _ (by decide)
  simp only [texts, List.forall_mem_append, List.forall_mem_cons]
  exact ⟨⟨.inr (.inr character), .inr (.inr pooled), .inl trivial, .inr (.inr ofLength),
    .inr (.inr between), .inr (.inr pooledOfLength), .inr (.inr steady_ofDraw), .inr (.inl trivial),
    by simp⟩, List.forall_mem_map.2 fun _ _ => .inr (.inr steady_ofDraw)⟩

section Dates

def dayAfter (low : Date) (n : Int) : Date := (Date.ofDayNumber? (low.dayNumber + n)).getD low

/-- A date of a window, each of whose days is one. -/
def drawDay (low high : Date) : Draw Date :=
  (Draw.integer (dayRange low high)).bind fun n => .done (dayAfter low n)

theorem dayRange_high_lt (low high : Date) :
    (dayRange low high).high < 9223372036854775808 := by
  have hlow := low.dayNumber_bounds
  have hhigh := high.dayNumber_bounds
  unfold Date.marchDays at hlow hhigh
  simp only [dayRange]
  omega

theorem dayRange_always {low high : Date} (h : low.le high = true) :
    (Draw.integer (dayRange low high)).Always fun n =>
      (0 ≤ n ∧ n ≤ high.dayNumber - low.dayNumber) ∧
        Date.ofDayNumber? (low.dayNumber + n) = some (dayAfter low n) := by
  have hle : low.dayNumber ≤ high.dayNumber := of_decide_eq_true h
  have hlast : max 0 (high.dayNumber - low.dayNumber) = high.dayNumber - low.dayNumber := by omega
  have hdays :=
    Draw.integer_always (dayRange low high) (by simp [dayRange]) (dayRange_high_lt low high)
  refine hdays.mono fun n hn => ?_
  simp only [dayRange, hlast] at hn
  obtain ⟨d, hd, -⟩ := Date.exists_ofDayNumber? (by omega : low.dayNumber ≤ low.dayNumber + n)
    (by omega : low.dayNumber + n ≤ high.dayNumber)
  exact ⟨hn, by rw [dayAfter, hd, Option.getD_some]⟩

theorem drawDate_eq {low high : Date} (h : low.le high = true) :
    drawDate low high = ExceptT.lift (drawDay low high) := by
  refine (Attempt.lift_bind_congr _ (dayRange_always h) fun n hn => ?_).trans
    (Attempt.lift_bind_pure _ (dayAfter low))
  rw [hn.2]

/-- A timestamp of the years that dates without bounds lie in. -/
def drawMoment : Draw Timestamp :=
  (drawDay firstDay lastDay).bind fun d => drawTime.bind fun t => .done ⟨d, t⟩

theorem drawTimestamp_eq : drawTimestamp = ExceptT.lift drawMoment := by
  have hpair (d : Date) :
      (do return ⟨d, ← drawTime⟩ : Attempt Stop Timestamp) =
        ExceptT.lift (drawTime.bind fun t => .done ⟨d, t⟩) :=
    Attempt.lift_bind_pure drawTime (Timestamp.mk d)
  rw [drawTimestamp, drawDate_eq (by decide)]
  simp only [hpair]
  exact Attempt.lift_bind_lift _ _

end Dates

section Patterned
variable {name description : String} {sample : Calendar.Moment}
  {attempt : Attempt Stop Calendar.Moment} {draw : Draw Calendar.Moment} {o : Options}
  {args : Arguments}

/-- What is drawn for a text that is accepted is laid out by the pattern that the text is. -/
theorem exists_pattern_of_validate (hdraw : attempt = ExceptT.lift draw)
    (hv : (patterned name description sample attempt).validate o args = .ok ()) :
    ∃ parts, (Calendar.layOut sample parts).isSome = true ∧
      (patterned name description sample attempt).generate o args =
        ExceptT.mk (draw.bind fun m => .done (laidOut name parts m)) := by
  obtain ⟨parts, hparts, -⟩ := Outcome.map_eq_ok.1 hv
  obtain ⟨s, hs, hparts⟩ := Outcome.bind_eq_ok.1 hparts
  split at hparts
  · cases hparts
  · rename_i hpattern
    split at hparts
    · cases hparts
    · rename_i hsample
      cases hparts
      refine ⟨parts, by rw [hsample]; rfl, ?_⟩
      simp only [patterned, hs, hpattern, Attempt.lift_ok_bind, hdraw, Attempt.stopping_lift]
      exact Attempt.lift_bind _ _

theorem steady_patterned (hdraw : attempt = ExceptT.lift draw)
    (h : draw.Always fun m => m.Alike sample) :
    (patterned name description sample attempt).Steady := by
  intro o args _ hv
  obtain ⟨parts, hsample, hgenerate⟩ := exists_pattern_of_validate hdraw hv
  rw [hgenerate]
  refine Attempt.succeeds_mk h fun m hm => ?_
  rw [← Calendar.isSome_layOut hm] at hsample
  obtain ⟨s, hs⟩ := Option.isSome_iff_exists.1 hsample
  exact ⟨textValue s, by simp [laidOut, hs]⟩

end Patterned

section Moments

theorem dateMoment_eq : (do return { date := some (← drawDate firstDay lastDay) } :
    Attempt Stop Calendar.Moment) =
      ExceptT.lift ((drawDay firstDay lastDay).bind fun d => .done { date := some d }) := by
  rw [drawDate_eq (by decide)]
  exact Attempt.lift_bind_pure _ _

theorem timeMoment_eq : (do return { time := some (← drawTime) } : Attempt Stop Calendar.Moment) =
    ExceptT.lift (drawTime.bind fun t => .done { time := some t }) :=
  Attempt.lift_bind_pure drawTime _

theorem datetimeMoment_eq : (do
    let t ← drawTimestamp
    return { date := some t.date, time := some t.time } : Attempt Stop Calendar.Moment) =
      ExceptT.lift (drawMoment.bind fun t => .done { date := some t.date, time := some t.time }) := by
  rw [drawTimestamp_eq]
  exact Attempt.lift_bind_pure _ _

end Moments

theorem steady_moments : ∀ g ∈ moments, g.Steady := by
  have datePatterned : datePatterned.Steady :=
    steady_patterned dateMoment_eq ((Draw.always_true _).bind fun _ _ => ⟨rfl, rfl⟩)
  have timePatterned : timePatterned.Steady :=
    steady_patterned timeMoment_eq ((Draw.always_true _).bind fun _ _ => ⟨rfl, rfl⟩)
  have datetimePatterned : datetimePatterned.Steady :=
    steady_patterned datetimeMoment_eq ((Draw.always_true _).bind fun _ _ => ⟨rfl, rfl⟩)
  have drawDate {low high : Date} (h : low.le high = true) : (drawDate low high).Succeeds := by
    rw [drawDate_eq h]
    exact Attempt.succeeds_lift _
  have drawTimestamp : drawTimestamp.Succeeds := by
    rw [drawTimestamp_eq]
    exact Attempt.succeeds_lift _
  have date : date.Steady :=
    steady_ofAttempt fun _ _ => (drawDate (by decide)).bind fun _ => Attempt.succeeds_pure _
  have between : dateBetween.Steady :=
    steady_ofPlan fun _ _ _ => .bind fun _ _ => .bind fun _ _ => by
      split
      · rename_i hle
        exact .stopping ((drawDate hle).bind fun _ => Attempt.succeeds_pure _)
      · exact .error _
  have datetime : datetime.Steady :=
    steady_ofAttempt fun _ _ => drawTimestamp.bind fun _ => Attempt.succeeds_pure _
  have timestamp : timestamp.Steady :=
    steady_ofAttempt fun _ _ => drawTimestamp.bind fun _ => Attempt.succeeds_pure _
  simp only [moments, List.forall_mem_cons]
  exact ⟨date, datePatterned, between, steady_ofDraw, datetime, timePatterned, datetimePatterned,
    timestamp, by simp⟩

/-- For every range of counts that is not empty the collection has words, a sentence and a
paragraph. -/
structure Fakers.Yields (fakers : Fakers) : Prop where
  words {low high : Nat} (h : low < high) : (fakers.words low high).Succeeds
  sentence {low high : Nat} (h : low < high) : (fakers.sentence low high).Succeeds
  paragraph {low high : Nat} (h : low < high) : (fakers.paragraph low high).Succeeds

namespace Sample

theorem succeeds_count {low high : Nat} (h : low < high) : (count low high).Succeeds := by
  rw [count, dif_pos h]
  exact Attempt.succeeds_lift _

theorem succeeds_words {low high : Nat} (h : low < high) : (words low high).Succeeds :=
  (succeeds_count h).bind fun _ => Attempt.succeeds_lift _

theorem succeeds_sentence {low high : Nat} (h : low < high) : (sentence low high).Succeeds :=
  (succeeds_words h).bind fun _ => Attempt.succeeds_pure _

theorem succeeds_paragraph {low high : Nat} (h : low < high) : (paragraph low high).Succeeds :=
  (succeeds_count h).bind fun n =>
    ((succeeds_sentence (by decide)).replicate n).bind fun _ => Attempt.succeeds_pure _

end Sample

theorem yields_sample : sample.Yields where
  words := Sample.succeeds_words
  sentence := Sample.succeeds_sentence
  paragraph := Sample.succeeds_paragraph

section Faked
variable {fakers : Fakers}

theorem steady_people : ∀ g ∈ people fakers, g.Steady := by
  have named (name : String) (part : NamePart) : (personNameIn fakers name part).Steady :=
    steady_ofPlan fun _ _ _ => .bind fun _ _ => by
      split
      · exact .lift _
      · exact .error _
  simp only [people, List.forall_mem_cons]
  exact ⟨steady_ofDraw, named _ _, steady_ofDraw, named _ _, steady_ofDraw, named _ _,
    steady_ofDraw, steady_ofDraw, steady_ofDraw, steady_ofDraw, steady_ofDraw, steady_ofDraw,
    steady_ofDraw, steady_ofDraw, steady_ofDraw, steady_ofDraw, steady_ofDraw, steady_ofDraw,
    steady_ofDraw, steady_ofDraw, steady_ofDraw, by simp⟩

theorem succeeds_drawnText {x : Attempt Stop String} (h : x.Succeeds) :
    (drawnText x).Succeeds :=
  (h.bind fun _ => Attempt.succeeds_pure _).stopping

theorem steady_prose (hf : fakers.Yields) : ∀ g ∈ prose fakers, g.Steady := by
  have bare (name description : String) (low high : Nat) {draw : NatRange → Attempt Stop String}
      (h : ∀ counts, (draw counts).Succeeds) :
      (placeholder name description low high draw).Steady :=
    steady_ofPlan fun _ _ _ => .bind fun _ _ => Outcome.ensures_ok (succeeds_drawnText (h _))
  have between (name description : String) {draw : NatRange → Attempt Stop String}
      (h : ∀ counts, (draw counts).Succeeds) : (placeholderBetween name description draw).Steady :=
    steady_ofPlan fun _ _ _ => .bind fun _ _ => .bind fun _ _ => .bind fun _ _ =>
      Outcome.ensures_ok (succeeds_drawnText (h _))
  have several (counts : NatRange) : (drawWords fakers counts).Succeeds :=
    hf.words (Nat.lt_succ_of_le counts.low_le_high)
  have sentence (counts : NatRange) : (drawSentence fakers counts).Succeeds :=
    hf.sentence (Nat.lt_succ_of_le counts.low_le_high)
  have paragraph (counts : NatRange) : (drawParagraph fakers counts).Succeeds :=
    hf.paragraph (Nat.lt_succ_of_le counts.low_le_high)
  have title (counts : NatRange) : (drawTitle fakers counts).Succeeds :=
    (several counts).bind fun _ => Attempt.succeeds_pure _
  have words : (words fakers).Steady :=
    steady_ofPlan fun _ _ _ => .bind fun _ _ => .bind fun _ _ => Outcome.ensures_ok
      (succeeds_drawnText ((several _).bind fun _ => Attempt.succeeds_pure _))
  simp only [prose, List.forall_mem_cons]
  exact ⟨bare _ _ _ _ fun _ => Attempt.succeeds_lift _, words, bare _ _ _ _ sentence,
    between _ _ sentence, bare _ _ _ _ paragraph, between _ _ paragraph, bare _ _ _ _ title,
    by simp⟩

theorem steady_builtin (hf : fakers.Yields) :
    ∀ g ∈ builtin fakers, g = string ∨ g = regex ∨ g.Steady := by
  have steady {gs : List Generator} (h : ∀ g ∈ gs, g.Steady) :
      ∀ g ∈ gs, g = string ∨ g = regex ∨ g.Steady := fun g hg => .inr (.inr (h g hg))
  simp only [builtin, List.forall_mem_append]
  exact ⟨⟨⟨⟨steady steady_numbers, steady_texts⟩, steady steady_moments⟩, steady steady_people⟩,
    steady (steady_prose hf)⟩

theorem heads_people (fakers : Fakers) : (people fakers).map head = (people sample).map head := by
  simp only [people, personName, personNameIn, chineseName, drawn, List.map_cons, List.map_nil,
    head_ofDraw, head_ofPlan]

theorem heads_prose (fakers : Fakers) : (prose fakers).map head = (prose sample).map head := by
  simp only [prose, placeholder, placeholderBetween, words, List.map_cons, List.map_nil,
    head_ofPlan]

/-- The generators are the same but for what they draw, whatever the collection is. -/
theorem heads_builtin (fakers : Fakers) :
    (builtin fakers).map head = (builtin sample).map head := by
  simp only [builtin, List.map_append, heads_people fakers, heads_prose fakers]

end Faked
end Library

namespace Catalogue

theorem mem_place {g h : Generator} {hs : List Generator} (hm : h ∈ (place g hs).1) :
    h = g ∨ h ∈ hs := by
  induction hs with
  | nil => exact Or.inl (List.mem_singleton.1 hm)
  | cons k hs ih =>
    rw [place] at hm
    split at hm
    · exact (List.mem_cons.1 hm).imp_right (List.mem_cons_of_mem _)
    · rcases List.mem_cons.1 hm with rfl | hm
      · exact Or.inr List.mem_cons_self
      · exact (ih hm).imp_right (List.mem_cons_of_mem _)

theorem mem_placeNamed {g h : Generator} {es : List (String × List Generator)}
    {e : String × List Generator} (he : e ∈ (placeNamed g es).1) (hh : h ∈ e.2) :
    (h = g ∧ e.1 = g.name) ∨ ∃ e' ∈ es, e'.1 = e.1 ∧ h ∈ e'.2 := by
  induction es with
  | nil =>
    cases List.mem_singleton.1 he
    exact Or.inl ⟨List.mem_singleton.1 hh, rfl⟩
  | cons k es ih =>
    obtain ⟨n, hs⟩ := k
    rw [placeNamed] at he
    split at he
    · rename_i hn
      rcases List.mem_cons.1 he with rfl | he
      · exact (mem_place hh).imp (fun hg => ⟨hg, hn⟩) fun hm => ⟨_, List.mem_cons_self, rfl, hm⟩
      · exact Or.inr ⟨e, List.mem_cons_of_mem _ he, rfl, hh⟩
    · split at he
      · rcases List.mem_cons.1 he with rfl | he
        · exact Or.inl ⟨List.mem_singleton.1 hh, rfl⟩
        · exact Or.inr ⟨e, he, rfl, hh⟩
      · rcases List.mem_cons.1 he with rfl | he
        · exact Or.inr ⟨_, List.mem_cons_self, rfl, hh⟩
        · refine (ih he).imp_right ?_
          rintro ⟨e', he', hn, hm⟩
          exact ⟨e', List.mem_cons_of_mem _ he', hn, hm⟩

theorem mem_registerAll {c : Catalogue} {gs : List Generator} {h : Generator}
    {e : String × List Generator} (he : e ∈ (c.registerAll gs).entries) (hh : h ∈ e.2) :
    (h ∈ gs ∧ e.1 = h.name) ∨ ∃ e' ∈ c.entries, e'.1 = e.1 ∧ h ∈ e'.2 := by
  induction gs generalizing c with
  | nil => exact Or.inr ⟨e, he, rfl, hh⟩
  | cons g gs ih =>
    rcases ih (c := (c.register g).1) he with ⟨hm, hn⟩ | ⟨e', he', hn, hm⟩
    · exact Or.inl ⟨List.mem_cons_of_mem _ hm, hn⟩
    · rcases mem_placeNamed he' hm with ⟨rfl, hname⟩ | ⟨e'', he'', hn', hm'⟩
      · exact Or.inl ⟨List.mem_cons_self, hn.symm.trans hname⟩
      · exact Or.inr ⟨e'', he'', hn'.trans hn, hm'⟩

theorem mem_of_firstCoercible {name : String} {args : List Value} {gs : List Generator}
    {g : Generator} (h : firstCoercible name args gs = .ok g) : g ∈ gs := by
  cases gs with
  | nil => cases h
  | cons k gs =>
    rw [firstCoercible] at h
    split at h
    · cases h
      exact List.mem_cons_self
    · split at h
      · rename_i h' hf
        cases h
        exact List.mem_cons_of_mem _ (List.mem_of_find?_eq_some hf)
      · cases h

theorem mem_overloads_of_lookup {c : Catalogue} {name : String} {args : List Value} {g : Generator}
    (h : c.lookup name args = .ok g) : g ∈ c.overloads name := by
  have hm : g ∈ c.candidates name args.length := by
    rw [lookup] at h
    split at h
    · rename_i h' hf
      cases h
      exact List.mem_of_find?_eq_some hf
    · exact mem_of_firstCoercible h
  exact (List.mem_filter.1 hm).1

section Builtin
variable {fakers : Library.Fakers} {o : Options}

theorem mem_builtin_of_lookup {name : String} {args : List Value} {g : Generator}
    (h : (builtin fakers o).lookup name args = .ok g) :
    g ∈ Library.builtin fakers ∧ g.name = name := by
  have hm := mem_overloads_of_lookup h
  unfold overloads at hm
  cases hs : (builtin fakers o).entries.lookup name with
  | none => simp [hs] at hm
  | some gs =>
    rw [hs] at hm
    obtain ⟨l₁, l₂, he, -⟩ := List.lookup_eq_some_iff.1 hs
    have hentry : (name, gs) ∈ (builtin fakers o).entries := by simp [he]
    rcases mem_registerAll hentry hm with ⟨hg, hn⟩ | ⟨e, hnil, -⟩
    · exact ⟨hg, hn.symm⟩
    · cases hnil

@[simp] theorem options_registerAll (c : Catalogue) (gs : List Generator) :
    (c.registerAll gs).options = c.options := by
  induction gs generalizing c with
  | nil => rfl
  | cons g gs ih => exact ih (c.register g).1

variable (fakers o) in
theorem options_builtin : (builtin fakers o).options = o := options_registerAll _ _

/-- A call that passes its check is answered by a generator of its name, from arguments that the
generator accepts. -/
theorem exists_of_check {c : Call} (h : (builtin fakers o).check c = .ok ()) :
    ∃ g args, (builtin fakers o).lookup c.name c.args = .ok g ∧
      g.coerce c.name c.args = .ok args ∧ (g ∈ Library.builtin fakers ∧ g.name = c.name) ∧
      g.validate o args = .ok () ∧ (builtin fakers o).resolve c = g.generate o args := by
  obtain ⟨⟨g, args⟩, hp, -⟩ := Outcome.map_eq_ok.1 h
  obtain ⟨hg, ha, hv⟩ := prepare_eq_ok.1 hp
  refine ⟨g, args, hg, ha, mem_builtin_of_lookup hg, ?_, ?_⟩
  · rwa [options_builtin] at hv
  · rw [resolve, hp]
    dsimp only
    rw [options_builtin]

end Builtin
end Catalogue

end Fixture
