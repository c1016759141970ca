import Fixture.Proofs.CalendarDays
import Fixture.Proofs.OutputKinds
import Fixture.Proofs.ReachedDraws
import Fixture.Proofs.SoleOverloads

/-! The dates, timestamps and times of the Unix epoch that are drawn. A date is drawn from a window
of the calendar, and each date of the window is drawn with some source. A timestamp begins with the
date that is drawn from the same words alone, and what is drawn from them as a number of milliseconds
is the same moment. -/
namespace Fixture
open Outcome

namespace Library
variable {low high : Date}

end Library

section Windows
variable (fakers : Library.Fakers) (o : Options) (first last : String)

end Windows

namespace Library
variable {o : Options} {first last : String} {low high : Date}

end Library

/-- The Unix time of a timestamp without a leap second: the seconds of the days from the first one of
1970, and those of the day. -/
def Timestamp.epochSeconds (t : Timestamp) : Int :=
  86400 * t.date.daysFromEpoch + (3600 * t.time.hour + 60 * t.time.minute + t.time.second)

theorem Timestamp.unixSeconds_eq {t : Timestamp} {second : Fin 86400}
    (h : t.time = Time.ofSecond second) : t.unixSeconds = t.epochSeconds := by
  simp only [unixSeconds, epochSeconds, Date.dayNumber_eq_daysFromEpoch, h, Time.secondOfDay,
    Time.ofSecond]
  omega

section Run
variable {σ α : Type} {source : Source σ} {s u v : σ}

theorem Library.drawMoment_run {d : Date} {second : Fin 86400}
    (hdate : (drawDay firstDay lastDay).run source s = (d, u))
    (hsecond : (Draw.index 86400 (by decide)).run source u = (second, v)) :
    drawMoment.run source s = (⟨d, Time.ofSecond second⟩, v) := by
  have htime : drawTime.run source u = (Time.ofSecond second, v) := by
    show ((Draw.index 86400 (by decide)).bind fun n => .done (Time.ofSecond n)).run source u = _
    rw [Draw.run_bind_of hsecond]
    rfl
  rw [drawMoment, Draw.run_bind_of hdate, Draw.run_bind_of htime]
  rfl

theorem Attempt.outcome_map {ε β : Type} {x : Draw α} {a : α} (h : x.run source s = (a, u))
    (f : α → β) : outcome (ExceptT.lift (x.bind fun a => .done (f a)) : Attempt ε β) source s =
      (.ok (f a), u) := by
  rw [outcome_draw, Draw.run_bind_of h]
  rfl

end Run

/-- A source gives one moment in three forms: as a timestamp, whose text reads back and whose time is
a whole second of the day; as the date of that timestamp; and as its Unix time in milliseconds, which
takes the same words as the timestamp. -/
theorem resolve_moment (fakers : Library.Fakers) (o : Options) {σ : Type} (source : Source σ) (s : σ) :
    ∃ (t : Timestamp) (second : Fin 86400) (range : Value.intRange (1000 * t.epochSeconds)) (u v : σ),
      t.time = Time.ofSecond second ∧
      Calendar.timestamp? (t.date.text ++ 'T' :: t.time.text) = some t ∧
      Calendar.date? t.date.text = some t.date ∧
      ((Catalogue.builtin fakers o).resolve ⟨"datetime", []⟩).outcome source s =
        (.ok (Library.textValue (t.date.text ++ 'T' :: t.time.text)), v) ∧
      ((Catalogue.builtin fakers o).resolve ⟨"date", []⟩).outcome source s =
        (.ok (Library.textValue t.date.text), u) ∧
      ((Catalogue.builtin fakers o).resolve ⟨"timestamp", []⟩).outcome source s =
        (.ok (.int (1000 * t.epochSeconds) range), v) := by
  have hmoments {g : Generator} (hg : g ∈ Library.moments) : g ∈ Library.builtin fakers := by
    simp [Library.builtin, hg]
  have hdate : Library.date ∈ Library.builtin fakers := hmoments (by simp [Library.moments])
  have hdatetime : Library.datetime ∈ Library.builtin fakers := hmoments (by simp [Library.moments])
  have htimestamp : Library.timestamp ∈ Library.builtin fakers :=
    hmoments (by simp [Library.moments])
  rcases hd : (Library.drawDay Library.firstDay Library.lastDay).run source s with ⟨d, u⟩
  rcases hsecond : (Draw.index 86400 (by decide)).run source u with ⟨second, v⟩
  have ht := Library.drawMoment_run hd hsecond
  have hepoch : Timestamp.unixSeconds ⟨d, Time.ofSecond second⟩ =
      Timestamp.epochSeconds ⟨d, Time.ofSecond second⟩ := Timestamp.unixSeconds_eq rfl
  have hrange : Value.intRange (1000 * Timestamp.epochSeconds ⟨d, Time.ofSecond second⟩) := by
    rw [← hepoch]
    exact IntType.intRange_of_holds (Library.holds_milliseconds _)
  refine ⟨⟨d, Time.ofSecond second⟩, second, hrange, u, v, rfl, Calendar.timestamp?_text _ _ rfl,
    Calendar.date?_text d, ?datetime, ?date, ?timestamp⟩
  case datetime =>
    rw [(Catalogue.resolve_ofAttempt o hdatetime).2,
      Attempt.stopping_map Library.drawTimestamp_eq]
    exact Attempt.outcome_map ht fun t => Library.textValue (t.date.text ++ 'T' :: t.time.text)
  case date =>
    rw [(Catalogue.resolve_ofAttempt o hdate).2,
      Attempt.stopping_map (Library.drawDate_eq (by decide))]
    exact Attempt.outcome_map hd fun d => Library.textValue d.text
  case timestamp =>
    rw [(Catalogue.resolve_ofAttempt o htimestamp).2, Attempt.stopping_map Library.drawTimestamp_eq,
      ← Value.ofInt_of_range hrange, ← hepoch]
    exact Attempt.outcome_map ht fun t => Value.ofInt (1000 * t.unixSeconds)

end Fixture
