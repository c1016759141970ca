import Fixture.Proofs.CalendarTexts

/-! A text of a date and a text of a time, joined by a `T`. A reader of dates is not disturbed by what
begins with neither a digit nor a blank, and the readers of whole seconds never pass a point; so the
joined text is a timestamp if the time has no fraction, and no timestamp if it has one. -/
namespace Fixture.Calendar
open Text

section Whole
variable {α : Type} {x : Reader α} {s r : List Char} {a : α}

theorem run_finish_eq_some {u : Unit} : finish.run s = some (u, r) ↔ s = [] ∧ r = [] := by
  cases s <;> simp [eq_comm]

theorem whole_eq_some : ((x <* finish).run s).map Prod.fst = some a ↔ x.run s = some (a, []) := by
  rw [seqLeft_eq_bind, Option.map_eq_some_iff]
  constructor
  · rintro ⟨⟨b, r⟩, h, rfl⟩
    obtain ⟨b, s', hb, h⟩ := run_bind_eq_some.1 h
    obtain ⟨u, s'', hs, h⟩ := run_bind_eq_some.1 h
    obtain ⟨rfl, rfl⟩ := run_finish_eq_some.1 hs
    cases h
    exact hb
  · intro h
    exact ⟨(a, []), by rw [run_bind_of_some h]; rfl, rfl⟩

theorem whole_eq_none :
    ((x <* finish).run s).map Prod.fst = none ↔ ∀ a, x.run s ≠ some (a, []) := by
  simp only [Option.eq_none_iff_forall_ne_some, ne_eq, whole_eq_some]

theorem date?_eq_some {d : Date} : date? s = some d ↔ date.run s = some (d, []) := whole_eq_some

theorem exists_run_of_time? {t : Time} (h : time? s = some t) :
    ∃ withFraction, (time withFraction).run s = some (t, []) := by
  rw [time?, Option.map_or, Option.or_eq_some_iff, whole_eq_some, whole_eq_some] at h
  rcases h with h | ⟨-, h⟩
  · exact ⟨false, h⟩
  · exact ⟨true, h⟩

end Whole

section Extends
variable {α β : Type} {x : Reader α} {f : α → Reader β} {e : List Char}

/-- With `e` after a text, the reader takes the same of the text, and leaves `e`. -/
def Extends (e : List Char) (x : Reader α) : Prop :=
  ∀ ⦃s a r⦄, x.run s = some (a, r) → x.run (s ++ e) = some (a, r ++ e)

theorem Extends.bind (hx : Extends e x) (hf : ∀ a, Extends e (f a)) : Extends e (x >>= f) := by
  intro s b r h
  obtain ⟨a, s', ha, hb⟩ := run_bind_eq_some.1 h
  rw [run_bind_of_some (hx ha), hf a hb]

theorem extends_pure (a : α) : Extends e (pure a) := by
  intro s b r h
  cases h
  rfl

theorem extends_lift (o : Option α) : Extends e (liftM o) := by
  intro s a r h
  obtain ⟨rfl, rfl⟩ := run_lift_eq_some.1 h
  exact run_lift_eq_some.2 ⟨rfl, rfl⟩

theorem run_sign_eq_some {c : Char} {s r : List Char} {u : Unit} :
    (sign c).run s = some (u, r) ↔ s = c :: r := by
  cases s with
  | nil => simp [sign, StateT.run]
  | cons d s =>
    by_cases hd : d = c
    · simp [sign, StateT.run, hd]
    · simp [sign, StateT.run, hd]

theorem extends_sign (c : Char) : Extends e (sign c) := by
  intro s u r h
  exact run_sign_eq_some.2 (by rw [run_sign_eq_some.1 h, List.cons_append])

theorem NoDigitFirst.append {r : List Char} (hr : NoDigitFirst r) (he : NoDigitFirst e) :
    NoDigitFirst (r ++ e) := by
  cases r with
  | nil => exact he
  | cons c r => exact hr

theorem extends_digits (most : Nat) (he : NoDigitFirst e) : Extends e (digits most) := by
  intro s ds r h
  obtain ⟨rfl, hds, hne, hl, hr⟩ := digits_eq_some.1 h
  exact digits_eq_some.2 ⟨List.append_assoc .., hds, hne, hl, hr.imp id (·.append he)⟩

theorem digits_length_append (he : NoDigitFirst e) {s ds r : List Char}
    (h : (digits s.length).run s = some (ds, r)) :
    (digits (s ++ e).length).run (s ++ e) = some (ds, r ++ e) := by
  obtain ⟨hs, hds, hne, hl, hr⟩ := digits_eq_some.1 h
  have hend : NoDigitFirst r := by
    rcases hr with hr | hr
    · have hlength := congrArg List.length hs
      rw [List.length_append] at hlength
      rw [List.length_eq_zero_iff.1 (by omega : r.length = 0)]
      nofun
    · exact hr
  rw [List.length_append]
  exact digits_eq_some.2 ⟨by rw [hs, List.append_assoc], hds, hne, by omega, .inr (hend.append he)⟩

theorem run_signed_append (he : NoDigitFirst e) (value : List Char → Int) {s t u r : List Char} {y : Int}
    (h : (do set s; return value (← digits s.length) : Reader Int).run t = some (y, r)) :
    (do set (s ++ e); return value (← digits (s ++ e).length) : Reader Int).run u =
      some (y, r ++ e) := by
  obtain ⟨_, s', hs, h⟩ := run_bind_eq_some.1 h
  cases hs
  obtain ⟨ds, s', hds, h⟩ := run_bind_eq_some.1 h
  cases h
  rw [run_bind_of_some (StateT.run_set _ _), run_bind_of_some (digits_length_append he hds)]
  rfl

theorem skipBlank_append_of_head (he : ∀ c, e.head? = some c → isBlank c = false) (s : List Char) :
    skipBlank (s ++ e) = skipBlank s ++ e := by
  have hself : e.dropWhile isBlank = e := by
    cases e with
    | nil => rfl
    | cons c e => exact skipBlank_of_head (he c rfl) e
  unfold skipBlank
  rw [List.dropWhile_append, hself]
  split
  · rename_i hempty
    rw [List.isEmpty_iff.1 hempty, List.nil_append]
  · rfl

variable (he : ∀ c, e.head? = some c → c.isDigit = false ∧ isBlank c = false)
include he

theorem extends_blanks : Extends e blanks := by
  intro s u r h
  cases h
  rw [run_blanks, skipBlank_append_of_head (fun c hc => (he c hc).2)]

theorem extends_field (most : Nat) : Extends e (field most) :=
  (extends_blanks he).bind fun _ =>
    (extends_digits most fun c hc => (he c hc).1).bind fun _ => extends_pure _

theorem extends_year : Extends e year := by
  have hdigit : NoDigitFirst e := fun c hc => (he c hc).1
  refine (extends_blanks he).bind fun _ => ?_
  intro s y r h
  rw [run_bind_of_some (StateT.run_get s)] at h
  rw [run_bind_of_some (StateT.run_get (s ++ e))]
  cases s with
  | nil => cases h
  | cons c s =>
    -- the first character, which says whether there is a sign, is the same in both texts
    rw [List.cons_append]
    split at h
    · rename_i heq
      cases heq
      exact run_signed_append hdigit (fun ds => -(digitsValue ds : Int)) h
    · rename_i heq
      cases heq
      exact run_signed_append hdigit (fun ds => (digitsValue ds : Int)) h
    · rename_i hminus hplus
      obtain ⟨ds, s', hds, h⟩ := run_bind_eq_some.1 h
      cases h
      split
      · rename_i heq
        cases heq
        exact absurd rfl (hminus s)
      · rename_i heq
        cases heq
        exact absurd rfl (hplus s)
      · rw [← List.cons_append, run_bind_of_some (extends_digits 4 hdigit hds)]
        rfl

theorem extends_date : Extends e date :=
  (extends_year he).bind fun _ => (extends_sign _).bind fun _ => (extends_field he 2).bind fun _ =>
    (extends_sign _).bind fun _ => (extends_field he 2).bind fun _ => extends_lift _

end Extends

section Keeps
variable {α β : Type} {x y : Reader α} {f g : α → Reader β} {c : Char}

/-- The reader never passes the character `c`. -/
def Keeps (c : Char) (x : Reader α) : Prop :=
  ∀ ⦃s a r⦄, x.run s = some (a, r) → (c ∈ s ↔ c ∈ r)

theorem Keeps.bind (hx : Keeps c x) (hf : ∀ a, Keeps c (f a)) : Keeps c (x >>= f) := by
  intro s b r h
  obtain ⟨a, s', ha, hb⟩ := run_bind_eq_some.1 h
  exact (hx ha).trans (hf a hb)

theorem keeps_pure (a : α) : Keeps c (pure a) := by
  intro s b r h
  cases h
  rfl

theorem keeps_lift (o : Option α) : Keeps c (liftM o) := by
  intro s a r h
  obtain ⟨-, rfl⟩ := run_lift_eq_some.1 h
  rfl

theorem keeps_sign {d : Char} (hd : c ≠ d) : Keeps c (sign d) := by
  intro s u r h
  rw [run_sign_eq_some.1 h, List.mem_cons, or_iff_right hd]

theorem keeps_digits (hc : c.isDigit = false) (most : Nat) : Keeps c (digits most) := by
  intro s ds r h
  obtain ⟨rfl, hds, -⟩ := digits_eq_some.1 h
  have hnot : c ∉ ds := fun hmem => by
    rw [hds c hmem] at hc
    cases hc
  rw [List.mem_append, or_iff_right hnot]

theorem keeps_blanks (hc : isBlank c = false) : Keeps c blanks := by
  intro s u r h
  cases h
  have hs := List.takeWhile_append_dropWhile (p := isBlank) (l := s)
  have hnot : c ∉ s.takeWhile isBlank := fun hmem => by
    rw [List.all_eq_true.1 List.all_takeWhile c hmem] at hc
    cases hc
  rw [← hs, List.mem_append, or_iff_right hnot, hs]
  rfl

theorem keeps_field (hdigit : c.isDigit = false) (hblank : isBlank c = false) (most : Nat) :
    Keeps c (field most) :=
  (keeps_blanks hblank).bind fun _ => (keeps_digits hdigit most).bind fun _ => keeps_pure _

theorem keeps_time : Keeps '.' (time false) :=
  have field := keeps_field (c := '.') (by decide) (by decide) 2
  field.bind fun _ => (keeps_sign (by decide)).bind fun _ => field.bind fun _ =>
    (keeps_sign (by decide)).bind fun _ => field.bind fun _ => keeps_lift _

/-- The two readers are one on the texts without the character `c`. -/
def SameWithout (c : Char) (x y : Reader α) : Prop := ∀ ⦃s⦄, c ∉ s → x.run s = y.run s

theorem Keeps.sameWithout_bind (hx : Keeps c x) (hfg : ∀ a, SameWithout c (f a) (g a)) :
    SameWithout c (x >>= f) (x >>= g) := by
  intro s hs
  cases h : x.run s with
  | none => rw [run_bind_of_none h, run_bind_of_none h]
  | some p =>
    obtain ⟨a, r⟩ := p
    rw [run_bind_of_some h, run_bind_of_some h, hfg a fun hr => hs ((hx h).2 hr)]

theorem run_fraction_of_no_point {s : List Char} (hs : '.' ∉ s) :
    fraction.run s = some (0, s) := by
  rw [fraction, run_bind_of_some (StateT.run_get s)]
  split
  · exact absurd List.mem_cons_self hs
  · rfl

theorem time_sameWithout : SameWithout '.' (time true) (time false) := by
  have field := keeps_field (c := '.') (by decide) (by decide) 2
  refine field.sameWithout_bind fun _ => ?_
  refine (keeps_sign (by decide)).sameWithout_bind fun _ => field.sameWithout_bind fun _ => ?_
  refine (keeps_sign (by decide)).sameWithout_bind fun _ => field.sameWithout_bind fun _ => ?_
  intro s hs
  exact run_bind_of_some (run_fraction_of_no_point hs)

end Keeps

/-- Neither form of a timestamp without an offset has a fraction of a second. -/
theorem run_civil_ne {separate : Reader Unit} {s t u : List Char} {d : Date} (hpoint : '.' ∈ t)
    (hd : date.run s = some (d, u)) (hseparate : separate.run u = some ((), t)) (v : Timestamp) :
    (civil separate).run s ≠ some (v, []) := by
  intro h
  rw [civil, run_bind_of_some hd, run_bind_of_some hseparate] at h
  obtain ⟨clock, r, hclock, h⟩ := run_bind_eq_some.1 h
  cases h
  exact absurd ((keeps_time hclock).1 hpoint) List.not_mem_nil

/-- A date and a time, read apart, make up the timestamp of the two texts with a `T` between them, if
the time is one of whole seconds; a fraction of a second is read only before an offset. -/
theorem timestamp?_joined {d t : List Char} {day : Date} {clock : Time} (hd : date? d = some day)
    (ht : time? t = some clock) :
    timestamp? (d ++ 'T' :: t) = if '.' ∈ t then none else some ⟨day, clock⟩ := by
  have hdate : date.run (d ++ 'T' :: t) = some (day, 'T' :: t) := by
    refine extends_date ?_ (date?_eq_some.1 hd)
    rintro c ⟨⟩
    decide
  obtain ⟨withFraction, htime⟩ := exists_run_of_time? ht
  split
  · rename_i hpoint
    have hblanks : blanks.run ('T' :: t) = some ((), 'T' :: t) := by
      rw [run_blanks, skipBlank_of_head (by decide)]
    rw [timestamp?, Option.map_or, Option.map_or, Option.or_eq_none_iff, Option.or_eq_none_iff,
      whole_eq_none, whole_eq_none, whole_eq_none, run_internet hdate htime]
    exact ⟨fun _ => (Option.some_ne_none _).symm, run_civil_ne hpoint hdate (run_sign _ _),
      run_civil_ne (List.mem_cons_of_mem _ hpoint) hdate hblanks⟩
  · rename_i hpoint
    refine timestamp?_of_run hdate ?_
    cases withFraction with
    | false => exact htime
    | true => rw [← time_sameWithout hpoint, htime]

/-- Blanks, a sign, short fields and a leap second are read in the joined text as they are apart. -/
theorem timestamp?_joined_loose :
    date? " +02024- 1-5".toList = some ⟨2024, 1, 5, by decide⟩ ∧
      time? " 1:2: 60".toList = some ⟨1, 2, 60, 0, by decide⟩ ∧
      timestamp? (" +02024- 1-5".toList ++ 'T' :: " 1:2: 60".toList) =
        some ⟨⟨2024, 1, 5, by decide⟩, ⟨1, 2, 60, 0, by decide⟩⟩ :=
  ⟨rfl, rfl, timestamp?_joined rfl rfl⟩

/-- A half second is read in a time, and with an offset in a timestamp, but not without one. -/
theorem half_second_refused :
    ¬ (∀ (d t : List Char) (day : Date) (clock : Time), date? d = some day → time? t = some clock →
        timestamp? (d ++ 'T' :: t) = some ⟨day, clock⟩) ∧
      date? "2024-01-05".toList = some ⟨2024, 1, 5, by decide⟩ ∧
      time? "10:20:30.5".toList = some ⟨10, 20, 30, 500000000, by decide⟩ ∧
      timestamp? "2024-01-05T10:20:30.5Z".toList =
        some ⟨⟨2024, 1, 5, by decide⟩, ⟨10, 20, 30, 500000000, by decide⟩⟩ ∧
      timestamp? "2024-01-05T10:20:30.5".toList = none := by
  have hnone : timestamp? "2024-01-05T10:20:30.5".toList = none := rfl
  refine ⟨fun h => ?_, rfl, rfl, rfl, hnone⟩
  have hsome := h "2024-01-05".toList "10:20:30.5".toList _ _ rfl rfl
  cases hnone.symm.trans hsome

end Fixture.Calendar
