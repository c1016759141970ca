import Fixture.Calendar.Reading
import Fixture.Proofs.NumberTexts

/-! The texts of dates, times and timestamps read back. Each field of a text is as wide as its reader
takes digits, so what follows a field is left as it is; the years of more than four digits have a
sign, and then a reader takes all the digits there are. -/
namespace Fixture.Calendar
open Text

section Digits
variable {ds r : List Char} {width n : Nat}

/-- The text does not begin with a digit. -/
def NoDigitFirst (r : List Char) : Prop := ∀ c, r.head? = some c → c.isDigit = false

theorem takeWhile_isDigit_take (h : NoDigitFirst r) (k : Nat) :
    (r.take k).takeWhile Char.isDigit = [] := by
  cases r with
  | nil => simp
  | cons c r =>
    cases k with
    | zero => rfl
    | succ k => simp [h c rfl]

theorem digits_append (most : Nat) (hds : ∀ c ∈ ds, c.isDigit = true) (hne : ds ≠ [])
    (hl : ds.length ≤ most) (hr : ds.length = most ∨ NoDigitFirst r) :
    (digits most).run (ds ++ r) = some (ds, r) := by
  have hrest : (r.take (most - ds.length)).takeWhile Char.isDigit = [] := by
    rcases hr with rfl | hr
    · simp
    · exact takeWhile_isDigit_take hr _
  have htaken : ((ds ++ r).take most).takeWhile Char.isDigit = ds := by
    rw [List.take_append, List.take_of_length_le hl, List.takeWhile_append_of_pos hds, hrest,
      List.append_nil]
  show digits most (ds ++ r) = _
  simp [digits, htaken, hne]

theorem head?_dropWhile_isDigit {s : List Char} {c : Char}
    (h : (s.dropWhile Char.isDigit).head? = some c) : c.isDigit = false := by
  have hnot := List.head?_dropWhile_not Char.isDigit s
  rw [h] at hnot
  exact hnot

/-- What a run of digits is, and how it ends: the width is filled, or no digit follows. -/
theorem digits_eq_some {most : Nat} {s : List Char} : (digits most).run s = some (ds, r) ↔
    s = ds ++ r ∧ (∀ c ∈ ds, c.isDigit = true) ∧ ds ≠ [] ∧ ds.length ≤ most ∧
      (ds.length = most ∨ NoDigitFirst r) := by
  refine ⟨fun h => ?_, fun ⟨hs, hds, hne, hl, hr⟩ => hs ▸ digits_append most hds hne hl hr⟩
  have hrun : (digits most).run s = if (s.take most).takeWhile Char.isDigit = [] then none else
    some ((s.take most).takeWhile Char.isDigit,
      s.drop ((s.take most).takeWhile Char.isDigit).length) := rfl
  have htake := List.takeWhile_append_dropWhile (p := Char.isDigit) (l := s.take most)
  have hdigit : ∀ c ∈ (s.take most).takeWhile Char.isDigit, c.isDigit = true :=
    List.all_eq_true.1 List.all_takeWhile
  have hhead := fun c => head?_dropWhile_isDigit (s := s.take most) (c := c)
  rw [hrun] at h
  generalize (s.take most).takeWhile Char.isDigit = run at h htake hdigit
  generalize (s.take most).dropWhile Char.isDigit = rest at htake hhead
  split at h
  · cases h
  rename_i hne
  obtain ⟨rfl, rfl⟩ := Prod.mk.inj (Option.some.inj h)
  have hs : run ++ (rest ++ s.drop most) = s := by
    rw [← List.append_assoc, htake, List.take_append_drop]
  have hrest := @List.drop_left _ run (rest ++ s.drop most)
  rw [hs] at hrest
  have hl := congrArg List.length htake
  rw [List.length_append, List.length_take] at hl
  refine ⟨by rw [hrest, hs], hdigit, hne, by omega, ?_⟩
  cases rest with
  | nil =>
    by_cases hfull : run.length = most
    · exact .inl hfull
    · have hend : s.drop most = [] := List.drop_eq_nil_of_le (by
        rw [List.length_nil] at hl
        omega)
      rw [hrest, hend]
      exact .inr nofun
  | cons c rest =>
    rw [hrest]
    exact .inr fun c' hc' => hhead c' hc'

theorem digits_padded (hw : 0 < width) (hn : n < 10 ^ width) (r : List Char) :
    (digits width).run (padded width n ++ r) = some (padded width n, r) :=
  digits_append _ (fun _ => isDigit_of_mem_padded) padded_ne_nil (Nat.le_of_eq (length_padded hw hn))
    (.inl (length_padded hw hn))

theorem exists_cons_of_digits {most : Nat} {s : List Char}
    (h : (digits most).run s = some (ds, r)) : ∃ c s', s = c :: s' ∧ c.isDigit = true := by
  obtain ⟨rfl, hds, hne, -⟩ := digits_eq_some.1 h
  obtain ⟨c, ds, rfl⟩ := List.exists_cons_of_ne_nil hne
  exact ⟨c, ds ++ r, rfl, hds c List.mem_cons_self⟩

end Digits

@[simp] theorem run_sign (c : Char) (s : List Char) : (sign c).run (c :: s) = some ((), s) :=
  if_pos rfl

@[simp] theorem run_finish : finish.run [] = some ((), []) := rfl

@[simp] theorem run_finish_cons (c : Char) (s : List Char) : finish.run (c :: s) = none := rfl

@[simp] theorem run_blanks (s : List Char) : blanks.run s = some ((), skipBlank s) := rfl

section Fields
variable {s ds r : List Char}

theorem run_field_of_digits {most : Nat} (h : (digits most).run s = some (ds, r)) :
    (field most).run s = some (digitsValue ds, r) := by
  obtain ⟨c, s, rfl, hc⟩ := exists_cons_of_digits h
  simp [field, skipBlank_of_head (NumberChar.not_blank (.inl hc)), h]

theorem run_field (width n : Nat) (hw : 0 < width) (hn : n < 10 ^ width) (r : List Char) :
    (field width).run (padded width n ++ r) = some (n, r) := by
  rw [run_field_of_digits (digits_padded hw hn r), digitsValue_padded]

theorem run_year_of_digits (h : (digits 4).run s = some (ds, r)) :
    year.run s = some ((digitsValue ds : Int), r) := by
  obtain ⟨c, s, rfl, hc⟩ := exists_cons_of_digits h
  have hskip := skipBlank_of_head (NumberChar.not_blank (.inl hc)) s
  simp only [year, StateT.run_bind, run_blanks, hskip, StateT.run_get, Option.pure_def,
    Option.bind_eq_bind, Option.bind_some]
  split
  · rename_i heq
    cases heq
    cases hc
  · rename_i heq
    cases heq
    cases hc
  · simp [h]

theorem run_year (y : Int) (hr : NoDigitFirst r) :
    year.run (Date.yearText y ++ r) = some (y, r) := by
  unfold Date.yearText
  split
  · rename_i hy
    have hn : y.toNat < 10 ^ 4 := by omega
    have hvalue : (y.toNat : Int) = y := by omega
    rw [run_year_of_digits (digits_padded (by decide) hn r), digitsValue_padded, hvalue]
  · rename_i hy
    have hskip {c : Char} (hc : c = '-' ∨ c = '+') (s : List Char) :
        skipBlank (c :: s) = c :: s := by
      rcases hc with rfl | rfl <;> exact skipBlank_of_head (by decide) s
    have hdigits : (digits (padded 4 y.natAbs ++ r).length).run (padded 4 y.natAbs ++ r) =
        some (padded 4 y.natAbs, r) := by
      rw [List.length_append]
      exact digits_append _ (fun _ => isDigit_of_mem_padded) padded_ne_nil (Nat.le_add_right _ _)
        (.inr hr)
    split
    · simp only [year, List.cons_append, StateT.run_bind, run_blanks, hskip (.inl rfl),
        StateT.run_get, StateT.run_set, StateT.run_pure, Option.pure_def, Option.bind_eq_bind,
        Option.bind_some, hdigits, digitsValue_padded, Option.some.injEq, Prod.mk.injEq, and_true]
      omega
    · simp only [year, List.cons_append, StateT.run_bind, run_blanks, hskip (.inr rfl),
        StateT.run_get, StateT.run_set, StateT.run_pure, Option.pure_def, Option.bind_eq_bind,
        Option.bind_some, hdigits, digitsValue_padded, Option.some.injEq, Prod.mk.injEq, and_true]
      omega

end Fields

theorem run_date (d : Date) (r : List Char) : date.run (d.text ++ r) = some (d, r) := by
  obtain ⟨-, ⟨-, hm⟩, -, -⟩ := d.valid
  have hday : d.day < 10 ^ 2 := Nat.lt_of_le_of_lt d.day_le (by decide)
  have hy := run_year d.year (r := '-' :: (padded 2 d.month ++ '-' :: (padded 2 d.day ++ r))) (by
    rintro c ⟨⟩
    decide)
  have hmonth := run_field 2 d.month (by decide) (by omega) ('-' :: (padded 2 d.day ++ r))
  have hday := run_field 2 d.day (by decide) hday r
  simp [date, Date.text, hy, hmonth, hday, Date.of?_self]

theorem run_fraction (t : Time) : fraction.run t.fractionText = some (t.nanosecond, []) := by
  have digits {width n : Nat} (hw : 0 < width) (h9 : width ≤ 9) (hn : n < 10 ^ width) :
      fraction.run ('.' :: padded width n) = some (n * 10 ^ (9 - width), []) := by
    have hl := length_padded hw hn
    have hdigits := digits_append (padded width n).length (r := [])
      (fun _ => isDigit_of_mem_padded) padded_ne_nil (Nat.le_refl _) (.inl rfl)
    rw [List.append_nil] at hdigits
    have hvalue : nanoseconds (padded width n) = n * 10 ^ (9 - width) := by
      have htake := List.take_of_length_le (Nat.le_trans (Nat.le_of_eq hl) h9)
      simp [nanoseconds, htake, hl]
    simp [fraction, hdigits, hvalue]
  obtain ⟨-, -, -, hn⟩ := t.valid
  unfold Time.fractionText
  split
  · rename_i h
    rw [h]
    rfl
  · split
    · rw [digits (by decide) (by decide) (by omega)]
      congr 2
      omega
    · split
      · rw [digits (by decide) (by decide) (by omega)]
        congr 2
        omega
      · rw [digits (by decide) (by decide) (by omega)]
        congr 2
        omega

/-- The time to the second, as its text begins. -/
def clockText (t : Time) : List Char :=
  padded 2 t.hour ++ ':' :: padded 2 t.minute ++ ':' :: padded 2 t.second

theorem run_time (withFraction : Bool) (t : Time) (r : List Char) :
    (time withFraction).run (clockText t ++ r) =
      (do
        let n ← if withFraction then fraction else pure 0
        Time.of? t.hour t.minute t.second n : Reader Time).run r := by
  obtain ⟨hh, hm, hs, -⟩ := t.valid
  have hhour := run_field 2 t.hour (by decide) (by omega)
    (':' :: (padded 2 t.minute ++ ':' :: (padded 2 t.second ++ r)))
  have hminute := run_field 2 t.minute (by decide) (by omega) (':' :: (padded 2 t.second ++ r))
  have hsecond := run_field 2 t.second (by decide) (by omega) r
  simp [time, clockText, hhour, hminute, hsecond]

theorem date?_text (d : Date) : date? d.text = some d := by
  have h := run_date d []
  rw [List.append_nil] at h
  simp [date?, h]

theorem run_clock (t : Time) (r : List Char) :
    (time false).run (clockText t ++ r) =
      (Time.of? t.hour t.minute t.second 0).map fun u => (u, r) := by
  rw [run_time]
  cases h : Time.of? t.hour t.minute t.second 0 <;> simp [h]

theorem time?_text (t : Time) : time? t.text = some t := by
  have hself := t.of?_self
  have htext : t.text = clockText t ++ t.fractionText := rfl
  have hclock := run_clock t t.fractionText
  have hfull := run_time true t t.fractionText
  rw [htext, time?]
  by_cases hn : t.nanosecond = 0
  · rw [hn] at hself
    have hfraction : t.fractionText = [] := if_pos hn
    rw [hself, hfraction, List.append_nil] at hclock
    simp [hfraction, hclock]
  · have hpoint : ∃ s, t.fractionText = '.' :: s := by
      unfold Time.fractionText
      rw [if_neg hn]
      split
      · exact ⟨_, rfl⟩
      · split <;> exact ⟨_, rfl⟩
    obtain ⟨s, hs⟩ := hpoint
    have hshort : (time false <* finish).run (clockText t ++ t.fractionText) = none := by
      rw [hs] at hclock ⊢
      cases h : Time.of? t.hour t.minute t.second 0 <;> simp [hclock, h]
    simp [hshort, hfull, run_fraction, hself]

section Sequence
variable {α β γ : Type} {x : Reader α} {f : α → Reader β} {s r : List Char} {a : α}

theorem run_bind_of_some (h : x.run s = some (a, r)) : (x >>= f).run s = (f a).run r := by
  rw [StateT.run_bind, h]
  rfl

theorem run_bind_of_none (h : x.run s = none) : (x >>= f).run s = none := by
  rw [StateT.run_bind, h]
  rfl

theorem run_bind_eq_some {b : β} : (x >>= f).run s = some (b, r) ↔
    ∃ a s', x.run s = some (a, s') ∧ (f a).run s' = some (b, r) := by
  rw [StateT.run_bind]
  exact Option.bind_eq_some_iff.trans ⟨fun ⟨p, h⟩ => ⟨p.1, p.2, h⟩, fun ⟨a, s', h⟩ => ⟨(a, s'), h⟩⟩

theorem run_lift_eq_some {o : Option α} :
    (liftM o : Reader α).run s = some (a, r) ↔ o = some a ∧ r = s := by
  cases o <;> simp [eq_comm]

/-- The two readers leave the same of a text which both read. -/
def SameRest (x : Reader α) (y : Reader β) : Prop :=
  ∀ ⦃s a b r r'⦄, x.run s = some (a, r) → y.run s = some (b, r') → r = r'

/-- The first reader refuses what the second reads to the end. -/
def Refuses (x : Reader α) (y : Reader β) : Prop :=
  ∀ ⦃s b⦄, y.run s = some (b, []) → x.run s = none

theorem SameRest.refl (x : Reader α) : SameRest x x := by
  intro s a b r r' hx hy
  cases hx.symm.trans hy
  rfl

theorem SameRest.refuses_bind {y : Reader γ} {δ : Type} {g : γ → Reader δ} (h : SameRest x y)
    (hfg : ∀ a c, Refuses (f a) (g c)) : Refuses (x >>= f) (y >>= g) := by
  intro s b hy
  obtain ⟨c, s', hc, hb⟩ := run_bind_eq_some.1 hy
  cases hx : x.run s with
  | none => exact run_bind_of_none hx
  | some p =>
    obtain ⟨a, r⟩ := p
    rw [run_bind_of_some hx, h hx hc]
    exact hfg a c hb

theorem Refuses.lift_bind {o : Option α} {y : Reader γ} (h : ∀ a, Refuses y (f a)) :
    Refuses y (liftM o >>= f) := by
  intro s b hy
  obtain ⟨a, s', hs, hb⟩ := run_bind_eq_some.1 hy
  obtain ⟨-, rfl⟩ := run_lift_eq_some.1 hs
  exact h a hb

end Sequence

section Internet

theorem fixed_eq_some {count n : Nat} {s r : List Char} (h : (fixed count).run s = some (n, r)) :
    ∃ ds, (digits count).run s = some (ds, r) := by
  obtain ⟨ds, s', hds, h⟩ := run_bind_eq_some.1 h
  split at h
  · cases h
    exact ⟨ds, hds⟩
  · cases h

theorem sameRest_fixed_field (count : Nat) : SameRest (fixed count) (field count) := by
  intro s a b r r' hx hy
  obtain ⟨ds, hds⟩ := fixed_eq_some hx
  cases (run_field_of_digits hds).symm.trans hy
  rfl

theorem sameRest_fixed_year : SameRest (fixed 4) year := by
  intro s a b r r' hx hy
  obtain ⟨ds, hds⟩ := fixed_eq_some hx
  cases (run_year_of_digits hds).symm.trans hy
  rfl

theorem sameRest_separator : SameRest separator (sign 'T') := by
  intro s a b r r' hx hy
  cases s with
  | nil => cases hy
  | cons c s =>
    by_cases hc : c = 'T'
    · subst hc
      cases hx
      cases hy
      rfl
    · exact absurd hy (by simp [sign, StateT.run, hc])

/-- A time read to the end ends with its seconds or with a fraction of them. -/
theorem exists_fraction {withFraction : Bool} {s : List Char} {k : Nat → Option Time} {t : Time}
    (h : (do
      let n ← if withFraction then fraction else pure 0
      liftM (k n) : Reader Time).run s = some (t, [])) : ∃ n, fraction.run s = some (n, []) := by
  cases withFraction with
  | false =>
    obtain ⟨-, rfl⟩ := run_lift_eq_some.1 h
    exact ⟨0, rfl⟩
  | true =>
    obtain ⟨n, s', hn, hk⟩ := run_bind_eq_some.1 h
    obtain ⟨-, rfl⟩ := run_lift_eq_some.1 hk
    exact ⟨n, hn⟩

/-- The internet form has an offset after the time, and a text of a time ends before one. -/
theorem internet_refuses (withFraction : Bool) :
    Refuses internet (date >>= fun _ => sign 'T' >>= fun _ => time withFraction) := by
  have skip (c : Char) : SameRest (sign c) (sign c) := .refl _
  -- field by field both leave the same, until the time is over and an offset is asked for
  simp only [date, time, bind_assoc]
  refine sameRest_fixed_year.refuses_bind fun _ _ => ?_
  refine (skip _).refuses_bind fun _ _ => ?_
  refine (sameRest_fixed_field 2).refuses_bind fun _ _ => ?_
  refine (skip _).refuses_bind fun _ _ => ?_
  refine (sameRest_fixed_field 2).refuses_bind fun _ _ => ?_
  refine Refuses.lift_bind fun _ => ?_
  refine sameRest_separator.refuses_bind fun _ _ => ?_
  refine (sameRest_fixed_field 2).refuses_bind fun _ _ => ?_
  refine (skip _).refuses_bind fun _ _ => ?_
  refine (sameRest_fixed_field 2).refuses_bind fun _ _ => ?_
  refine (skip _).refuses_bind fun _ _ => ?_
  refine (sameRest_fixed_field 2).refuses_bind fun _ _ => ?_
  intro s t ht
  obtain ⟨n, hn⟩ := exists_fraction ht
  rw [run_bind_of_some hn]
  exact run_bind_of_none rfl

theorem run_internet {withFraction : Bool} {s u : List Char} {d : Date} {t : Time}
    (hd : date.run s = some (d, 'T' :: u)) (ht : (time withFraction).run u = some (t, [])) :
    internet.run s = none := by
  refine internet_refuses withFraction (b := t) ?_
  rw [run_bind_of_some hd, run_bind_of_some (run_sign _ _), ht]

end Internet

theorem timestamp?_of_run {s u : List Char} {d : Date} {t : Time}
    (hd : date.run s = some (d, 'T' :: u)) (ht : (time false).run u = some (t, [])) :
    timestamp? s = some ⟨d, t⟩ := by
  simp [timestamp?, run_internet hd ht, civil, hd, ht]

theorem timestamp?_text (d : Date) (t : Time) (ht : t.nanosecond = 0) :
    timestamp? (d.text ++ 'T' :: t.text) = some ⟨d, t⟩ := by
  have htext : t.text = clockText t := by
    have hfraction : t.fractionText = [] := if_pos ht
    rw [← List.append_nil (clockText t), ← hfraction]
    rfl
  have hself := t.of?_self
  rw [ht] at hself
  have hclock := run_clock t []
  rw [hself, List.append_nil] at hclock
  rw [htext]
  exact timestamp?_of_run (run_date d _) hclock

end Fixture.Calendar
