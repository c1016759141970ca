import Fixture.Directive
import Fixture.Proofs.NumberTexts
import Mathlib.Data.List.TakeWhile

/-! The grammar of directive texts, and that reading accepts exactly its texts. After `@` and a name
come no arguments or, in parentheses that end the text, a list of literals with commas between them
and blanks around them. -/
namespace Fixture

namespace Text

/-- Blanks only, or nothing. -/
def Blank (s : List Char) : Prop := ∀ c ∈ s, isBlank c = true

section Blank
variable {s before after : List Char}

theorem Blank.append (hb : Blank before) (ha : Blank after) : Blank (before ++ after) :=
  fun c hc => (List.mem_append.1 hc).elim (hb c) (ha c)

theorem blank_nil : Blank [] := nofun

theorem Blank.comma_notMem (h : Blank s) : ',' ∉ s := fun hm => absurd (h _ hm) (by decide)

theorem skipBlank_append (h : Blank before) (s : List Char) :
    skipBlank (before ++ s) = skipBlank s :=
  List.dropWhile_append_of_pos h

theorem skipBlank_eq_nil_iff : skipBlank s = [] ↔ Blank s := List.dropWhile_eq_nil_iff

theorem exists_skipBlank (s : List Char) : ∃ before, Blank before ∧ s = before ++ skipBlank s :=
  ⟨s.takeWhile isBlank, List.all_eq_true.1 List.all_takeWhile,
    List.takeWhile_append_dropWhile.symm⟩

theorem exists_trim (s : List Char) :
    ∃ before after, Blank before ∧ Blank after ∧ s = before ++ trim s ++ after := by
  obtain ⟨before, hb, hs⟩ := exists_skipBlank s
  obtain ⟨after, ha, hr⟩ := exists_skipBlank (skipBlank s).reverse
  refine ⟨before, after.reverse, hb, fun c hc => ha c (List.mem_reverse.1 hc), ?_⟩
  have hskip : skipBlank s = trim s ++ after.reverse := by
    rw [trim, ← List.reverse_append, ← hr, List.reverse_reverse]
  rw [List.append_assoc, ← hskip]
  exact hs

theorem trim_eq (hs : ∀ c ∈ s, isBlank c = false) (hne : s ≠ []) (hb : Blank before)
    (ha : Blank after) : trim (before ++ s ++ after) = s := by
  have skip {t r : List Char} (ht : ∀ c ∈ t, isBlank c = false) (hne : t ≠ []) :
      skipBlank (t ++ r) = t ++ r := by
    cases t with
    | nil => exact absurd rfl hne
    | cons c t => exact skipBlank_of_head (ht c List.mem_cons_self) (t ++ r)
  rw [trim, List.append_assoc, skipBlank_append hb, skip hs hne, List.reverse_append,
    skipBlank_append fun c hc => ha c (List.mem_reverse.1 hc)]
  have hrev : skipBlank (s.reverse ++ []) = s.reverse ++ [] :=
    skip (fun c hc => hs c (List.mem_reverse.1 hc)) (by simpa using hne)
  rw [List.append_nil] at hrev
  rw [hrev, List.reverse_reverse]

end Blank
end Text

/-- The token as an integer of the type. -/
def IntType.read? (t : IntType) (token : List Char) : Option Int :=
  (Text.integer? t.signed token).filter fun n => decide (t.Holds n)

namespace Call
open Text

/-- A letter or an underscore. -/
def NameStart (c : Char) : Prop := ('A' ≤ c ∧ c ≤ 'Z') ∨ ('a' ≤ c ∧ c ≤ 'z') ∨ c = '_'

/-- A letter or an underscore, then letters, digits and underscores. -/
def IsName : List Char → Prop
  | [] => False
  | c :: r => NameStart c ∧ ∀ d ∈ r, NameStart d ∨ ('0' ≤ d ∧ d ≤ '9')

/-- The character that a character after a backslash denotes. -/
inductive Escape : Char → Char → Prop
  | backslash : Escape '\\' '\\'
  | doubleQuote : Escape '"' '"'
  | singleQuote : Escape '\'' '\''
  | newline : Escape 'n' '\n'
  | tab : Escape 't' '\t'

/-- What stands between quotes, and the text that it denotes. -/
inductive Quoted (quote : Char) : List Char → List Char → Prop
  | nil : Quoted quote [] []
  | plain {c : Char} {s t : List Char} (hquote : c ≠ quote) (hslash : c ≠ '\\')
      (h : Quoted quote s t) : Quoted quote (c :: s) (c :: t)
  | escaped {e c : Char} {s t : List Char} (he : Escape e c) (h : Quoted quote s t) :
      Quoted quote ('\\' :: e :: s) (c :: t)

/-- A token without quotes, and the number that it denotes: an integer of 64 bits with a sign, or
else one without, or else a finite float. -/
inductive Number : List Char → Value → Prop
  | signed {s : List Char} {n : Int} (range : Value.intRange n)
      (h : IntType.int64.read? s = some n) : Number s (.int n range)
  | unsigned {s : List Char} {n : Int} (range : Value.intRange n)
      (hs : IntType.int64.read? s = none) (h : IntType.nat64.read? s = some n) :
      Number s (.int n range)
  | float {s : List Char} {x : Binary64.Finite} (hs : IntType.int64.read? s = none)
      (hu : IntType.nat64.read? s = none) (h : Binary64.read? s = some (.finite x)) :
      Number s (.float x)

inductive Literal : List Char → Value → Prop
  | quoted {quote : Char} {s t : List Char} (hquote : quote = '"' ∨ quote = '\'')
      (h : Quoted quote s t) : Literal (quote :: s ++ [quote]) (.text (String.ofList t))
  | number {s : List Char} {v : Value} (hcomma : ',' ∉ s) (h : Number s v) : Literal s v

/-- A literal with blanks around it. -/
inductive Item : List Char → Value → Prop
  | intro {before s after : List Char} {v : Value} (hb : Blank before) (ha : Blank after)
      (h : Literal s v) : Item (before ++ s ++ after) v

/-- Items with commas between them, at least one. -/
inductive Items : List Char → List Value → Prop
  | one {s : List Char} {v : Value} (h : Item s v) : Items s [v]
  | cons {s r : List Char} {v : Value} {vs : List Value} (h : Item s v) (hr : Items r vs) :
      Items (s ++ ',' :: r) (v :: vs)

/-- What stands between the parentheses. -/
inductive Body : List Char → List Value → Prop
  | blank {s : List Char} (h : Blank s) : Body s []
  | items {s : List Char} {vs : List Value} (h : Items s vs) : Body s vs

/-- A text of the grammar, and the call that it denotes. -/
inductive Written : List Char → Call → Prop
  | bare {name : List Char} (h : IsName name) : Written ('@' :: name) ⟨String.ofList name, []⟩
  | withBody {name body : List Char} {vs : List Value} (h : IsName name) (hb : Body body vs) :
      Written ('@' :: name ++ '(' :: body ++ [')']) ⟨String.ofList name, vs⟩

section Names
variable {c : Char} {s name body : List Char}

theorem isAlpha_iff : c.isAlpha = true ↔ ('A' ≤ c ∧ c ≤ 'Z') ∨ ('a' ≤ c ∧ c ≤ 'z') := by
  have hupper : c.isUpper = decide ('A' ≤ c ∧ c ≤ 'Z') := rfl
  have hlower : c.isLower = (decide ('a' ≤ c) && decide (c ≤ 'z')) := rfl
  have halpha : c.isAlpha = (c.isUpper || c.isLower) := rfl
  rw [halpha, hupper, hlower]
  simp

theorem isNameStart_iff : isNameStart c = true ↔ NameStart c := by
  simp [isNameStart, NameStart, isAlpha_iff, or_assoc]

theorem isNameChar_iff : isNameChar c = true ↔ NameStart c ∨ ('0' ≤ c ∧ c ≤ '9') := by
  have hdigit : c.isDigit = (decide ('0' ≤ c) && decide (c ≤ '9')) := rfl
  have halphanum : c.isAlphanum = (c.isAlpha || c.isDigit) := rfl
  simp only [isNameChar, NameStart, halphanum, hdigit, Bool.or_eq_true, isAlpha_iff,
    Bool.and_eq_true, decide_eq_true_eq, beq_iff_eq]
  grind

theorem isName_cons_iff {r : List Char} :
    IsName (c :: r) ↔ isNameStart c = true ∧ ∀ d ∈ r, isNameChar d = true := by
  simp only [IsName, isNameStart_iff, isNameChar_iff]

theorem head?_at {c : Char} {r : List Char} (hc : isNameStart c = true) :
    head? ('@' :: c :: r) =
      match r.dropWhile isNameChar with
      | [] => some (c :: r.takeWhile isNameChar, none)
      | '(' :: body =>
        if body.getLast? = some ')' then some (c :: r.takeWhile isNameChar, some body.dropLast)
        else none
      | _ => none :=
  if_pos hc

theorem exists_of_head? {result : List Char × Option (List Char)} (h : head? s = some result) :
    ∃ c r, s = '@' :: c :: r ∧ isNameStart c = true := by
  unfold head? at h
  split at h
  · split at h
    · rename_i c r hc
      exact ⟨c, r, rfl, hc⟩
    · cases h
  · cases h

theorem isName_takeWhile {c : Char} {r : List Char} (hc : isNameStart c = true) :
    IsName (c :: r.takeWhile isNameChar) :=
  isName_cons_iff.2 ⟨hc, fun _ hd => List.mem_takeWhile_imp hd⟩

theorem takeWhile_eq_self {r : List Char} (h : r.dropWhile isNameChar = []) :
    r.takeWhile isNameChar = r := by
  have hr := List.takeWhile_append_dropWhile (p := isNameChar) (l := r)
  rwa [h, List.append_nil] at hr

theorem head?_eq_some_none : head? s = some (name, none) ↔ IsName name ∧ s = '@' :: name := by
  constructor
  · intro h
    obtain ⟨c, r, rfl, hc⟩ := exists_of_head? h
    rw [head?_at hc] at h
    split at h
    · rename_i hr
      cases h
      exact ⟨isName_takeWhile hc, by rw [takeWhile_eq_self hr]⟩
    · split at h <;> cases h
    · cases h
  · rintro ⟨hname, rfl⟩
    cases name with
    | nil => cases hname
    | cons c r =>
      obtain ⟨hc, hr⟩ := isName_cons_iff.1 hname
      have hrest : r.dropWhile isNameChar = [] := List.dropWhile_eq_nil_iff.2 hr
      rw [head?_at hc, hrest, takeWhile_eq_self hrest]

theorem head?_eq_some_body : head? s = some (name, some body) ↔
    IsName name ∧ s = '@' :: name ++ '(' :: body ++ [')'] := by
  constructor
  · intro h
    obtain ⟨c, r, rfl, hc⟩ := exists_of_head? h
    rw [head?_at hc] at h
    split at h
    · cases h
    · rename_i inside hr
      split at h
      · rename_i hlast
        obtain ⟨init, hinside⟩ := List.getLast?_eq_some_iff.1 hlast
        cases h
        have hsplit := List.takeWhile_append_dropWhile (p := isNameChar) (l := r)
        refine ⟨isName_takeWhile hc, ?_⟩
        rw [hr, hinside] at hsplit
        rw [hinside, List.dropLast_concat]
        simpa using hsplit.symm
      · cases h
    · cases h
  · rintro ⟨hname, rfl⟩
    cases name with
    | nil => cases hname
    | cons c r =>
      obtain ⟨hc, hr⟩ := isName_cons_iff.1 hname
      have htake : (r ++ '(' :: (body ++ [')'])).takeWhile isNameChar = r := by
        rw [List.takeWhile_append_of_pos hr]
        simp [isNameChar]
      have hdrop : (r ++ '(' :: (body ++ [')'])).dropWhile isNameChar = '(' :: (body ++ [')']) := by
        rw [List.dropWhile_append_of_pos hr]
        simp [isNameChar]
      simp only [List.cons_append, List.append_assoc]
      rw [head?_at hc, htake, hdrop]
      simp

end Names

theorem unescape?_eq_some {e c : Char} : unescape? e = some c ↔ Escape e c := by
  constructor
  · intro h
    unfold unescape? at h
    split at h
    · subst e
      cases h
      exact .newline
    · split at h
      · subst e
        cases h
        exact .tab
      · split at h
        · rename_i he
          cases h
          rcases he with rfl | rfl | rfl
          · exact .backslash
          · exact .doubleQuote
          · exact .singleQuote
        · cases h
  · rintro (_ | _ | _ | _ | _) <;> rfl

section Quotes
variable {quote : Char} {s t r : List Char}

/-- The text ends at its closing quote, whatever follows. -/
theorem quotedArg_of_quoted (hquote : quote ≠ '\\') (h : Quoted quote s t) (r : List Char) :
    quotedArg quote (s ++ quote :: r) = .ok (t, r) := by
  induction h with
  | nil =>
    rw [List.nil_append]
    unfold quotedArg
    rw [if_pos rfl]
  | plain hc hslash _ ih =>
    rw [List.cons_append]
    unfold quotedArg
    rw [if_neg hc, if_neg hslash, ih]
    rfl
  | escaped he _ ih =>
    rw [List.cons_append, List.cons_append]
    unfold quotedArg
    rw [if_neg hquote.symm, if_pos rfl]
    simp only [unescape?_eq_some.2 he, ih]
    rfl

theorem quoted_of_quotedArg (h : quotedArg quote s = .ok (t, r)) :
    ∃ u, Quoted quote u t ∧ s = u ++ quote :: r := by
  fun_induction quotedArg quote s generalizing t with
  | case1 => cases h
  | case2 rest =>
    cases h
    exact ⟨[], .nil, rfl⟩
  | case3 => cases h
  | case4 =>
    rename_i he _ ih
    obtain ⟨p, hp, hpair⟩ := Outcome.map_eq_ok.1 h
    cases hpair
    obtain ⟨u, hu, rfl⟩ := ih hp
    exact ⟨_, .escaped (unescape?_eq_some.1 he) hu, rfl⟩
  | case5 => cases h
  | case6 c rest hq hslash ih =>
    obtain ⟨p, hp, hpair⟩ := Outcome.map_eq_ok.1 h
    cases hpair
    obtain ⟨u, hu, rfl⟩ := ih hp
    exact ⟨_, .plain hq hslash hu, rfl⟩

end Quotes

section Numbers
variable {token : List Char} {v : Value}

theorem read?_eq_some {t : IntType} {n : Int} :
    t.read? token = some n ↔ Text.integer? t.signed token = some n ∧ t.Holds n := by
  simp [IntType.read?, Option.filter_eq_some_iff]

theorem read?_eq_none {t : IntType} :
    t.read? token = none ↔ ∀ n, Text.integer? t.signed token = some n → ¬ t.Holds n := by
  simp [IntType.read?, Option.filter_eq_none_iff]

theorem integer?_signed {n : Int} (h : Text.integer? false token = some n) :
    Text.integer? true token = some n := by
  unfold Text.integer? at h ⊢
  split at h
  · exact h
  · cases h
  · rename_i hplus hminus
    simpa [hplus, hminus] using h

theorem integer?_unsigned {n : Int} (h : Text.integer? true token = some n) (hn : 0 < n) :
    Text.integer? false token = some n := by
  unfold Text.integer? at h ⊢
  split at h
  · exact h
  · obtain ⟨m, -, hm⟩ := Option.map_eq_some_iff.1 h
    have hm : -(m : Int) = n := hm
    omega
  · rename_i hplus hminus
    simpa [hplus, hminus] using h

theorem intRange_iff {n : Int} :
    Value.intRange n ↔ IntType.int64.Holds n ∨ IntType.nat64.Holds n := by
  rw [IntType.holds_int64, IntType.holds_nat64, Value.intRange]
  omega

/-- A token is read as an unsigned integer after it was not read as a signed one. -/
theorem read?_nat64 {n : Int} (h : Text.integer? true token = some n)
    (hs : ¬ IntType.int64.Holds n) (range : Value.intRange n) :
    IntType.nat64.read? token = some n := by
  have hu : IntType.nat64.Holds n := (intRange_iff.1 range).resolve_left hs
  have hn : 0 < n := by
    rw [IntType.holds_int64] at hs
    rw [IntType.holds_nat64] at hu
    omega
  exact read?_eq_some.2 ⟨integer?_unsigned h hn, hu⟩

/-- No integer type of 64 bits has a token's integer if values do not have it. -/
theorem reads_eq_none_iff :
    (IntType.int64.read? token = none ∧ IntType.nat64.read? token = none) ↔
      ∀ n, Text.integer? true token = some n → ¬ Value.intRange n := by
  constructor
  · rintro ⟨hs, hu⟩ n hn range
    have hs' : ¬ IntType.int64.Holds n := read?_eq_none.1 hs n hn
    rw [read?_nat64 hn hs' range] at hu
    cases hu
  · intro h
    refine ⟨read?_eq_none.2 fun n hn hh => ?_, read?_eq_none.2 fun n hn hh => ?_⟩
    · exact h n hn (intRange_iff.2 (.inl hh))
    · exact h n (integer?_signed hn) (intRange_iff.2 (.inr hh))

theorem bind_ofBinary64?_eq_some {x : Option Binary64} :
    x.bind Value.ofBinary64? = some v ↔ ∃ y, x = some (.finite y) ∧ Value.float y = v := by
  cases x with
  | none => simp
  | some x => cases x <;> simp [Value.ofBinary64?, Binary64.finite?]

theorem number?_eq_some : number? token = some v ↔
    (∃ n range, Text.integer? true token = some n ∧ Value.int n range = v) ∨
      (∀ n, Text.integer? true token = some n → ¬ Value.intRange n) ∧
        ∃ x, Binary64.read? token = some (.finite x) ∧ Value.float x = v := by
  unfold number?
  cases Text.integer? true token with
  | none => simp [bind_ofBinary64?_eq_some]
  | some n =>
    by_cases range : Value.intRange n
    · simp [range]
    · simp [range, bind_ofBinary64?_eq_some]

theorem number?_eq_some_iff : number? token = some v ↔ Number token v := by
  rw [number?_eq_some, ← reads_eq_none_iff]
  constructor
  · rintro (⟨n, range, hn, rfl⟩ | ⟨⟨hs, hu⟩, x, hx, rfl⟩)
    · by_cases hs : IntType.int64.Holds n
      · exact .signed range (read?_eq_some.2 ⟨hn, hs⟩)
      · have hnone : IntType.int64.read? token = none := by
          refine read?_eq_none.2 fun m hm => ?_
          cases hn.symm.trans hm
          exact hs
        exact .unsigned range hnone (read?_nat64 hn hs range)
    · exact .float hs hu hx
  · rintro (⟨range, h⟩ | ⟨range, hs, h⟩ | ⟨hs, hu, h⟩)
    · exact .inl ⟨_, range, (read?_eq_some.1 h).1, rfl⟩
    · exact .inl ⟨_, range, integer?_signed (read?_eq_some.1 h).1, rfl⟩
    · exact .inr ⟨⟨hs, hu⟩, _, h, rfl⟩

theorem mem_of_number (h : Number token v) {c : Char} (hc : c ∈ token) : NumberChar c := by
  cases h with
  | signed _ h => exact numberChar_of_integer? (read?_eq_some.1 h).1 hc
  | unsigned _ _ h => exact numberChar_of_integer? (read?_eq_some.1 h).1 hc
  | float _ _ h => exact Binary64.mem_of_read? h hc

theorem number_ne_nil (h : Number token v) : token ≠ [] := by
  cases h with
  | signed _ h => exact integer?_ne_nil (read?_eq_some.1 h).1
  | unsigned _ _ h => exact integer?_ne_nil (read?_eq_some.1 h).1
  | float _ _ h => exact Binary64.read?_ne_nil h

end Numbers

section Arguments
variable {s t r rest : List Char} {v : Value} {vs : List Value} {k : Nat}

theorem numberArg_eq_ok {token : List Char} : numberArg token = .ok v ↔ Number token v := by
  rw [← number?_eq_some_iff]
  unfold numberArg
  split
  · rename_i h
    subst h
    exact ⟨nofun, nofun⟩
  · cases number? token <;> simp

/-- What the first argument leaves is what follows its literal, and blanks may still be added to the
argument on both sides. -/
theorem item_of_firstArg (h : firstArg s = .ok (v, r)) :
    ∃ t, s = t ++ r ∧ ∀ before after, Blank before → Blank after →
      Item (before ++ t ++ after) v := by
  cases s with
  | nil => cases h
  | cons c s =>
    rw [firstArg] at h
    split at h
    · rename_i hc
      obtain ⟨⟨t, r'⟩, hp, he⟩ := Outcome.map_eq_ok.1 h
      cases he
      obtain ⟨u, hu, rfl⟩ := quoted_of_quotedArg hp
      refine ⟨c :: u ++ [c], by simp, fun before after hb ha => ?_⟩
      exact .intro hb ha (.quoted hc hu)
    · obtain ⟨n, hn, he⟩ := Outcome.map_eq_ok.1 h
      cases he
      refine ⟨_, List.takeWhile_append_dropWhile.symm, fun before after hb ha => ?_⟩
      have hcomma : ',' ∉ (c :: s).takeWhile (· != ',') := by
        intro hm
        have := List.mem_takeWhile_imp hm
        simp at this
      have hnumber := numberArg_eq_ok.1 hn
      generalize (c :: s).takeWhile (· != ',') = token at hcomma hnumber
      obtain ⟨b, a, hb', ha', htoken⟩ := exists_trim token
      have hliteral : Literal (trim token) v := by
        refine .number (fun hm => hcomma ?_) hnumber
        rw [htoken]
        simp [hm]
      have hitem := Item.intro (hb.append hb') (ha'.append ha) hliteral
      rw [htoken]
      simpa using hitem

theorem split_at_comma (ht : ',' ∉ t) (hr : r = [] ∨ r.head? = some ',') :
    (t ++ r).takeWhile (· != ',') = t ∧ (t ++ r).dropWhile (· != ',') = r := by
  have hall : ∀ c ∈ t, (c != ',') = true := fun c hc => by
    simpa using fun h : c = ',' => ht (h ▸ hc)
  rw [List.takeWhile_append_of_pos hall, List.dropWhile_append_of_pos hall]
  rcases hr with rfl | hr
  · simp
  · cases r with
    | nil => cases hr
    | cons c r =>
      cases hr
      simp

/-- An argument at the end or before a comma is read off, but for the blanks after a quote. -/
theorem firstArg_of_item (h : Item s v) (hr : r = [] ∨ r.head? = some ',') :
    ∃ after, Blank after ∧ firstArg (skipBlank (s ++ r)) = .ok (v, after ++ r) := by
  cases h with
  | intro hb ha h =>
    rename_i before s after
    cases h with
    | quoted hquote h =>
      rename_i quote s t
      have hblank : isBlank quote = false := by rcases hquote with rfl | rfl <;> decide
      have hslash : quote ≠ '\\' := by rcases hquote with rfl | rfl <;> decide
      have hskip : skipBlank (before ++ (quote :: s ++ [quote]) ++ after ++ r) =
          quote :: (s ++ quote :: (after ++ r)) := by
        rw [List.append_assoc, List.append_assoc, skipBlank_append hb]
        simp [skipBlank_of_head hblank]
      refine ⟨after, ha, ?_⟩
      rw [hskip, firstArg, if_pos hquote, quotedArg_of_quoted hslash h]
      rfl
    | number hcomma h =>
      have hchars : ∀ c ∈ s, isBlank c = false := fun c hc => (mem_of_number h hc).not_blank
      have htrim : trim ([] ++ s ++ after) = s := trim_eq hchars (number_ne_nil h) blank_nil ha
      obtain ⟨htake, hdrop⟩ := split_at_comma (t := s ++ after)
        (fun hm => (List.mem_append.1 hm).elim hcomma ha.comma_notMem) hr
      refine ⟨[], blank_nil, ?_⟩
      rw [List.append_assoc, List.append_assoc, skipBlank_append hb, ← List.append_assoc]
      cases s with
      | nil => exact absurd rfl (number_ne_nil h)
      | cons c s =>
        have hc := mem_of_number h List.mem_cons_self
        have hquote : ¬ (c = '"' ∨ c = '\'') := by
          rintro (rfl | rfl)
          · exact hc.ne (by decide) rfl
          · exact hc.ne (by decide) rfl
        have hskip : skipBlank (c :: s ++ after ++ r) = c :: (s ++ after ++ r) :=
          skipBlank_of_head hc.not_blank _
        rw [List.cons_append, List.cons_append] at htake hdrop
        rw [hskip, firstArg, if_neg hquote, htake, hdrop]
        rw [List.nil_append] at htrim
        rw [← List.cons_append, htrim, numberArg_eq_ok.2 h]
        rfl

theorem argsAfter_eq_ok : argsAfter k s = .ok vs ↔
    ∃ v r, firstArg (skipBlank s) = .ok (v, r) ∧ (skipBlank r = [] ∧ vs = [v] ∨
      ∃ rest ws, skipBlank r = ',' :: rest ∧ argsAfter (k + 1) rest = .ok ws ∧ vs = v :: ws) := by
  rw [argsAfter]
  split
  · rename_i p hp
    simp [hp]
  · rename_i v r hv
    simp only [hv, Except.ok.injEq, Prod.mk.injEq]
    split
    · rename_i hr
      constructor
      · intro h
        cases h
        exact ⟨v, r, ⟨rfl, rfl⟩, .inl ⟨hr, rfl⟩⟩
      · rintro ⟨_, _, ⟨rfl, rfl⟩, ⟨-, rfl⟩ | ⟨_, _, hr', -⟩⟩
        · rfl
        · rw [hr] at hr'
          cases hr'
    · rename_i c rest hr
      by_cases hc : c = ','
      · subst hc
        rw [if_pos rfl, Outcome.map_eq_ok]
        constructor
        · rintro ⟨ws, hws, rfl⟩
          exact ⟨v, r, ⟨rfl, rfl⟩, .inr ⟨rest, ws, hr, hws, rfl⟩⟩
        · rintro ⟨_, _, ⟨rfl, rfl⟩, ⟨hr', -⟩ | ⟨_, ws, hr', hws, rfl⟩⟩
          · rw [hr] at hr'
            cases hr'
          · rw [hr] at hr'
            cases hr'
            exact ⟨ws, hws, rfl⟩
      · rw [if_neg hc]
        constructor
        · intro h
          cases h
        · rintro ⟨_, _, ⟨rfl, rfl⟩, ⟨hr', -⟩ | ⟨_, _, hr', -⟩⟩
          · rw [hr] at hr'
            cases hr'
          · rw [hr] at hr'
            cases hr'
            exact absurd rfl hc

theorem items_of_argsAfter (h : argsAfter k s = .ok vs) : Items s vs := by
  induction vs generalizing k s with
  | nil =>
    obtain ⟨v, r, -, ⟨-, hvs⟩ | ⟨_, _, -, -, hvs⟩⟩ := argsAfter_eq_ok.1 h
    · cases hvs
    · cases hvs
  | cons w ws ih =>
    obtain ⟨v, r, hv, hrest⟩ := argsAfter_eq_ok.1 h
    obtain ⟨before, hb, hs⟩ := exists_skipBlank s
    obtain ⟨after, ha, hr⟩ := exists_skipBlank r
    obtain ⟨t, ht, hitem⟩ := item_of_firstArg hv
    have hs : s = before ++ t ++ after ++ skipBlank r := by
      rw [List.append_assoc, ← hr, List.append_assoc, ← ht]
      exact hs
    rcases hrest with ⟨hr, hvs⟩ | ⟨rest, ws', hr, hws, hvs⟩
    · cases hvs
      rw [hs, hr, List.append_nil]
      exact .one (hitem _ _ hb ha)
    · cases hvs
      rw [hs, hr]
      exact .cons (hitem _ _ hb ha) (ih hws)

theorem argsAfter_of_items (h : Items s vs) (k : Nat) : argsAfter k s = .ok vs := by
  induction h generalizing k with
  | one h =>
    obtain ⟨after, ha, hv⟩ := firstArg_of_item h (.inl rfl)
    rw [List.append_nil, List.append_nil] at hv
    exact argsAfter_eq_ok.2 ⟨_, _, hv, .inl ⟨skipBlank_eq_nil_iff.2 ha, rfl⟩⟩
  | cons h _ ih =>
    rename_i s r v vs _
    obtain ⟨after, ha, hv⟩ := firstArg_of_item (r := ',' :: r) h (.inr rfl)
    have hcomma : skipBlank (after ++ ',' :: r) = ',' :: r := by
      rw [skipBlank_append ha, skipBlank_of_head (by decide)]
    exact argsAfter_eq_ok.2 ⟨_, _, hv, .inr ⟨_, _, hcomma, ih (k + 1), rfl⟩⟩

theorem item_not_blank (h : Item s v) : ¬ Blank s := by
  cases h with
  | intro _ _ h =>
    intro hs
    cases h with
    | quoted hquote _ =>
      rename_i quote _ _ _
      have : isBlank quote = true := hs quote (by simp)
      rcases hquote with rfl | rfl <;> revert this <;> decide
    | number _ h =>
      obtain ⟨c, hc⟩ := List.exists_mem_of_ne_nil _ (number_ne_nil h)
      have : isBlank c = true := hs c (by simp [hc])
      rw [(mem_of_number h hc).not_blank] at this
      cases this

theorem items_not_blank (h : Items s vs) : ¬ Blank s := by
  cases h with
  | one h => exact item_not_blank h
  | cons h _ => exact fun hs => item_not_blank h fun c hc => hs c (List.mem_append_left _ hc)

theorem readArgs_eq_ok : readArgs s = .ok vs ↔ Body s vs := by
  unfold readArgs
  split
  · rename_i hs
    rw [skipBlank_eq_nil_iff] at hs
    constructor
    · intro h
      cases h
      exact .blank hs
    · rintro (_ | h)
      · rfl
      · exact absurd hs (items_not_blank h)
  · rename_i hs
    rw [skipBlank_eq_nil_iff] at hs
    constructor
    · exact fun h => .items (items_of_argsAfter h)
    · rintro (h | h)
      · exact absurd h hs
      · exact argsAfter_of_items h 0

end Arguments

theorem parse_eq_ok {s : List Char} {c : Call} : parse s = .ok c ↔ Written s c := by
  unfold parse
  split
  · rename_i hhead
    refine ⟨nofun, ?_⟩
    rintro (h | ⟨h, hb⟩)
    · rw [head?_eq_some_none.2 ⟨h, rfl⟩] at hhead
      cases hhead
    · rw [head?_eq_some_body.2 ⟨h, rfl⟩] at hhead
      cases hhead
  · rename_i name hhead
    constructor
    · intro h
      cases h
      obtain ⟨hname, rfl⟩ := head?_eq_some_none.1 hhead
      exact .bare hname
    · rintro (h | ⟨h, hb⟩)
      · rw [head?_eq_some_none.2 ⟨h, rfl⟩] at hhead
        cases hhead
        rfl
      · rw [head?_eq_some_body.2 ⟨h, rfl⟩] at hhead
        cases hhead
  · rename_i name body hhead
    rw [Outcome.map_eq_ok]
    constructor
    · rintro ⟨vs, hvs, rfl⟩
      obtain ⟨hname, rfl⟩ := head?_eq_some_body.1 hhead
      exact .withBody hname (readArgs_eq_ok.1 hvs)
    · rintro (h | ⟨h, hb⟩)
      · rw [head?_eq_some_none.2 ⟨h, rfl⟩] at hhead
        cases hhead
      · rw [head?_eq_some_body.2 ⟨h, rfl⟩] at hhead
        cases hhead
        exact ⟨_, readArgs_eq_ok.2 hb, rfl⟩

/-- Reading accepts the texts of the grammar and no others: a text is read as the call that it
denotes, and every text that denotes none is a fault of directive syntax, which names the text. -/
theorem ofText_accepts_grammar (s : String) :
    (∀ c, ofText s = .ok c ↔ Written s.toList c) ∧
      ((¬ ∃ c, Written s.toList c) → ∃ p, ofText s = .error (.malformed s (.directive p))) := by
  constructor
  · intro c
    rw [ofText, Outcome.mapError_eq_ok, parse_eq_ok]
  · intro hnone
    cases h : parse s.toList with
    | ok c => exact absurd ⟨c, parse_eq_ok.1 h⟩ hnone
    | error p =>
      refine ⟨p, ?_⟩
      rw [ofText, h]
      rfl

end Call
end Fixture
