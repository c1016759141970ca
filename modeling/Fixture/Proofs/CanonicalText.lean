import Fixture.Proofs.DirectiveGrammar
import Fixture.Proofs.FloatTexts

/-! The canonical text of a call reads back as the call. The two sides escape differently: a control
character that is neither a newline nor a tab is written in a way that directive texts do not have,
and it is the only thing that keeps a text from being read. -/
namespace Fixture

/-- A character that is written in a way that directive texts have. -/
def Text.Kept (c : Char) : Prop := c.toNat < 32 → c = '\n' ∨ c = '\t'

/-- A text or a number, as arguments of directives are. -/
def Value.IsArgument : Value → Prop
  | .text _ | .int _ _ | .float _ => True
  | _ => False

namespace Call
open Text

section Escapes
variable {c : Char} {s r : List Char}

theorem escape_of_kept (h : Kept c) :
    (c ≠ '"' ∧ c ≠ '\\' ∧ escape c = [c]) ∨ ∃ e, Escape e c ∧ escape c = ['\\', e] := by
  by_cases hdouble : c = '"'
  · subst hdouble
    exact .inr ⟨'"', .doubleQuote, rfl⟩
  by_cases hslash : c = '\\'
  · subst hslash
    exact .inr ⟨'\\', .backslash, rfl⟩
  by_cases hcontrol : c.toNat < 32
  · rcases h hcontrol with rfl | rfl
    · exact .inr ⟨'n', .newline, rfl⟩
    · exact .inr ⟨'t', .tab, rfl⟩
  · refine .inl ⟨hdouble, hslash, ?_⟩
    have hne {d : Char} (hd : d.toNat < 32) : c ≠ d := by
      rintro rfl
      exact hcontrol hd
    have h8 : c.toNat ≠ 8 := by omega
    have h12 : c.toNat ≠ 12 := by omega
    simp [escape, hdouble, hslash, hne (show '\n'.toNat < 32 by decide),
      hne (show '\t'.toNat < 32 by decide), hne (show '\r'.toNat < 32 by decide), h8, h12, hcontrol]

theorem escape_of_not_kept (h : ¬ Kept c) :
    ∃ e t, escape c = '\\' :: e :: t ∧ unescape? e = none := by
  have hcontrol : c.toNat < 32 := Decidable.of_not_not fun hc => h fun hlt => absurd hlt hc
  have hline : c ≠ '\n' := fun hc => h fun _ => .inl hc
  have htab : c ≠ '\t' := fun hc => h fun _ => .inr hc
  have hne {d : Char} (hd : 32 ≤ d.toNat) : c ≠ d := by
    rintro rfl
    omega
  simp only [escape, hne (show 32 ≤ '"'.toNat by decide), hne (show 32 ≤ '\\'.toNat by decide),
    hline, htab, if_false]
  split
  · exact ⟨'r', [], rfl, by decide⟩
  · split
    · exact ⟨'b', [], rfl, by decide⟩
    · split
      · exact ⟨'f', [], rfl, by decide⟩
      · exact ⟨'u', _, rfl, by decide⟩

theorem quoted_escape (h : ∀ c ∈ s, Kept c) : Quoted '"' (s.flatMap escape) s := by
  induction s with
  | nil => exact .nil
  | cons c s ih =>
    rw [List.forall_mem_cons] at h
    rw [List.flatMap_cons]
    rcases escape_of_kept h.1 with ⟨hdouble, hslash, he⟩ | ⟨e, hesc, he⟩
    · rw [he]
      exact .plain hdouble hslash (ih h.2)
    · rw [he]
      exact .escaped hesc (ih h.2)

/-- Reading stops at the first character that is not kept. -/
theorem kept_of_quotedArg {p : List Char × List Char}
    (h : quotedArg '"' (s.flatMap escape ++ r) = .ok p) : ∀ c ∈ s, Kept c := by
  induction s generalizing p with
  | nil => nofun
  | cons c s ih =>
    rw [List.flatMap_cons, List.append_assoc] at h
    have hquote : '\\' ≠ '"' := by decide
    by_cases hc : Kept c
    · rw [List.forall_mem_cons]
      refine ⟨hc, ?_⟩
      rcases escape_of_kept hc with ⟨hdouble, hslash, he⟩ | ⟨e, hesc, he⟩
      · rw [he, List.singleton_append] at h
        unfold quotedArg at h
        rw [if_neg hdouble, if_neg hslash] at h
        obtain ⟨_, hp, -⟩ := Outcome.map_eq_ok.1 h
        exact ih hp
      · rw [he] at h
        simp only [List.cons_append, List.nil_append, quotedArg, if_neg hquote, if_true,
          unescape?_eq_some.2 hesc] at h
        obtain ⟨_, hp, -⟩ := Outcome.map_eq_ok.1 h
        exact ih hp
    · obtain ⟨e, t, he, hnone⟩ := escape_of_not_kept hc
      rw [he] at h
      simp only [List.cons_append, quotedArg, if_neg hquote, if_true, hnone] at h
      cases h

end Escapes

/-- All characters of the value are kept, if it is a text. -/
def Readable (v : Value) : Prop := ∀ s, v = .text s → ∀ c ∈ s.toList, Kept c

section Arguments
variable {v : Value} {vs ws : List Value} {s b : List Char}

theorem comma_notMem_of_number (h : Number s v) : ',' ∉ s :=
  fun hm => (mem_of_number h hm).ne (by decide) rfl

theorem literal_render (hv : v.IsArgument) (h : Readable v) : Literal v.render v := by
  cases v with
  | text s =>
    have hq := Literal.quoted (.inl rfl) (quoted_escape (h s rfl))
    rw [String.ofList_toList] at hq
    exact hq
  | int n range =>
    have hn : Number (signedDecimal n) (.int n range) :=
      number?_eq_some_iff.1 (number?_eq_some.2 (.inl ⟨n, range, integer?_signedDecimal n, rfl⟩))
    exact .number (comma_notMem_of_number hn) hn
  | float x =>
    have hnone : ∀ n, Text.integer? true x.text = some n → ¬ Value.intRange n := by
      rw [Binary64.integer?_text]
      nofun
    have hx : Number x.text (.float x) := number?_eq_some_iff.1
      (number?_eq_some.2 (.inr ⟨hnone, x, Binary64.read?_text x, rfl⟩))
    exact .number (comma_notMem_of_number hx) hx
  | _ => cases hv

theorem item_render (hb : Blank b) (hv : v.IsArgument) (h : Readable v) :
    Item (b ++ v.render) v := by
  have hitem := Item.intro hb blank_nil (literal_render hv h)
  rwa [List.append_nil] at hitem

theorem items_renderArgs (hb : Blank b) (hne : vs ≠ []) (hvs : ∀ v ∈ vs, v.IsArgument)
    (h : ∀ v ∈ vs, Readable v) : Items (b ++ renderArgs vs) vs := by
  induction vs generalizing b with
  | nil => exact absurd rfl hne
  | cons v vs ih =>
    rw [List.forall_mem_cons] at hvs h
    cases vs with
    | nil => exact .one (item_render hb hvs.1 h.1)
    | cons w vs =>
      have hblank : Blank [' '] := by simp [Blank, isBlank]
      have hrest := ih (b := [' ']) hblank (by simp) hvs.2 h.2
      have hcons := Items.cons (item_render hb hvs.1 h.1) hrest
      rwa [List.append_assoc] at hcons

theorem render_not_blank (hv : v.IsArgument) : ¬ Blank v.render := by
  cases v with
  | text s => exact fun h => absurd (h '"' List.mem_cons_self) (by decide)
  | _ => exact item_not_blank (item_render blank_nil hv nofun)

theorem renderArgs_not_blank (hne : vs ≠ []) (hvs : ∀ v ∈ vs, v.IsArgument) :
    ¬ Blank (renderArgs vs) := by
  match vs with
  | [] => exact absurd rfl hne
  | [v] => exact render_not_blank (hvs v List.mem_cons_self)
  | v :: w :: vs =>
    exact fun h => render_not_blank (hvs v List.mem_cons_self)
      fun c hc => h c (List.mem_append_left _ hc)

theorem readable_of_argsAfter {k : Nat} (hb : Blank b) (hvs : ∀ v ∈ vs, v.IsArgument)
    (h : argsAfter k (b ++ renderArgs vs) = .ok ws) : ∀ v ∈ vs, Readable v := by
  induction vs generalizing b k ws with
  | nil => nofun
  | cons v vs ih =>
    rw [List.forall_mem_cons] at hvs ⊢
    obtain ⟨r, hr, hcomma⟩ : ∃ r, renderArgs (v :: vs) = v.render ++ r ∧
        (r = [] ∧ vs = [] ∨ r = ',' :: ' ' :: renderArgs vs) := by
      cases vs with
      | nil => exact ⟨[], by simp [renderArgs], .inl ⟨rfl, rfl⟩⟩
      | cons w vs => exact ⟨_, rfl, .inr rfl⟩
    obtain ⟨v', r', hfirst, hrest⟩ := argsAfter_eq_ok.1 h
    rw [hr, skipBlank_append hb] at hfirst
    have hv : Readable v := by
      rintro s rfl
      have hskip : skipBlank (Value.render (.text s) ++ r) =
          '"' :: (s.toList.flatMap escape ++ ['"'] ++ r) := skipBlank_of_head (by decide) _
      rw [hskip, firstArg, if_pos (.inl rfl)] at hfirst
      obtain ⟨p, hp, -⟩ := Outcome.map_eq_ok.1 hfirst
      rw [List.append_assoc] at hp
      exact kept_of_quotedArg hp
    refine ⟨hv, ?_⟩
    rcases hcomma with ⟨-, rfl⟩ | rfl
    · nofun
    · have hitem := item_render blank_nil hvs.1 hv
      obtain ⟨after, ha, hfirst'⟩ := firstArg_of_item hitem
        (r := ',' :: ' ' :: renderArgs vs) (.inr rfl)
      rw [List.nil_append] at hfirst'
      cases hfirst.symm.trans hfirst'
      rw [skipBlank_append ha, skipBlank_of_head (by decide)] at hrest
      rcases hrest with ⟨hnil, -⟩ | ⟨rest, ws', hcons, hargs, -⟩
      · cases hnil
      · cases hcons
        exact ih (b := [' ']) (by simp [Blank, isBlank]) hvs.2 hargs

end Arguments

section Render
variable {c : Call}

theorem written_render (hname : IsName c.name.toList) (hargs : ∀ v ∈ c.args, v.IsArgument)
    (h : ∀ v ∈ c.args, Readable v) : Written c.render c := by
  obtain ⟨name, args⟩ := c
  by_cases hnil : args = []
  · subst hnil
    have hbare := Written.bare hname
    rw [String.ofList_toList] at hbare
    simpa [render] using hbare
  · have hitems := items_renderArgs blank_nil hnil hargs h
    have hbody := Written.withBody hname (.items hitems)
    rw [String.ofList_toList] at hbody
    simpa [render, hnil] using hbody

theorem readable_of_parse {d : Call} (hname : IsName c.name.toList)
    (hargs : ∀ v ∈ c.args, v.IsArgument) (h : parse c.render = .ok d) :
    ∀ v ∈ c.args, Readable v := by
  by_cases hnil : c.args = []
  · rw [hnil]
    nofun
  · have hhead : head? c.render = some (c.name.toList, some (renderArgs c.args)) :=
      head?_eq_some_body.2 ⟨hname, by simp [render, hnil]⟩
    rw [parse, hhead] at h
    obtain ⟨vs, hvs, -⟩ := Outcome.map_eq_ok.1 h
    unfold readArgs at hvs
    split at hvs
    · rename_i hblank
      exact absurd (skipBlank_eq_nil_iff.1 hblank) (renderArgs_not_blank hnil hargs)
    · exact readable_of_argsAfter (b := []) blank_nil hargs hvs

/-- The canonical text of a call of texts and numbers is read if its texts have no control character
but newlines and tabs, and not otherwise; what is read is the call. -/
theorem ofText_render_iff (c : Call) (hname : IsName c.name.toList)
    (hargs : ∀ v ∈ c.args, v.IsArgument) :
    ((∃ d, ofText (String.ofList c.render) = .ok d) ↔
      ∀ s, .text s ∈ c.args → ∀ ch ∈ s.toList, ch.toNat < 32 → ch = '\n' ∨ ch = '\t') ∧
    ∀ d, ofText (String.ofList c.render) = .ok d → d = c := by
  have hparse {d : Call} : ofText (String.ofList c.render) = .ok d ↔ parse c.render = .ok d := by
    rw [ofText, Outcome.mapError_eq_ok, String.toList_ofList]
  have hread (h : ∀ v ∈ c.args, Readable v) : parse c.render = .ok c :=
    parse_eq_ok.2 (written_render hname hargs h)
  refine ⟨⟨?_, fun h => ⟨c, hparse.2 (hread ?_)⟩⟩, fun d hd => ?_⟩
  · rintro ⟨d, hd⟩ s hs
    exact readable_of_parse hname hargs (hparse.1 hd) _ hs s rfl
  · rintro v hv s rfl
    exact h s hv
  · have hd := hparse.1 hd
    have hc := hread (readable_of_parse hname hargs hd)
    exact Except.ok.inj (hd.symm.trans hc)

/-- A call with a text of quotes, backslashes, commas and parentheses. -/
def punctuated : Call where
  name := "pick"
  args := [.text "a\", (b)\\\n", .int (-7) (by decide), .float ⟨true, 0, Binary64.fits_zero⟩]

theorem ofText_render_punctuated :
    ofText (String.ofList punctuated.render) = .ok punctuated := by
  have hname : IsName punctuated.name.toList := by simp [punctuated, IsName, NameStart]
  have hargs : ∀ v ∈ punctuated.args, v.IsArgument := by simp [punctuated, Value.IsArgument]
  obtain ⟨hiff, hsame⟩ := ofText_render_iff punctuated hname hargs
  have htexts : ∀ s, .text s ∈ punctuated.args →
      ∀ ch ∈ s.toList, ch.toNat < 32 → ch = '\n' ∨ ch = '\t' := by
    simp [punctuated]
  obtain ⟨d, hd⟩ := hiff.2 htexts
  rw [hd, hsame d hd]

end Render

end Call
end Fixture
