import Fixture.Proofs.TwinBindings

/-! Rules of value fields. What such a rule comes to has the arrays of its value and everything in
them but for the directives, and each directive gives way to what it draws where it stands. -/
namespace Fixture

namespace Value

theorem IsAtom.isLiteral {v : Value} (h : v.IsAtom) : v.IsLiteral := by
  cases v with
  | text => exact h
  | list => exact h.elim
  | _ => trivial

/-- What stands at a position of nested arrays, given by the index in each of them. -/
def item? : List Nat → Value → Option Value
  | [], v => some v
  | i :: position, list items => items[i]?.bind (item? position)
  | _ :: _, _ => none

/-- The value has the arrays of another, with as many items in the same places, and all that is no
directive in the other one. -/
def ShapedAs (w v : Value) : Prop :=
  ∀ position x, v.item? position = some x → ∃ y, w.item? position = some y ∧
    (x.IsLiteral → y = x) ∧ ∀ xs, x = list xs → ∃ ys, y = list ys ∧ ys.length = xs.length

end Value

section Relation
variable {σ : Type} (catalogue : Catalogue) (source : Source σ)

mutual
/-- What the value of a rule comes to, and what is left of the source. Directives are drawn where
they stand in the arrays, from the left. -/
inductive ComesTo : Value → σ → Value → σ → Prop
  | atom {v : Value} {s : σ} (h : v.IsAtom) : ComesTo v s v s
  | directive {text : String} {c : Call} {w : Value} {s t : σ} (h : isDirective text = true)
      (call : Call.parse text.toList = .ok c)
      (drawn : (catalogue.resolve c).outcome source s = (.ok w, t)) : ComesTo (.text text) s w t
  | list {vs ws : List Value} {s t : σ} (h : ItemsComeTo vs s ws t) :
      ComesTo (.list vs) s (.list ws) t

inductive ItemsComeTo : List Value → σ → List Value → σ → Prop
  | nil {s : σ} : ItemsComeTo [] s [] s
  | cons {v w : Value} {vs ws : List Value} {s t u : σ} (h : ComesTo v s w t)
      (rest : ItemsComeTo vs t ws u) : ItemsComeTo (v :: vs) s (w :: ws) u
end

end Relation

section Laws
variable {σ : Type} {catalogue : Catalogue} {source : Source σ} {s t : σ}

theorem ItemsComeTo.length_eq : ∀ {vs ws : List Value} {s t : σ},
    ItemsComeTo catalogue source vs s ws t → ws.length = vs.length
  | _, _, _, _, .nil => rfl
  | _, _, _, _, .cons _ rest => congrArg (· + 1) rest.length_eq

theorem ItemsComeTo.getElem? {vs ws : List Value} {s t : σ}
    (h : ItemsComeTo catalogue source vs s ws t) {i : Nat} {x : Value} (hx : vs[i]? = some x) :
    ∃ y s' t', ws[i]? = some y ∧ ComesTo catalogue source x s' y t' := by
  induction vs generalizing ws s i with
  | nil => simp at hx
  | cons v vs ih =>
    cases h with
    | cons h rest =>
      cases i with
      | zero =>
        cases hx
        exact ⟨_, _, _, rfl, h⟩
      | succ i => exact ih rest hx

theorem ComesTo.item? {position : List Nat} {v w x : Value} {s t : σ}
    (h : ComesTo catalogue source v s w t) (hx : v.item? position = some x) :
    ∃ y s' t', w.item? position = some y ∧ ComesTo catalogue source x s' y t' := by
  induction position generalizing v w s t with
  | nil =>
    cases hx
    exact ⟨w, s, t, rfl, h⟩
  | cons i position ih =>
    cases v with
    | list vs =>
      obtain ⟨x', hx', hx⟩ := Option.bind_eq_some_iff.1 hx
      cases h with
      | atom h => exact h.elim
      | list h =>
        obtain ⟨y', s', t', hy', h'⟩ := h.getElem? hx'
        obtain ⟨y, s'', t'', hy, h''⟩ := ih h' hx
        exact ⟨y, s'', t'', by simp [Value.item?, hy', hy], h''⟩
    | _ => cases hx

mutual
theorem ComesTo.eq_of_isLiteral : ∀ (v : Value) {w : Value} {s t : σ},
    ComesTo catalogue source v s w t → v.IsLiteral → w = v ∧ t = s
  | v, w, s, t, h, hv => by
    cases h with
    | atom => exact ⟨rfl, rfl⟩
    | directive hd =>
      rw [Value.IsLiteral, hd] at hv
      cases hv
    | list h =>
      obtain ⟨rfl, rfl⟩ := ItemsComeTo.eq_of_areLiteral _ h hv
      exact ⟨rfl, rfl⟩
termination_by structural v => v

theorem ItemsComeTo.eq_of_areLiteral : ∀ (vs : List Value) {ws : List Value} {s t : σ},
    ItemsComeTo catalogue source vs s ws t → AreLiteral vs → ws = vs ∧ t = s
  | [], _, _, _, .nil, _ => ⟨rfl, rfl⟩
  | v :: vs, _, _, _, .cons h rest, hv => by
    obtain ⟨rfl, rfl⟩ := ComesTo.eq_of_isLiteral v h hv.1
    obtain ⟨rfl, rfl⟩ := ItemsComeTo.eq_of_areLiteral vs rest hv.2
    exact ⟨rfl, rfl⟩
end

theorem ComesTo.shapedAs {v w : Value} (h : ComesTo catalogue source v s w t) : w.ShapedAs v := by
  intro position x hx
  obtain ⟨y, s', t', hy, hxy⟩ := h.item? hx
  refine ⟨y, hy, fun hl => (ComesTo.eq_of_isLiteral x hxy hl).1, ?_⟩
  rintro xs rfl
  cases hxy with
  | atom ha => exact ha.elim
  | list hitems => exact ⟨_, rfl, hitems.length_eq⟩

mutual
/-- A rule comes to exactly what its value does. -/
theorem resolve_eq_ok_iff : ∀ (v : Value) {path path' : String} {spec : Spec} {w : Value} {s t : σ},
    classify catalogue v path = .ok spec →
      ((spec.resolve catalogue path').outcome source s = (.ok w, t) ↔
        ComesTo catalogue source v s w t)
  | v, path, path', spec, w, s, t, h => by
    cases classify_eq_ok.1 h with
    | literal hv =>
      rw [Spec.resolve, Attempt.outcome_pure]
      constructor
      · rintro ⟨⟩
        exact .atom hv
      · intro hw
        obtain ⟨rfl, rfl⟩ := ComesTo.eq_of_isLiteral v hw hv.isLiteral
        rfl
    | directive hd hc =>
      rw [Spec.resolve]
      constructor
      · exact .directive hd hc
      · intro hw
        cases hw with
        | atom ha =>
          rw [Value.IsAtom, hd] at ha
          cases ha
        | directive _ hc' hw =>
          cases hc.symm.trans hc'
          exact hw
    | list hs =>
      rw [Spec.resolve, Attempt.outcome_bind_eq_ok]
      constructor
      · rintro ⟨ws, u, hws, hw⟩
        cases hw
        exact .list ((resolveItems_eq_ok_iff _ hs).1 hws)
      · intro hw
        cases hw with
        | atom h => exact h.elim
        | list h => exact ⟨_, _, (resolveItems_eq_ok_iff _ hs).2 h, rfl⟩
termination_by structural v => v

theorem resolveItems_eq_ok_iff : ∀ (vs : List Value) {path path' : String} {i j : Nat}
    {specs : List Spec} {ws : List Value} {s t : σ},
    classifyItems catalogue vs path i = .ok specs →
      ((resolveItems catalogue specs path' j).outcome source s = (.ok ws, t) ↔
        ItemsComeTo catalogue source vs s ws t)
  | [], path, path', i, j, specs, ws, s, t, h => by
    cases h
    rw [resolveItems, Attempt.outcome_pure]
    constructor
    · rintro ⟨⟩
      exact .nil
    · rintro ⟨⟩
      rfl
  | v :: vs, path, path', i, j, specs, ws, s, t, h => by
    obtain ⟨x, xs, hx, hxs, rfl⟩ := classifyItems_cons_eq_ok.1 h
    rw [resolveItems, Attempt.outcome_bind_eq_ok]
    constructor
    · rintro ⟨w, u, hw, h⟩
      obtain ⟨ws, u', hws, h⟩ := Attempt.outcome_bind_eq_ok.1 h
      cases h
      exact .cons ((resolve_eq_ok_iff v hx).1 hw) ((resolveItems_eq_ok_iff vs hxs).1 hws)
    · intro hw
      cases hw with
      | cons h rest =>
        exact ⟨_, _, (resolve_eq_ok_iff v hx).2 h,
          Attempt.outcome_bind_eq_ok.2 ⟨_, _, (resolveItems_eq_ok_iff vs hxs).2 rest, rfl⟩⟩
end

mutual
theorem isLiteral_of_literal? : ∀ (v : Value) {path : String} {spec : Spec} {w : Value},
    classify catalogue v path = .ok spec → spec.literal? = some w → v.IsLiteral
  | v, path, spec, w, h, hl => by
    cases classify_eq_ok.1 h with
    | literal hv => exact hv.isLiteral
    | directive => cases hl
    | list hs =>
      obtain ⟨ws, hws, -⟩ := Option.map_eq_some_iff.1 hl
      exact areLiteral_of_literalItems? _ hs hws
termination_by structural v => v

theorem areLiteral_of_literalItems? : ∀ (vs : List Value) {path : String} {i : Nat}
    {specs : List Spec} {ws : List Value}, classifyItems catalogue vs path i = .ok specs →
      literalItems? specs = some ws → AreLiteral vs
  | [], _, _, _, _, _, _ => trivial
  | v :: vs, path, i, specs, ws, h, hl => by
    obtain ⟨x, xs, hx, hxs, rfl⟩ := classifyItems_cons_eq_ok.1 h
    obtain ⟨w, hw, hl⟩ := Option.bind_eq_some_iff.1 hl
    obtain ⟨ws', hws, -⟩ := Option.bind_eq_some_iff.1 hl
    exact ⟨isLiteral_of_literal? v hx hw, areLiteral_of_literalItems? vs hxs hws⟩
end

/-- The value of a rule keeps its shape. What a rule comes to is what its value comes to with its
directives drawn in their places, one after another, and has the arrays of the value. Without
directives it is the value itself, nothing is drawn, and the value is the rule's literal; with one
the rule has no literal. -/
theorem resolve_keeps_shape {v : Value} {path : String} {spec : Spec}
    (h : classify catalogue v path = .ok spec) :
    (∀ {σ : Type} (source : Source σ) (path' : String) (s t : σ) (w : Value),
        ((spec.resolve catalogue path').outcome source s = (.ok w, t) ↔
          ComesTo catalogue source v s w t) ∧
        (ComesTo catalogue source v s w t → w.ShapedAs v)) ∧
      (v.IsLiteral → spec.literal? = some v ∧
        ∀ path', spec.resolve catalogue path' = pure v) ∧
      (¬ v.IsLiteral → spec.literal? = none) := by
  refine ⟨fun source path' s t w => ⟨resolve_eq_ok_iff v h, ComesTo.shapedAs⟩, ?literal, ?drawn⟩
  case literal =>
    intro hv
    exact ⟨literal?_of_classify v h hv, resolve_of_classify v h hv⟩
  case drawn =>
    intro hv
    cases hl : spec.literal? with
    | none => rfl
    | some w => exact absurd (isLiteral_of_literal? v h hl) hv

end Laws

namespace Sample

theorem classify_word (path : String) :
    classify catalogue (.text "@word") path = .ok (.directive ⟨"word", []⟩) := by
  rw [classify]
  rfl

/-- Words in arrays, and a map with what would be a directive elsewhere. -/
def words : Value :=
  .list [.text "@word", .list [.null, .text "@word"], .map [("@word", .text "@word")]]

def wordsSpec : Spec :=
  .sequence [.directive ⟨"word", []⟩, .sequence [.literal .null, .directive ⟨"word", []⟩],
    .literal (.map [("@word", .text "@word")])]

theorem classify_words : classify catalogue words "tags" = .ok wordsSpec := by
  rw [words, classify]
  refine Outcome.map_eq_ok.2 ⟨_, classifyItems_cons_eq_ok.2 ⟨_, _, classify_word _, ?_, rfl⟩, rfl⟩
  refine classifyItems_cons_eq_ok.2 ⟨_, _, ?inner, ?_, rfl⟩
  case inner =>
    rw [classify]
    refine Outcome.map_eq_ok.2 ⟨_, classifyItems_cons_eq_ok.2 ⟨_, _, rfl, ?_, rfl⟩, rfl⟩
    exact classifyItems_cons_eq_ok.2 ⟨_, _, classify_word _, rfl, rfl⟩
  exact classifyItems_cons_eq_ok.2 ⟨_, _, rfl, rfl, rfl⟩

end Sample

theorem resolve_words_keeps_shape :
    classify Sample.catalogue Sample.words "tags" = .ok Sample.wordsSpec ∧
      (Sample.wordsSpec.resolve Sample.catalogue "tags").outcome WordCycle.source ⟨[0, 7], 0⟩ =
        (.ok (.list [.text "tick", .list [.null, .text "tock"],
          .map [("@word", .text "@word")]]), ⟨[0, 7], 2⟩) ∧
      Sample.wordsSpec.literal? = none := by
  obtain ⟨hcomes, -, hdrawn⟩ := resolve_keeps_shape Sample.classify_words
  refine ⟨Sample.classify_words, (hcomes _ _ _ _ _).1.2 ?_, hdrawn ?_⟩
  · refine .list (.cons (.directive rfl rfl rfl) (.cons (.list ?_) (.cons (.atom trivial) .nil)))
    exact .cons (.atom trivial) (.cons (.directive rfl rfl rfl) .nil)
  · intro hv
    cases hv.1

end Fixture
