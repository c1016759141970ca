import Fixture.Proofs.PathTree

/-! One tree laid over another, as a right-biased union. A tree in which no segment stands twice on a
level is its levels and its values: the segments below each path in their order, and what stands at
each path. So what an overlay has at every path says all of it, and the laws of the overlay are those
of `Option.or` and of lists that are continued by what is new. -/
namespace Fixture
namespace PathTree

/-- The segments of the level that a path leads to, in their order. There are none if it leads
nowhere. -/
def level : List String → PathTree → List String
  | [], t => t.keys
  | s :: ss, t => ((t.node? s).map fun n => n.2.level ss).getD []

@[simp] theorem level_nil (path : List String) : nil.level path = [] := by
  cases path <;> rfl

theorem level_congr {t u : PathTree} {k : String} (h : t.node? k = u.node? k)
    (path : List String) : t.level (k :: path) = u.level (k :: path) := by
  rw [level, level, h]

section Levels
variable {t u : PathTree}

/-- What depends at a path on the node of its first segment alone, and is the same for two trees at
every path, is the same beside their first nodes. -/
theorem rest_congr {α : Type} {f : List String → PathTree → α}
    (hf : ∀ {k : String} {t u : PathTree}, t.node? k = u.node? k →
      ∀ path, f (k :: path) t = f (k :: path) u)
    {s : String} {d d' : Option Value} {c c' r r' : PathTree} (hs : s ∉ r.keys) (hs' : s ∉ r'.keys)
    (h : ∀ path, f path (cons s d c r) = f path (cons s d' c' r')) (k : String)
    (path : List String) : f (k :: path) r = f (k :: path) r' := by
  by_cases hk : s = k
  · subst hk
    exact hf ((node?_eq_none.2 hs).trans (node?_eq_none.2 hs').symm) path
  · have hnode (d : Option Value) (c r : PathTree) : (cons s d c r).node? k = r.node? k := if_neg hk
    calc f (k :: path) r
        = f (k :: path) (cons s d c r) := hf (hnode d c r).symm path
      _ = f (k :: path) (cons s d' c' r') := h _
      _ = f (k :: path) r' := hf (hnode d' c' r') path

/-- A tree without a segment twice on a level is determined by its levels and its values. -/
theorem eq_of_levels (ht : t.Distinct) (hu : u.Distinct)
    (hl : ∀ path, t.level path = u.level path)
    (hv : ∀ path, t.valueAt path = u.valueAt path) : t = u := by
  induction t generalizing u with
  | nil =>
    cases u with
    | nil => rfl
    | cons => cases hl []
  | cons s d c r ihc ihr =>
    cases u with
    | nil => cases hl []
    | cons s' d' c' r' =>
      obtain ⟨rfl, hkeys⟩ : s = s' ∧ r.keys = r'.keys := List.cons.inj (hl [])
      have hd : d = d' := by simpa [valueAt, node?] using hv [s]
      have hc : c = c' := by
        refine ihc ht.2.1 hu.2.1 (fun path => ?_) fun path => ?_
        · simpa [level, node?] using hl (s :: path)
        · cases path with
          | nil => rfl
          | cons k path => simpa [valueAt_cons, node?] using hv (s :: k :: path)
      have hr : r = r' := by
        refine ihr ht.2.2 hu.2.2 (fun path => ?_) fun path => ?_
        · cases path with
          | nil => exact hkeys
          | cons k path => exact rest_congr level_congr ht.1 hu.1 hl k path
        · cases path with
          | nil => rfl
          | cons k path => exact rest_congr valueAt_congr ht.1 hu.1 hv k path
      rw [hd, hc, hr]

end Levels

section Overlay

/-- A list, and after it what is new in another one. -/
def continued (before after : List String) : List String :=
  before ++ after.filter (· ∉ before)

theorem mem_continued {before after : List String} {s : String} :
    s ∈ continued before after ↔ s ∈ before ∨ s ∈ after := by
  by_cases h : s ∈ before
  · simp [continued, h]
  · simp [continued, h]

theorem continued_assoc (xs ys zs : List String) :
    continued (continued xs ys) zs = continued xs (continued ys zs) := by
  have hnew : zs.filter (· ∉ continued xs ys) = (zs.filter (· ∉ ys)).filter (· ∉ xs) := by
    rw [List.filter_filter]
    apply List.filter_congr
    intro s _
    simp [mem_continued]
  calc continued (continued xs ys) zs
      = xs ++ (ys.filter (· ∉ xs) ++ zs.filter (· ∉ continued xs ys)) := List.append_assoc _ _ _
    _ = xs ++ (ys ++ zs.filter (· ∉ ys)).filter (· ∉ xs) := by rw [hnew, List.filter_append]

theorem keys_overlay (base : PathTree) {top : PathTree} (ht : top.Distinct) :
    (base.overlay top).keys = continued base.keys top.keys := by
  unfold continued
  induction top generalizing base with
  | nil => simp [overlay, keys]
  | cons s d c r _ ih =>
    obtain ⟨hs, -, hr⟩ := ht
    rw [overlay, ih _ hr, keys_alter, keys]
    by_cases hm : s ∈ base.keys
    · simp [hm]
    · -- the new segment is none of those that are still to come
      have hrest : r.keys.filter (· ∉ base.keys ++ [s]) = r.keys.filter (· ∉ base.keys) := by
        apply List.filter_congr
        intro k hk
        have hne : k ≠ s := fun he => hs (he ▸ hk)
        simp [hne]
      rw [if_neg hm, hrest]
      simp [hm]

/-- Every level of an overlay is that of the lower tree, continued by that of the upper one. -/
theorem level_overlay (base : PathTree) {top : PathTree} (ht : top.Distinct)
    (path : List String) :
    (base.overlay top).level path = continued (base.level path) (top.level path) := by
  induction path generalizing base top with
  | nil => exact keys_overlay base ht
  | cons s ss ih =>
    cases hn : top.node? s with
    | none => simp [level, node?_overlay base ht, hn, continued]
    | some n =>
      obtain ⟨d, c⟩ := n
      have hc := ht.of_node? hn
      cases hb : base.node? s with
      | none => simp [level, node?_overlay base ht, hn, hb, ih _ hc]
      | some n' => simp [level, node?_overlay base ht, hn, hb, ih _ hc]

theorem nil_overlay {t : PathTree} (ht : t.Distinct) : nil.overlay t = t := by
  have hnil : nil.Distinct := trivial
  refine eq_of_levels hnil.overlay ht (fun path => ?_) fun path => ?_
  · simp [level_overlay nil ht, continued]
  · simp [valueAt_overlay nil ht]

theorem overlay_assoc {a b c : PathTree} (ha : a.Distinct) (hb : b.Distinct) (hc : c.Distinct) :
    (a.overlay b).overlay c = a.overlay (b.overlay c) := by
  have hbc : (b.overlay c).Distinct := hb.overlay
  refine eq_of_levels ha.overlay.overlay ha.overlay (fun path => ?_) fun path => ?_
  · rw [level_overlay _ hc, level_overlay _ hb, level_overlay _ hbc, level_overlay _ hc,
      continued_assoc]
  · rw [valueAt_overlay _ hc, valueAt_overlay _ hb, valueAt_overlay _ hbc, valueAt_overlay _ hc,
      Option.or_assoc]

/-- A tree laid over another is a right-biased union of the two. At every path there is the value of
the upper tree if it has one, and else that of the lower tree, if there is one. No segment stands
twice on a level, and on every level the siblings of the lower tree stand first and in their order,
and after them those that only the upper tree has, in theirs. So overlays of several trees come to
the same in whatever grouping they are laid, and the empty tree adds nothing. -/
theorem overlay_right_biased {base top : PathTree} (hb : base.Distinct) (ht : top.Distinct) :
    (∀ path v, (base.overlay top).valueAt path = some v ↔
      top.valueAt path = some v ∨ top.valueAt path = none ∧ base.valueAt path = some v) ∧
    (base.overlay top).Distinct ∧
    (∀ path, (base.overlay top).level path =
      base.level path ++ (top.level path).filter (· ∉ base.level path)) ∧
    (∀ upper : PathTree, upper.Distinct →
      (base.overlay top).overlay upper = base.overlay (top.overlay upper)) ∧
    base.overlay nil = base ∧ nil.overlay base = base := by
  refine ⟨fun path v => ?values, hb.overlay, level_overlay base ht, fun upper hu => ?grouping, rfl,
    nil_overlay hb⟩
  case values =>
    rw [valueAt_overlay base ht, Option.or_eq_some_iff]
  case grouping => exact overlay_assoc hb ht hu

end Overlay
end PathTree

namespace Sample
open PathTree

/-- A home given as a map. -/
def homeMap : PathTree :=
  .cons "city" (some (.text "Paris")) .nil
    (.cons "geo" (some .null) (.cons "lat" (some (.text "48.9")) .nil .nil) .nil)

/-- Rules for the same home by deeper keys. -/
def homeDotted : PathTree :=
  .cons "zip" (some (.text "69001")) .nil
    (.cons "geo" none (.cons "lng" (some (.text "4.8")) .nil .nil)
      (.cons "city" (some (.text "Lyon")) .nil .nil))

end Sample

theorem overlay_right_biased_home :
    Sample.homeMap.Distinct ∧ Sample.homeDotted.Distinct ∧
      (Sample.homeMap.overlay Sample.homeDotted).valueAt ["city"] = some (.text "Lyon") ∧
      (Sample.homeMap.overlay Sample.homeDotted).valueAt ["geo"] = some .null ∧
      (Sample.homeMap.overlay Sample.homeDotted).level [] = ["city", "geo", "zip"] ∧
      (Sample.homeMap.overlay Sample.homeDotted).level ["geo"] = ["lat", "lng"] ∧
      (Sample.homeMap.overlay Sample.homeDotted).overlay Sample.homeMap =
        Sample.homeMap.overlay (Sample.homeDotted.overlay Sample.homeMap) := by
  have hb : Sample.homeMap.Distinct := by decide
  have ht : Sample.homeDotted.Distinct := by decide
  obtain ⟨hvalues, -, hlevels, hgrouping, -, -⟩ := PathTree.overlay_right_biased hb ht
  refine ⟨hb, ht, (hvalues _ _).2 (.inl rfl), (hvalues _ _).2 (.inr ⟨rfl, rfl⟩), ?_, ?_,
    hgrouping _ hb⟩
  · rw [hlevels]
    decide
  · rw [hlevels]
    decide

end Fixture
