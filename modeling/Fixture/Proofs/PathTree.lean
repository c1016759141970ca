import Fixture.Rules.Tree

/-! Path trees as maps from paths to values. Laying one tree over another is the right-biased union,
and no operation puts one segment twice on one level. -/
namespace Fixture

namespace Value

theorem segments_ne_nil (path : String) : segments path ≠ [] := by
  simp [segments]

theorem intercalate_segments (path : String) : ".".intercalate (segments path) = path := by
  apply String.toList_inj.1
  simp [segments, Function.comp_def]

end Value

theorem foldl_joinPath_of_ne {scope : String} (h : scope ≠ "") (ss : List String) :
    ss.foldl joinPath scope = ".".intercalate (scope :: ss) := by
  induction ss generalizing scope with
  | nil => simp
  | cons s ss ih =>
    have hne : scope ++ "." ++ s ≠ "" := by
      intro he
      have := congrArg String.toList he
      simp at this
    rw [List.foldl_cons, joinPath, if_neg h, ih hne, String.intercalate_cons_cons,
      String.intercalate_cons_append]

theorem foldl_joinPath_segments {key : String} (h : "" ∉ Value.segments key) :
    (Value.segments key).foldl joinPath "" = key := by
  have hkey := Value.intercalate_segments key
  cases hs : Value.segments key with
  | nil => exact absurd hs (Value.segments_ne_nil key)
  | cons s ss =>
    rw [hs] at h hkey
    have hne : s ≠ "" := fun he => h (he ▸ List.mem_cons_self)
    rw [List.foldl_cons, joinPath, if_pos rfl, foldl_joinPath_of_ne hne, hkey]

theorem segments_inj {k l : String} (hk : "" ∉ Value.segments k)
    (h : Value.segments k = Value.segments l) : k = l := by
  rw [← foldl_joinPath_segments hk, h, foldl_joinPath_segments (h ▸ hk)]

namespace PathTree

/-- The first node of a segment: its own value and the nodes below it. -/
def node? (segment : String) : PathTree → Option (Option Value × PathTree)
  | nil => none
  | cons s d c r => if s = segment then some (d, c) else r.node? segment

/-- The value at a path. -/
def valueAt : List String → PathTree → Option Value
  | [], _ => none
  | [s], t => (t.node? s).bind Prod.fst
  | s :: ss, t => (t.node? s).bind fun n => n.2.valueAt ss

/-- The segments of the first level. -/
def keys : PathTree → List String
  | nil => []
  | cons s _ _ r => s :: r.keys

/-- No segment stands twice on a level, at any depth. -/
def Distinct : PathTree → Prop
  | nil => True
  | cons s _ c r => s ∉ r.keys ∧ c.Distinct ∧ r.Distinct

instance decidableDistinct : (t : PathTree) → Decidable t.Distinct
  | nil => isTrue trivial
  | cons s _ c r =>
    have := decidableDistinct c
    have := decidableDistinct r
    inferInstanceAs (Decidable (s ∉ r.keys ∧ c.Distinct ∧ r.Distinct))

@[simp] theorem node?_nil (k : String) : nil.node? k = none := rfl

@[simp] theorem valueAt_nil (path : List String) : nil.valueAt path = none := by
  cases path with
  | nil => rfl
  | cons s ss => cases ss <;> rfl

theorem valueAt_cons (s : String) {ss : List String} (h : ss ≠ []) (t : PathTree) :
    t.valueAt (s :: ss) = (t.node? s).bind fun n => n.2.valueAt ss := by
  cases ss with
  | nil => exact absurd rfl h
  | cons _ _ => rfl

theorem valueAt_congr {k : String} {t u : PathTree} (h : t.node? k = u.node? k)
    (path : List String) : t.valueAt (k :: path) = u.valueAt (k :: path) := by
  cases path <;> simp [valueAt, h]

theorem exists_node?_of_valueAt {k : String} {path : List String} {t : PathTree} {v : Value}
    (h : t.valueAt (k :: path) = some v) : ∃ d c, t.node? k = some (d, c) := by
  cases hn : t.node? k with
  | none => cases path <;> simp [valueAt, hn] at h
  | some n => exact ⟨n.1, n.2, rfl⟩

theorem node?_eq_none {k : String} {t : PathTree} : t.node? k = none ↔ k ∉ t.keys := by
  induction t with
  | nil => simp [keys]
  | cons s d c r _ ih =>
    rw [node?, keys, List.mem_cons, not_or]
    by_cases h : s = k
    · simp [h]
    · simp [h, ih, Ne.symm h]

theorem Distinct.nodup_keys {t : PathTree} (h : t.Distinct) : t.keys.Nodup := by
  induction t with
  | nil => exact List.nodup_nil
  | cons s d c r _ ih => exact List.nodup_cons.2 ⟨h.1, ih h.2.2⟩

theorem Distinct.of_node? {k : String} {d : Option Value} {c t : PathTree} (ht : t.Distinct)
    (h : t.node? k = some (d, c)) : c.Distinct := by
  induction t with
  | nil => simp at h
  | cons s d' c' r _ ih =>
    rw [node?] at h
    split at h
    · cases h
      exact ht.2.1
    · exact ih ht.2.2 h

section Alter
variable {f : Option Value → PathTree → Option Value × PathTree}

theorem node?_alter (segment k : String) (t : PathTree) :
    (alter segment f t).node? k =
      if k = segment then
        some (f ((t.node? segment).getD (none, nil)).1 ((t.node? segment).getD (none, nil)).2)
      else t.node? k := by
  induction t with
  | nil =>
    by_cases h : k = segment
    · simp [alter, node?, h]
    · simp [alter, node?, h, Ne.symm h]
  | cons s d c r _ ih =>
    rw [alter]
    by_cases hs : s = segment
    · by_cases h : k = segment
      · simp [node?, hs, h]
      · simp [node?, hs, h, Ne.symm h]
    · rw [if_neg hs, node?, ih, node?, node?, if_neg hs]
      by_cases h : k = segment
      · simp [hs, h]
      · simp [h]

theorem keys_alter (segment : String) (t : PathTree) :
    (alter segment f t).keys = if segment ∈ t.keys then t.keys else t.keys ++ [segment] := by
  induction t with
  | nil => simp [alter, keys]
  | cons s d c r _ ih =>
    rw [alter]
    by_cases hs : s = segment
    · simp [keys, hs]
    · by_cases h : segment ∈ r.keys
      · simp [keys, hs, h, ih]
      · simp [keys, hs, h, ih, Ne.symm hs]

theorem Distinct.alter {segment : String} (hf : ∀ d c, c.Distinct → (f d c).2.Distinct)
    {t : PathTree} (ht : t.Distinct) : (t.alter segment f).Distinct := by
  induction t with
  | nil =>
    refine ⟨?_, hf none nil trivial, trivial⟩
    simp [keys]
  | cons s d c r _ ih =>
    obtain ⟨hs, hc, hr⟩ := ht
    rw [PathTree.alter]
    split
    · exact ⟨hs, hf d c hc, hr⟩
    · rename_i hne
      refine ⟨?_, hc, ih hr⟩
      rw [keys_alter]
      split
      · exact hs
      · simp [hs, hne]

end Alter

theorem Distinct.insert {v : Value} {s : String} {ss : List String} {t : PathTree}
    (ht : t.Distinct) : (insert s v ss t).Distinct := by
  induction ss generalizing s t with
  | nil => exact ht.alter fun _ _ hc => hc
  | cons s' ss ih => exact ht.alter fun _ _ hc => ih hc

/-- One path gets the value, and no other path changes. -/
theorem valueAt_insert (s : String) (v : Value) (ss : List String) (t : PathTree)
    (path : List String) :
    (insert s v ss t).valueAt path = if path = s :: ss then some v else t.valueAt path := by
  induction ss generalizing s t path with
  | nil =>
    match path with
    | [] => rfl
    | [k] =>
      by_cases h : k = s
      · simp [insert, valueAt, node?_alter, h]
      · simp [insert, valueAt, node?_alter, h]
    | k :: k' :: path =>
      by_cases h : k = s
      · cases hn : t.node? s <;> simp [insert, valueAt, node?_alter, h, hn]
      · simp [insert, valueAt, node?_alter, h]
  | cons s' ss ih =>
    match path with
    | [] => rfl
    | [k] =>
      by_cases h : k = s
      · cases hn : t.node? s <;> simp [insert, valueAt, node?_alter, h, hn]
      · simp [insert, valueAt, node?_alter, h]
    | k :: k' :: path =>
      by_cases h : k = s
      · cases hn : t.node? s <;> simp [insert, valueAt, node?_alter, h, hn, ih]
      · simp [insert, valueAt, node?_alter, h]

theorem Distinct.overlay {base top : PathTree} (hb : base.Distinct) :
    (base.overlay top).Distinct := by
  induction top generalizing base with
  | nil => exact hb
  | cons s d c r ihc ihr => exact ihr (hb.alter fun _ _ hc => ihc hc)

theorem node?_overlay (base : PathTree) {top : PathTree} (ht : top.Distinct) (k : String) :
    (base.overlay top).node? k =
      match top.node? k with
      | none => base.node? k
      | some (d, c) =>
        some (d.or ((base.node? k).getD (none, nil)).1,
          ((base.node? k).getD (none, nil)).2.overlay c) := by
  induction top generalizing base with
  | nil => rfl
  | cons s d c r _ ih =>
    obtain ⟨hs, -, hr⟩ := ht
    rw [overlay, ih _ hr, node?]
    by_cases h : s = k
    · have hn : r.node? k = none := node?_eq_none.2 (h ▸ hs)
      simp [h, hn, node?_alter]
    · simp [h, node?_alter, Ne.symm h]

/-- The values of the upper tree win, and those of the lower one show where it has none. -/
theorem valueAt_overlay (base : PathTree) {top : PathTree} (ht : top.Distinct)
    (path : List String) :
    (base.overlay top).valueAt path = (top.valueAt path).or (base.valueAt path) := by
  induction path generalizing base top with
  | nil => rfl
  | cons s ss ih =>
    cases hn : top.node? s with
    | none => cases ss <;> simp [valueAt, node?_overlay base ht, hn]
    | some n =>
      obtain ⟨d, c⟩ := n
      have hc := ht.of_node? hn
      cases ss with
      | nil => cases hb : base.node? s <;> simp [valueAt, node?_overlay base ht, hn, hb]
      | cons s' ss =>
        cases hb : base.node? s <;> simp [valueAt, node?_overlay base ht, hn, hb, ih _ hc]

section Entries
variable {scope : String}

theorem insertPath_eq_ok {key : String} {v : Value} {t u : PathTree}
    (h : insertPath scope key v t = .ok u) :
    "" ∉ Value.segments key ∧ ∃ s ss, Value.segments key = s :: ss ∧ u = insert s v ss t := by
  unfold insertPath at h
  split at h
  · cases h
  · rename_i s ss hs
    split at h
    · cases h
    · rename_i hne
      cases h
      exact ⟨hs ▸ hne, s, ss, hs, rfl⟩

theorem insertAll_cons_eq_ok {key : String} {v : Value} {es : List (String × Value)}
    {t u : PathTree} (h : insertAll scope ((key, v) :: es) t = .ok u) :
    ∃ t', insertPath scope key v t = .ok t' ∧ insertAll scope es t' = .ok u := by
  rw [insertAll] at h
  split at h
  · rename_i t' ht
    exact ⟨t', ht, h⟩
  · cases h

theorem Distinct.insertAll {es : List (String × Value)} {t u : PathTree} (ht : t.Distinct)
    (h : insertAll scope es t = .ok u) : u.Distinct := by
  induction es generalizing t with
  | nil =>
    cases h
    exact ht
  | cons e es ih =>
    obtain ⟨t', h', h⟩ := insertAll_cons_eq_ok h
    obtain ⟨-, s, ss, -, rfl⟩ := insertPath_eq_ok h'
    exact ih ht.insert h

theorem distinct_ofEntries {es : List (String × Value)} {t : PathTree}
    (h : ofEntries scope es = .ok t) : t.Distinct :=
  Distinct.insertAll (t := nil) trivial h

theorem valueAt_insertAll_of_notMem {es : List (String × Value)} {t u : PathTree}
    (h : insertAll scope es t = .ok u) {path : List String}
    (hp : ∀ e ∈ es, Value.segments e.1 ≠ path) : u.valueAt path = t.valueAt path := by
  induction es generalizing t with
  | nil =>
    cases h
    rfl
  | cons e es ih =>
    obtain ⟨t', h', h⟩ := insertAll_cons_eq_ok h
    obtain ⟨-, s, ss, hs, rfl⟩ := insertPath_eq_ok h'
    have hne : path ≠ s :: ss := fun he => hp e List.mem_cons_self (by rw [hs, he])
    rw [ih h fun e' he' => hp e' (List.mem_cons_of_mem _ he'), valueAt_insert, if_neg hne]

/-- In the tree of a map each key leads to its own value. -/
theorem valueAt_insertAll_of_mem {es : List (String × Value)} {t u : PathTree}
    (h : insertAll scope es t = .ok u) (hn : (es.map Prod.fst).Nodup) {key : String} {v : Value}
    (hm : (key, v) ∈ es) :
    "" ∉ Value.segments key ∧ u.valueAt (Value.segments key) = some v := by
  induction es generalizing t with
  | nil => simp at hm
  | cons e es ih =>
    obtain ⟨t', h', h⟩ := insertAll_cons_eq_ok h
    simp only [List.map_cons, List.nodup_cons] at hn
    rcases List.mem_cons.1 hm with rfl | hm
    · obtain ⟨hk, s, ss, hs, rfl⟩ := insertPath_eq_ok h'
      refine ⟨hk, ?_⟩
      have hne : ∀ e ∈ es, Value.segments e.1 ≠ Value.segments key := by
        intro e he heq
        have hkey : e.1 = key := (segments_inj hk heq.symm).symm
        exact hn.1 (List.mem_map.2 ⟨e, he, hkey⟩)
      rw [valueAt_insertAll_of_notMem h hne, valueAt_insert, if_pos hs]
    · exact ih h hn.2 hm

/-- What the tree of a map holds at a path is the value of a key of that path. -/
theorem mem_of_valueAt_insertAll {es : List (String × Value)} {t u : PathTree}
    (h : insertAll scope es t = .ok u) {path : List String} {v : Value}
    (hv : u.valueAt path = some v) :
    (∃ e ∈ es, Value.segments e.1 = path ∧ e.2 = v) ∨ t.valueAt path = some v := by
  induction es generalizing t with
  | nil =>
    cases h
    exact Or.inr hv
  | cons e es ih =>
    obtain ⟨t', h', h⟩ := insertAll_cons_eq_ok h
    obtain ⟨-, s, ss, hs, rfl⟩ := insertPath_eq_ok h'
    rcases ih h with ⟨e', he', hw⟩ | hw
    · exact Or.inl ⟨e', List.mem_cons_of_mem _ he', hw⟩
    · rw [valueAt_insert] at hw
      split at hw
      · rename_i hp
        exact Or.inl ⟨e, List.mem_cons_self, hs.trans hp.symm, Option.some.inj hw⟩
      · exact Or.inr hw

theorem valueAt_insertAll_ne_none {es : List (String × Value)} {t u : PathTree}
    (h : insertAll scope es t = .ok u) {path : List String}
    (hp : t.valueAt path ≠ none ∨ ∃ e ∈ es, Value.segments e.1 = path) :
    u.valueAt path ≠ none := by
  induction es generalizing t with
  | nil =>
    cases h
    simpa using hp
  | cons e es ih =>
    obtain ⟨t', h', h⟩ := insertAll_cons_eq_ok h
    obtain ⟨-, s, ss, hs, rfl⟩ := insertPath_eq_ok h'
    refine ih h ?_
    rw [valueAt_insert]
    by_cases he : path = s :: ss
    · simp [he]
    · rw [if_neg he]
      refine hp.imp_right ?_
      rintro ⟨e', he', rfl⟩
      rcases List.mem_cons.1 he' with rfl | he'
      · exact absurd hs he
      · exact ⟨e', he', rfl⟩

end Entries

/-- What holds of every value in a tree. -/
def All (P : Value → Prop) : PathTree → Prop
  | nil => True
  | cons _ d c r => (∀ v ∈ d, P v) ∧ c.All P ∧ r.All P

section All
variable {P : Value → Prop}

theorem All.alter {segment : String} {f : Option Value → PathTree → Option Value × PathTree}
    (hf : ∀ d c, (∀ v ∈ d, P v) → c.All P → (∀ v ∈ (f d c).1, P v) ∧ (f d c).2.All P)
    {t : PathTree} (ht : t.All P) : (t.alter segment f).All P := by
  induction t with
  | nil =>
    obtain ⟨hd, hc⟩ := hf none nil (by simp) trivial
    exact ⟨hd, hc, trivial⟩
  | cons s d c r _ ih =>
    obtain ⟨hd, hc, hr⟩ := ht
    rw [PathTree.alter]
    split
    · obtain ⟨hd, hc⟩ := hf d c hd hc
      exact ⟨hd, hc, hr⟩
    · exact ⟨hd, hc, ih hr⟩

theorem All.insert {v : Value} (hv : P v) {s : String} {ss : List String} {t : PathTree}
    (ht : t.All P) : (insert s v ss t).All P := by
  induction ss generalizing s t with
  | nil => exact ht.alter fun _ _ _ hc => ⟨by simpa using hv, hc⟩
  | cons s' ss ih => exact ht.alter fun _ _ hd hc => ⟨hd, ih hc⟩

theorem All.overlay {base top : PathTree} (hb : base.All P) (ht : top.All P) :
    (base.overlay top).All P := by
  induction top generalizing base with
  | nil => exact hb
  | cons s d c r ihc ihr =>
    obtain ⟨hd, hc, hr⟩ := ht
    refine ihr (hb.alter fun d' c' hd' hc' => ⟨?_, ihc hc' hc⟩) hr
    cases d with
    | none => exact hd'
    | some v => exact hd

theorem All.insertAll {scope : String} {es : List (String × Value)} {t u : PathTree} (ht : t.All P)
    (he : ∀ e ∈ es, P e.2) (h : insertAll scope es t = .ok u) : u.All P := by
  induction es generalizing t with
  | nil =>
    cases h
    exact ht
  | cons e es ih =>
    obtain ⟨t', h', h⟩ := insertAll_cons_eq_ok h
    obtain ⟨-, s, ss, -, rfl⟩ := insertPath_eq_ok h'
    exact ih (ht.insert (he e List.mem_cons_self))
      (fun e he' => he e (List.mem_cons_of_mem _ he')) h

theorem all_ofEntries {scope : String} {es : List (String × Value)} {t : PathTree}
    (he : ∀ e ∈ es, P e.2) (h : ofEntries scope es = .ok t) : t.All P :=
  All.insertAll (t := nil) trivial he h

end All

/-- Every node has a value of its own or nodes below it. -/
def Fruitful : PathTree → Prop
  | nil => True
  | cons _ d c r => (d ≠ none ∨ c ≠ nil) ∧ c.Fruitful ∧ r.Fruitful

section Fruitful
variable {f : Option Value → PathTree → Option Value × PathTree}

theorem alter_ne_nil (segment : String) (t : PathTree) : alter segment f t ≠ nil := by
  cases t with
  | nil => simp [alter]
  | cons s d c r =>
    rw [alter]
    split <;> simp

theorem insert_ne_nil (s : String) (v : Value) (ss : List String) (t : PathTree) :
    insert s v ss t ≠ nil := by
  cases ss <;> exact alter_ne_nil _ _

theorem overlay_ne_nil {base top : PathTree} (h : base ≠ nil ∨ top ≠ nil) :
    base.overlay top ≠ nil := by
  induction top generalizing base with
  | nil => simpa [overlay] using h
  | cons s d c r _ ih => exact ih (Or.inl (alter_ne_nil _ _))

theorem Fruitful.alter {segment : String} (hf : ∀ d c, c.Fruitful →
    ((f d c).1 ≠ none ∨ (f d c).2 ≠ nil) ∧ (f d c).2.Fruitful) {t : PathTree} (ht : t.Fruitful) :
    (t.alter segment f).Fruitful := by
  induction t with
  | nil =>
    obtain ⟨hd, hc⟩ := hf none nil trivial
    exact ⟨hd, hc, trivial⟩
  | cons s d c r _ ih =>
    obtain ⟨hd, hc, hr⟩ := ht
    rw [PathTree.alter]
    split
    · exact ⟨(hf d c hc).1, (hf d c hc).2, hr⟩
    · exact ⟨hd, hc, ih hr⟩

theorem Fruitful.insert {v : Value} {s : String} {ss : List String} {t : PathTree}
    (ht : t.Fruitful) : (insert s v ss t).Fruitful := by
  induction ss generalizing s t with
  | nil => exact ht.alter fun _ _ hc => ⟨Or.inl (by simp), hc⟩
  | cons s' ss ih => exact ht.alter fun _ _ hc => ⟨Or.inr (insert_ne_nil _ _ _ _), ih hc⟩

theorem Fruitful.overlay {base top : PathTree} (hb : base.Fruitful) (ht : top.Fruitful) :
    (base.overlay top).Fruitful := by
  induction top generalizing base with
  | nil => exact hb
  | cons s d c r ihc ihr =>
    obtain ⟨hd, hc, hr⟩ := ht
    refine ihr (hb.alter fun d' c' hc' => ⟨?_, ihc hc' hc⟩) hr
    rcases hd with hd | hd
    · left
      cases d with
      | none => exact absurd rfl hd
      | some v => simp
    · exact Or.inr (overlay_ne_nil (Or.inr hd))

theorem fruitful_insertAll {scope : String} {es : List (String × Value)} {t u : PathTree}
    (ht : t.Fruitful) (h : insertAll scope es t = .ok u) : u.Fruitful := by
  induction es generalizing t with
  | nil =>
    cases h
    exact ht
  | cons e es ih =>
    obtain ⟨t', h', h⟩ := insertAll_cons_eq_ok h
    obtain ⟨-, s, ss, -, rfl⟩ := insertPath_eq_ok h'
    exact ih ht.insert h

theorem Fruitful.of_node? {k : String} {d : Option Value} {c t : PathTree} (ht : t.Fruitful)
    (h : t.node? k = some (d, c)) : c.Fruitful := by
  induction t with
  | nil => simp at h
  | cons s d' c' r _ ih =>
    rw [node?] at h
    split at h
    · cases h
      exact ht.2.1
    · exact ih ht.2.2 h

theorem Fruitful.exists_valueAt_head {s : String} {d : Option Value} {c r : PathTree}
    (h : (cons s d c r).Fruitful) : ∃ path v, (cons s d c r).valueAt (s :: path) = some v := by
  induction c generalizing s d r with
  | nil =>
    cases d with
    | some v => exact ⟨[], v, by simp [valueAt, node?]⟩
    | none => exact absurd h.1 (by simp)
  | cons s' d' c' r' ih _ =>
    obtain ⟨path, v, hv⟩ := ih h.2.1
    exact ⟨s' :: path, v, by simpa [valueAt_cons, node?] using hv⟩

theorem Fruitful.exists_valueAt {t : PathTree} (ht : t.Fruitful) (hne : t ≠ nil) :
    ∃ path v, t.valueAt path = some v := by
  cases t with
  | nil => exact absurd rfl hne
  | cons s d c r =>
    obtain ⟨path, v, hv⟩ := ht.exists_valueAt_head
    exact ⟨s :: path, v, hv⟩

end Fruitful

end PathTree
end Fixture
