import Fixture.Proofs.PathTree

/-! Keys folded into a tree one after another. Each key leads to its own value and no other path
does, so the order in which the keys are taken shows only in the order of siblings. -/
namespace Fixture

namespace Value

theorem dot_notMem_of_mem_splitOn {s p : List Char} (h : p ∈ s.splitOn '.') : '.' ∉ p := by
  induction s generalizing p with
  | nil => simp_all
  | cons c s ih =>
    rw [List.splitOn_cons_eq_if_modifyHead] at h
    by_cases hc : c = '.'
    · simp only [hc, beq_self_eq_true, if_true, List.mem_cons] at h
      obtain rfl | h := h
      · exact List.not_mem_nil
      · exact ih h
    · cases hs : s.splitOn '.' with
      | nil => exact absurd hs (List.splitOn_ne_nil '.' s)
      | cons q qs =>
        simp only [hs, beq_iff_eq, hc, if_false, List.modifyHead_cons, List.mem_cons] at h
        rw [hs] at ih
        obtain rfl | h := h
        · simp [Ne.symm hc, ih List.mem_cons_self]
        · exact ih (List.mem_cons_of_mem _ h)

theorem segments_eq_iff {key : String} {path : List String} :
    segments key = path ↔
      path ≠ [] ∧ (∀ s ∈ path, '.' ∉ s.toList) ∧ ".".intercalate path = key := by
  constructor
  · rintro rfl
    refine ⟨segments_ne_nil key, ?_, ?_⟩
    · intro s hs
      obtain ⟨p, hp, rfl⟩ := List.mem_map.1 hs
      simpa using dot_notMem_of_mem_splitOn hp
    · exact intercalate_segments key
  · rintro ⟨hne, hdots, rfl⟩
    have hsplit : (['.'].intercalate (path.map String.toList)).splitOn '.' =
        path.map String.toList :=
      List.splitOn_intercalate '.' (by simpa using hdots) (by simpa using hne)
    simp [segments, hsplit, Function.comp_def]

end Value

namespace PathTree

section Order

/-- Trees that are equal up to the order of siblings, on every level. -/
inductive Rearranged : PathTree → PathTree → Prop
  | nil : Rearranged nil nil
  | cons (segment : String) (direct : Option Value) {c c' r r' : PathTree}
      (below : Rearranged c c') (beside : Rearranged r r') :
      Rearranged (cons segment direct c r) (cons segment direct c' r')
  | swap (s s' : String) (d d' : Option Value) (c c' r : PathTree) :
      Rearranged (cons s d c (cons s' d' c' r)) (cons s' d' c' (cons s d c r))
  | trans {t u v : PathTree} (h : Rearranged t u) (h' : Rearranged u v) : Rearranged t v

theorem Rearranged.refl (t : PathTree) : Rearranged t t := by
  induction t with
  | nil => exact .nil
  | cons s d c r ihc ihr => exact .cons s d ihc ihr

theorem Rearranged.symm {t u : PathTree} (h : Rearranged t u) : Rearranged u t := by
  induction h with
  | nil => exact .nil
  | cons s d _ _ ihc ihr => exact .cons s d ihc ihr
  | swap s s' d d' c c' r => exact .swap s' s d' d c' c r
  | trans _ _ ih ih' => exact .trans ih' ih

/-- The tree without the first node of a segment. -/
def without (segment : String) : PathTree → PathTree
  | nil => nil
  | cons s d c r => if s = segment then r else cons s d c (r.without segment)

variable {t u : PathTree} {k : String}

theorem rearranged_without {d : Option Value} {c : PathTree} (h : t.node? k = some (d, c)) :
    Rearranged t (cons k d c (t.without k)) := by
  induction t with
  | nil => simp at h
  | cons s d' c' r _ ih =>
    rw [node?] at h
    rw [without]
    split at h
    · rename_i hs
      cases h
      rw [if_pos hs, hs]
      exact .refl _
    · rename_i hs
      rw [if_neg hs]
      exact .trans (.cons s d' (.refl c') (ih h)) (.swap _ _ _ _ _ _ _)

theorem keys_without_subset (t : PathTree) (k : String) : (t.without k).keys ⊆ t.keys := by
  induction t with
  | nil => simp [without]
  | cons s d c r _ ih =>
    rw [without]
    split
    · exact List.subset_cons_self _ _
    · exact List.cons_subset_cons _ ih

theorem node?_without_of_ne {k' : String} (h : k' ≠ k) (t : PathTree) :
    (t.without k).node? k' = t.node? k' := by
  induction t with
  | nil => rfl
  | cons s d c r _ ih =>
    rw [without, node?]
    split
    · rename_i hs
      rw [if_neg fun he => h (he.symm.trans hs)]
    · rw [node?, ih]

theorem Distinct.node?_without (ht : t.Distinct) (k : String) : (t.without k).node? k = none := by
  induction t with
  | nil => rfl
  | cons s d c r _ ih =>
    rw [without]
    split
    · rename_i hs
      exact node?_eq_none.2 (hs ▸ ht.1)
    · rename_i hs
      rw [node?, if_neg hs, ih ht.2.2]

theorem Distinct.without (ht : t.Distinct) : (t.without k).Distinct := by
  induction t with
  | nil => trivial
  | cons s d c r _ ih =>
    rw [PathTree.without]
    split
    · exact ht.2.2
    · exact ⟨fun h => ht.1 (keys_without_subset r k h), ht.2.1, ih ht.2.2⟩

theorem Fruitful.without (ht : t.Fruitful) : (t.without k).Fruitful := by
  induction t with
  | nil => trivial
  | cons s d c r _ ih =>
    rw [PathTree.without]
    split
    · exact ht.2.2
    · exact ⟨ht.1, ht.2.1, ih ht.2.2⟩

/-- A tree in which every node leads to a value is determined by its values, but for the order of
siblings. -/
theorem rearranged_of_valueAt (ht : t.Distinct) (hu : u.Distinct) (hft : t.Fruitful)
    (hfu : u.Fruitful) (h : ∀ path, t.valueAt path = u.valueAt path) : Rearranged t u := by
  induction t generalizing u with
  | nil =>
    cases u with
    | nil => exact .nil
    | cons =>
      obtain ⟨path, v, hv⟩ := hfu.exists_valueAt_head
      rw [← h, valueAt_nil] at hv
      cases hv
  | cons s d c r ihc ihr =>
    -- the node of the first segment, brought to the front of the other tree
    obtain ⟨path, v, hv⟩ := hft.exists_valueAt_head
    obtain ⟨d', c', hn⟩ := exists_node?_of_valueAt ((h _).symm.trans hv)
    have hs : (cons s d c r).node? s = some (d, c) := by simp [node?]
    have hd : d = d' := by simpa [valueAt, hs, hn] using h [s]
    have hc : ∀ path, c.valueAt path = c'.valueAt path := by
      intro path
      cases path with
      | nil => rfl
      | cons k path => simpa [valueAt_cons s, hs, hn] using h (s :: k :: path)
    have hr : ∀ path, r.valueAt path = (u.without s).valueAt path := by
      intro path
      cases path with
      | nil => rfl
      | cons k path =>
        by_cases hk : k = s
        · apply valueAt_congr
          rw [hk, hu.node?_without, node?_eq_none.2 ht.1]
        · calc r.valueAt (k :: path)
              = (cons s d c r).valueAt (k :: path) :=
                valueAt_congr (by rw [node?, if_neg (Ne.symm hk)]) path
            _ = u.valueAt (k :: path) := h _
            _ = (u.without s).valueAt (k :: path) :=
                valueAt_congr (node?_without_of_ne hk u).symm path
    have hcc := ihc ht.2.1 (hu.of_node? hn) hft.2.1 (hfu.of_node? hn) hc
    have hrr := ihr ht.2.2 hu.without hft.2.2 hfu.without hr
    rw [hd]
    exact .trans (.cons s d' hcc hrr) (rearranged_without hn).symm

end Order

section Entries
variable {scope : String} {es : List (String × Value)}

theorem exists_insertPath_iff (scope : String) {key : String} (v : Value) (t : PathTree) :
    (∃ u, insertPath scope key v t = .ok u) ↔ "" ∉ Value.segments key := by
  constructor
  · rintro ⟨u, h⟩
    exact (insertPath_eq_ok h).1
  · intro h
    rw [insertPath]
    split
    · rename_i hs
      exact absurd hs (Value.segments_ne_nil key)
    · rename_i s ss hs
      rw [hs] at h
      exact ⟨_, if_neg h⟩

/-- Only a key with an empty segment is refused, and it is whatever stands beside it. -/
theorem exists_insertAll_iff {t : PathTree} :
    (∃ u, insertAll scope es t = .ok u) ↔ ∀ e ∈ es, "" ∉ Value.segments e.1 := by
  induction es generalizing t with
  | nil => simp [insertAll]
  | cons e es ih =>
    obtain ⟨key, v⟩ := e
    rw [List.forall_mem_cons, ← exists_insertPath_iff scope v t]
    constructor
    · rintro ⟨u, h⟩
      obtain ⟨t', ht, h⟩ := insertAll_cons_eq_ok h
      exact ⟨⟨t', ht⟩, ih.1 ⟨u, h⟩⟩
    · rintro ⟨⟨t', ht⟩, hes⟩
      obtain ⟨u, h⟩ := (ih (t := t')).2 hes
      refine ⟨u, ?_⟩
      rw [insertAll, ht]
      exact h

theorem valueAt_ofEntries_iff {t : PathTree} (h : ofEntries scope es = .ok t)
    (hn : (es.map Prod.fst).Nodup) {path : List String} {v : Value} :
    t.valueAt path = some v ↔ ∃ key, (key, v) ∈ es ∧ Value.segments key = path := by
  constructor
  · intro hv
    rcases mem_of_valueAt_insertAll h hv with ⟨e, he, hs, rfl⟩ | hv
    · exact ⟨e.1, he, hs⟩
    · simp at hv
  · rintro ⟨key, hm, rfl⟩
    exact (valueAt_insertAll_of_mem h hn hm).2

/-- Keys that are all different fold into a tree exactly if none has an empty segment. The tree has
their values at their paths and no others, no segment twice on a level, and it is the same for every
order of the keys but for the order of siblings. -/
theorem ofEntries_folds (scope : String) {entries : List (String × Value)}
    (hn : (entries.map Prod.fst).Nodup) :
    ((∃ t, ofEntries scope entries = .ok t) ↔ ∀ e ∈ entries, "" ∉ Value.segments e.1) ∧
      ∀ t, ofEntries scope entries = .ok t →
        t.Distinct ∧
        (∀ path v, t.valueAt path = some v ↔
          path ≠ [] ∧ (∀ s ∈ path, '.' ∉ s.toList) ∧ (".".intercalate path, v) ∈ entries) ∧
        ∀ entries', entries'.Perm entries →
          ∃ u, ofEntries scope entries' = .ok u ∧ Rearranged t u := by
  have hok : (∃ t, ofEntries scope entries = .ok t) ↔ ∀ e ∈ entries, "" ∉ Value.segments e.1 :=
    exists_insertAll_iff
  refine ⟨hok, fun t ht => ⟨distinct_ofEntries ht, fun path v => ?values, fun es' hp => ?order⟩⟩
  case values =>
    rw [valueAt_ofEntries_iff ht hn]
    constructor
    · rintro ⟨key, hm, hs⟩
      obtain ⟨hne, hdots, rfl⟩ := Value.segments_eq_iff.1 hs
      exact ⟨hne, hdots, hm⟩
    · rintro ⟨hne, hdots, hm⟩
      exact ⟨_, hm, Value.segments_eq_iff.2 ⟨hne, hdots, rfl⟩⟩
  case order =>
    have hall := hok.1 ⟨t, ht⟩
    obtain ⟨u, hu⟩ : ∃ u, ofEntries scope es' = .ok u :=
      exists_insertAll_iff.2 fun e he => hall e (hp.mem_iff.1 he)
    have hn' : (es'.map Prod.fst).Nodup := (hp.map Prod.fst).nodup_iff.2 hn
    refine ⟨u, hu, rearranged_of_valueAt (distinct_ofEntries ht) (distinct_ofEntries hu)
      (fruitful_insertAll (t := .nil) trivial ht) (fruitful_insertAll (t := .nil) trivial hu) ?_⟩
    intro path
    apply Option.ext
    intro v
    rw [valueAt_ofEntries_iff ht hn, valueAt_ofEntries_iff hu hn']
    simp only [hp.mem_iff]

end Entries
end PathTree

namespace Sample

/-- A person's rules, the one for the home given after a deeper one. -/
def homeKeys : List (String × Value) :=
  [("name", .text "Ada"), ("home.city", .text "Paris"), ("home", .null)]

end Sample

theorem ofEntries_folds_homeKeys :
    (Sample.homeKeys.map Prod.fst).Nodup ∧
      (∀ e ∈ Sample.homeKeys, "" ∉ Value.segments e.1) ∧
      ∃ t u, PathTree.ofEntries "" Sample.homeKeys = .ok t ∧
        PathTree.ofEntries "" Sample.homeKeys.reverse = .ok u ∧
        t.valueAt ["home", "city"] = some (.text "Paris") ∧ t.keys = ["name", "home"] ∧
        u.keys = ["home", "name"] ∧ t.Rearranged u := by
  have hn : (Sample.homeKeys.map Prod.fst).Nodup := by decide
  have hs : ∀ e ∈ Sample.homeKeys, "" ∉ Value.segments e.1 := by decide
  obtain ⟨hok, hall⟩ := PathTree.ofEntries_folds "" hn
  obtain ⟨t, ht⟩ := hok.2 hs
  obtain ⟨-, hvalues, horder⟩ := hall t ht
  obtain ⟨u, hu, hr⟩ := horder _ (List.reverse_perm Sample.homeKeys)
  have hcity : ("home.city", Value.text "Paris") ∈ Sample.homeKeys :=
    List.mem_cons_of_mem _ List.mem_cons_self
  refine ⟨hn, hs, t, u, ht, hu, (hvalues _ _).2 ⟨by simp, by decide, hcity⟩, ?_, ?_, hr⟩
  · cases ht
    rfl
  · cases hu
    rfl

end Fixture
