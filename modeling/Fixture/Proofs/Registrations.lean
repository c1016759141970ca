import Fixture.Catalogue.Basic
import Mathlib.Data.Finset.Card
import Mathlib.Data.List.Induction
import Mathlib.Data.String.Basic

/-! What a catalogue holds after any number of registrations. Under a name it has one generator for
each parameter list, the one that was registered last, and the parameter lists stand in the order in
which they were first registered. The order of all generators is by name and arity and leaves that
order alone. -/
namespace Fixture

namespace Generator

/-- The slot of a generator: there is one for each name and parameter list. -/
def key (g : Generator) : String × List ParamKind := (g.name, g.params)

/-- The order of the generators of a catalogue. -/
def Precedes (a b : Generator) : Prop := a.name < b.name ∨ a.name = b.name ∧ a.arity ≤ b.arity

theorem Precedes.trans {a b c : Generator} (h : a.Precedes b) (h' : b.Precedes c) :
    a.Precedes c := by
  rcases h with h | ⟨h, hab⟩
  · rcases h' with h' | ⟨h', -⟩
    · exact Or.inl (lt_trans h h')
    · exact Or.inl (h' ▸ h)
  · rcases h' with h' | ⟨h', hbc⟩
    · exact Or.inl (h ▸ h')
    · exact Or.inr ⟨h.trans h', hab.trans hbc⟩

theorem precedes_total (a b : Generator) : a.Precedes b ∨ b.Precedes a := by
  rcases lt_trichotomy a.name b.name with h | h | h
  · exact Or.inl (Or.inl h)
  · rcases le_total a.arity b.arity with ha | ha
    · exact Or.inl (Or.inr ⟨h, ha⟩)
    · exact Or.inr (Or.inr ⟨h.symm, ha⟩)
  · exact Or.inr (Or.inl h)

/-- The test that generators are sorted by. -/
def notAfter (a b : Generator) : Bool :=
  a.name < b.name || (a.name == b.name && a.arity ≤ b.arity)

theorem notAfter_iff {a b : Generator} : a.notAfter b = true ↔ a.Precedes b := by
  simp [notAfter, Precedes]

theorem notAfter_trans (a b c : Generator) (h : a.notAfter b = true) (h' : b.notAfter c = true) :
    a.notAfter c = true :=
  notAfter_iff.2 ((notAfter_iff.1 h).trans (notAfter_iff.1 h'))

theorem notAfter_total (a b : Generator) : (a.notAfter b || b.notAfter a) = true := by
  rw [Bool.or_eq_true]
  exact (precedes_total a b).imp notAfter_iff.2 notAfter_iff.2

end Generator

namespace Catalogue

section Log
variable (log : List Generator)

/-- The parameter lists registered under a name, in the order of their first registrations. -/
def shapes (name : String) : List (List ParamKind) :=
  ((log.filter (·.name == name)).map Generator.params).eraseDups

/-- The generator registered last for a name and a parameter list. -/
def latest? (name : String) (params : List ParamKind) : Option Generator :=
  log.reverse.find? fun g => g.name == name && g.params == params

variable {log} {name : String} {params : List ParamKind}

theorem mem_shapes : params ∈ shapes log name ↔ ∃ g ∈ log, g.name = name ∧ g.params = params := by
  simp [shapes, and_assoc]

theorem shapes_concat (g : Generator) :
    shapes (log ++ [g]) name =
      if g.name = name ∧ g.params ∉ shapes log name then shapes log name ++ [g.params]
      else shapes log name := by
  by_cases hg : g.name = name
  · by_cases hs : g.params ∈ shapes log name
    · have hold : g.params ∈ (log.filter (·.name == name)).map Generator.params :=
        List.mem_eraseDups.1 hs
      rw [if_neg (fun h => h.2 hs)]
      simp [shapes, hg, List.eraseDups_append, List.removeAll, hold]
    · have hnew : g.params ∉ (log.filter (·.name == name)).map Generator.params :=
        fun h => hs (List.mem_eraseDups.2 h)
      rw [if_pos ⟨hg, hs⟩]
      simp [shapes, hg, List.eraseDups_append, List.removeAll, hnew, List.eraseDups_cons]
  · simp [shapes, hg]

theorem nodup_shapes : (shapes log name).Nodup := by
  induction log using List.reverseRecOn with
  | nil => exact List.nodup_nil
  | append_singleton log g ih =>
    rw [shapes_concat]
    split
    · rename_i h
      refine List.nodup_append.2 ⟨ih, List.nodup_singleton _, ?_⟩
      rintro ps hps _ hqs rfl
      exact h.2 (List.mem_singleton.1 hqs ▸ hps)
    · exact ih

theorem latest?_concat (g : Generator) :
    latest? (log ++ [g]) name params =
      if g.name = name ∧ g.params = params then some g else latest? log name params := by
  unfold latest?
  by_cases h : g.name = name ∧ g.params = params
  · simp [h]
  · rw [if_neg h, List.reverse_append]
    simp [h]

end Log

section Place
variable {g h : Generator} {hs : List Generator}

theorem params_place : (place g hs).1.map Generator.params =
    if g.params ∈ hs.map Generator.params then hs.map Generator.params
    else hs.map Generator.params ++ [g.params] := by
  induction hs with
  | nil => simp [place]
  | cons k hs ih =>
    rw [place]
    by_cases hk : k.params = g.params
    · simp [hk]
    · by_cases hm : g.params ∈ hs.map Generator.params
      · simp [hk, ih, hm]
      · simp [hk, ih, hm, Ne.symm hk]

/-- The generator comes to stand in its slot, and no other slot changes. -/
theorem mem_place_iff (hn : (hs.map Generator.params).Nodup) :
    h ∈ (place g hs).1 ↔ h = g ∨ h ∈ hs ∧ h.params ≠ g.params := by
  induction hs with
  | nil => simp [place]
  | cons k hs ih =>
    obtain ⟨hk, hn⟩ := List.nodup_cons.1 hn
    rw [place]
    by_cases hkg : k.params = g.params
    · have hne : ∀ x ∈ hs, x.params ≠ g.params := by
        intro x hx he
        exact hk (List.mem_map.2 ⟨x, hx, he.trans hkg.symm⟩)
      rw [if_pos hkg, List.mem_cons, List.mem_cons]
      constructor
      · exact Or.imp_right fun hm => ⟨Or.inr hm, hne h hm⟩
      · rintro (rfl | ⟨rfl | hm, hp⟩)
        · exact Or.inl rfl
        · exact absurd hkg hp
        · exact Or.inr hm
    · rw [if_neg hkg, List.mem_cons, List.mem_cons, ih hn]
      constructor
      · rintro (rfl | rfl | ⟨hm, hp⟩)
        · exact Or.inr ⟨Or.inl rfl, hkg⟩
        · exact Or.inl rfl
        · exact Or.inr ⟨Or.inr hm, hp⟩
      · rintro (rfl | ⟨rfl | hm, hp⟩)
        · exact Or.inr (Or.inl rfl)
        · exact Or.inl rfl
        · exact Or.inr (Or.inr ⟨hm, hp⟩)

theorem snd_place : (place g hs).2 = hs.find? (·.params == g.params) := by
  induction hs with
  | nil => rfl
  | cons k hs ih =>
    rw [place]
    by_cases hk : k.params = g.params
    · simp [hk]
    · simp [hk, ih]

end Place

section Entries

/-- The generators listed under a name. -/
def under (name : String) (es : List (String × List Generator)) : List Generator :=
  (es.lookup name).getD []

@[simp] theorem under_nil (name : String) : under name [] = [] := rfl

theorem under_cons (name n : String) (hs : List Generator) (es : List (String × List Generator)) :
    under name ((n, hs) :: es) = if name = n then hs else under name es := by
  unfold under
  rw [List.lookup_cons]
  by_cases h : name = n
  · simp [h]
  · simp [h, beq_eq_false_iff_ne.2 h]

variable {g : Generator} {es : List (String × List Generator)} {name : String}

theorem under_eq_nil (h : name ∉ es.map Prod.fst) : under name es = [] := by
  induction es with
  | nil => rfl
  | cons e es ih =>
    obtain ⟨hne, hrest⟩ := List.ne_and_not_mem_of_not_mem_cons h
    rw [under_cons, if_neg hne, ih hrest]

theorem under_of_mem {hs : List Generator} (hn : (es.map Prod.fst).Nodup)
    (hm : (name, hs) ∈ es) : under name es = hs := by
  induction es with
  | nil => cases hm
  | cons e es ih =>
    obtain ⟨n, ks⟩ := e
    obtain ⟨hk, hn⟩ := List.nodup_cons.1 hn
    rw [under_cons]
    rcases List.mem_cons.1 hm with he | hrest
    · cases he
      rw [if_pos rfl]
    · have hname : name ∈ es.map Prod.fst := List.mem_map_of_mem hrest
      have hne : name ≠ n := fun he => hk (he ▸ hname)
      rw [if_neg hne, ih hn hrest]

theorem mem_names_placeNamed :
    name ∈ (placeNamed g es).1.map Prod.fst ↔ name = g.name ∨ name ∈ es.map Prod.fst := by
  induction es with
  | nil => simp [placeNamed]
  | cons e es ih =>
    obtain ⟨n, hs⟩ := e
    rw [placeNamed]
    by_cases hn : n = g.name
    · simp [hn]
    · by_cases hlt : g.name < n
      · simp [hn, hlt]
      · rw [if_neg hn, if_neg hlt, List.map_cons, List.mem_cons, ih, List.map_cons, List.mem_cons]
        exact or_left_comm

theorem sorted_placeNamed (h : (es.map Prod.fst).Pairwise (· < ·)) :
    ((placeNamed g es).1.map Prod.fst).Pairwise (· < ·) := by
  induction es with
  | nil => simp [placeNamed]
  | cons e es ih =>
    obtain ⟨n, hs⟩ := e
    obtain ⟨hlow, hrest⟩ := List.pairwise_cons.1 h
    rw [placeNamed]
    by_cases hn : n = g.name
    · rw [if_pos hn]
      exact h
    · by_cases hlt : g.name < n
      · rw [if_neg hn, if_pos hlt]
        refine List.pairwise_cons.2 ⟨fun m hm => ?_, h⟩
        rcases List.mem_cons.1 hm with rfl | hm
        · exact hlt
        · exact lt_trans hlt (hlow m hm)
      · rw [if_neg hn, if_neg hlt]
        refine List.pairwise_cons.2 ⟨fun m hm => ?_, ih hrest⟩
        rcases mem_names_placeNamed.1 hm with rfl | hm
        · exact lt_of_le_of_ne (not_lt.1 hlt) hn
        · exact hlow m hm

/-- A registration is made among the generators of its name, and no other name is concerned. -/
theorem under_placeNamed (h : (es.map Prod.fst).Pairwise (· < ·)) (name : String) :
    under name (placeNamed g es).1 =
        (if name = g.name then (place g (under g.name es)).1 else under name es) ∧
      (placeNamed g es).2 = (place g (under g.name es)).2 := by
  induction es with
  | nil =>
    rw [placeNamed, under_cons]
    exact ⟨rfl, rfl⟩
  | cons e es ih =>
    obtain ⟨n, hs⟩ := e
    obtain ⟨hlow, hrest⟩ := List.pairwise_cons.1 h
    rw [placeNamed]
    by_cases hn : n = g.name
    · subst hn
      simp only [if_true, under_cons]
      refine ⟨?_, trivial⟩
      by_cases hname : name = g.name
      · simp only [hname, if_true]
      · simp only [hname, if_false]
    · by_cases hlt : g.name < n
      · -- the names are sorted, so that of the generator does not follow either
        have hnil : under g.name ((n, hs) :: es) = [] := by
          apply under_eq_nil
          intro hm
          rcases List.mem_cons.1 hm with hm | hm
          · exact hn hm.symm
          · exact lt_asymm hlt (hlow _ hm)
        rw [if_neg hn, if_pos hlt, under_cons, hnil]
        exact ⟨rfl, rfl⟩
      · obtain ⟨hl, hp⟩ := ih hrest
        have hg : under g.name ((n, hs) :: es) = under g.name es := by
          rw [under_cons, if_neg (Ne.symm hn)]
        rw [if_neg hn, if_neg hlt, hg]
        refine ⟨?_, hp⟩
        rw [under_cons, hl, under_cons]
        by_cases hname : name = n
        · rw [if_pos hname, if_pos hname, if_neg (fun he => hn (hname.symm.trans he))]
        · rw [if_neg hname, if_neg hname]

end Entries

section Lists

theorem flatMap_ite_eq {names : List String} (hn : names.Nodup) (name : String)
    (gs : List Generator) :
    names.flatMap (fun m => if m = name then gs else []) = if name ∈ names then gs else [] := by
  induction names with
  | nil => rfl
  | cons m names ih =>
    obtain ⟨hm, hn⟩ := List.nodup_cons.1 hn
    rw [List.flatMap_cons, ih hn]
    by_cases he : m = name
    · have hname : name ∉ names := he ▸ hm
      simp [he, hname]
    · simp [he, Ne.symm he]

/-- Sorting leaves those in their order that it has no reason to move. -/
theorem filter_mergeSort {α : Type} {le : α → α → Bool} (trans : ∀ a b c, le a b → le b c → le a c)
    (total : ∀ a b, le a b || le b a) {p : α → Bool} (hp : ∀ a b, p a → p b → le a b)
    (l : List α) : (l.mergeSort le).filter p = l.filter p := by
  have hpair : (l.filter p).Pairwise fun a b => le a b = true := by
    apply List.pairwise_of_forall_mem_list
    intro a ha b hb
    exact hp a b (List.mem_filter.1 ha).2 (List.mem_filter.1 hb).2
  have hsub : (l.filter p).Sublist (l.mergeSort le) :=
    List.sublist_mergeSort trans total hpair List.filter_sublist
  have hsub : (l.filter p).Sublist ((l.mergeSort le).filter p) := by
    simpa [List.filter_filter] using hsub.filter p
  exact (hsub.eq_of_length ((List.mergeSort_perm l le).filter p).length_eq.symm).symm

end Lists

section Runs
variable {o : Options} {log : List Generator} {c : Catalogue}

theorem overloads_eq_under (c : Catalogue) (name : String) :
    c.overloads name = under name c.entries := rfl

/-- What every registration keeps: the names are sorted, and under each of them stand the latest
generators of its parameter lists in the order of their first registrations. -/
structure Sound (log : List Generator) (c : Catalogue) : Prop where
  sorted : c.names.Pairwise (· < ·)
  named : ∀ n, n ∈ c.names ↔ ∃ g ∈ log, g.name = n
  shapes_eq : ∀ n, (c.overloads n).map Generator.params = shapes log n
  latest : ∀ n, ∀ g ∈ c.overloads n, latest? log n g.params = some g

theorem Sound.empty (o : Options) : Sound [] (.empty o) where
  sorted := List.Pairwise.nil
  named := by simp [names, Catalogue.empty]
  shapes_eq _ := rfl
  latest _ _ hg := nomatch hg

variable (h : Sound log c)
include h

theorem Sound.overloads_register (g : Generator) (n : String) :
    (c.register g).1.overloads n =
      if n = g.name then (place g (c.overloads g.name)).1 else c.overloads n :=
  (under_placeNamed h.sorted n).1

theorem Sound.nodup_params (n : String) : ((c.overloads n).map Generator.params).Nodup := by
  rw [h.shapes_eq]
  exact nodup_shapes

theorem Sound.register (g : Generator) : Sound (log ++ [g]) (c.register g).1 where
  sorted := sorted_placeNamed h.sorted
  named n := by
    have hnames : n ∈ (c.register g).1.names ↔ n = g.name ∨ n ∈ c.names := mem_names_placeNamed
    rw [hnames, h.named]
    simp [or_comm, eq_comm]
  shapes_eq n := by
    rw [h.overloads_register, shapes_concat]
    by_cases hn : n = g.name
    · rw [if_pos hn, params_place, h.shapes_eq, hn]
      by_cases hm : g.params ∈ shapes log g.name
      · simp [hm]
      · simp [hm]
    · rw [if_neg hn, h.shapes_eq, if_neg (fun hg => hn hg.1.symm)]
  latest n k hk := by
    rw [h.overloads_register] at hk
    rw [latest?_concat]
    by_cases hn : n = g.name
    · rw [if_pos hn, mem_place_iff (h.nodup_params _)] at hk
      rcases hk with rfl | ⟨hk, hp⟩
      · rw [if_pos ⟨hn.symm, rfl⟩]
      · rw [if_neg (fun hg => hp hg.2.symm), hn]
        exact h.latest _ k hk
    · rw [if_neg hn] at hk
      rw [if_neg (fun hg => hn hg.1.symm)]
      exact h.latest n k hk

theorem Sound.register_eq_find? (g : Generator) :
    (c.register g).2 = (c.overloads g.name).find? (·.params == g.params) :=
  (under_placeNamed h.sorted g.name).2.trans snd_place

theorem Sound.register_snd (g : Generator) : (c.register g).2 = latest? log g.name g.params := by
  rw [h.register_eq_find?]
  cases hf : (c.overloads g.name).find? (·.params == g.params) with
  | some k =>
    have hk : k.params = g.params := by simpa using List.find?_some hf
    rw [← hk]
    exact (h.latest _ k (List.mem_of_find?_eq_some hf)).symm
  | none =>
    have hnew : g.params ∉ shapes log g.name := by
      rw [← h.shapes_eq]
      intro hm
      obtain ⟨k, hk, hp⟩ := List.mem_map.1 hm
      exact List.find?_eq_none.1 hf k hk (beq_iff_eq.2 hp)
    symm
    apply List.find?_eq_none.2
    intro k hk hm
    apply hnew
    rw [mem_shapes]
    exact ⟨k, List.mem_reverse.1 hk, by simpa using hm⟩

theorem Sound.name_eq {n : String} {g : Generator} (hg : g ∈ c.overloads n) : g.name = n := by
  have hkey : (g.name == n && g.params == g.params) = true :=
    List.find?_some (p := fun k : Generator => k.name == n && k.params == g.params)
      (h.latest n g hg)
  simpa using hkey

theorem Sound.nodup_names : c.names.Nodup := h.sorted.imp fun hlt => ne_of_lt hlt

theorem Sound.overloads_ne_nil {n : String} (hn : n ∈ c.names) : c.overloads n ≠ [] := by
  obtain ⟨g, hg, hname⟩ := (h.named n).1 hn
  intro hnil
  have hshape : g.params ∈ shapes log n := mem_shapes.2 ⟨g, hg, hname, rfl⟩
  rw [← h.shapes_eq, hnil] at hshape
  cases hshape

theorem Sound.generators_eq : c.generators = c.names.flatMap c.overloads := by
  have hsorted : (c.entries.map Prod.fst).Nodup := h.nodup_names
  rw [generators, names, List.flatMap_map]
  apply List.flatMap_congr
  intro e he
  rw [overloads_eq_under, under_of_mem hsorted he]

theorem Sound.isEmpty_iff : c.isEmpty = true ↔ c.size = 0 := by
  have hempty : c.isEmpty = true ↔ c.names = [] := by simp [isEmpty, names]
  rw [hempty, size, List.length_eq_zero_iff, h.generators_eq, List.flatMap_eq_nil_iff]
  constructor
  · intro hnil n hn
    rw [hnil] at hn
    cases hn
  · intro hall
    rw [List.eq_nil_iff_forall_not_mem]
    intro n hn
    exact h.overloads_ne_nil hn (hall n hn)

theorem Sound.map_key_overloads (n : String) :
    (c.overloads n).map Generator.key = (shapes log n).map fun ps => (n, ps) := by
  rw [← h.shapes_eq, List.map_map]
  apply List.map_congr_left
  intro g hg
  rw [Generator.key, h.name_eq hg]
  rfl

theorem Sound.nodup_keys : (c.generators.map Generator.key).Nodup := by
  rw [h.generators_eq, List.map_flatMap, List.nodup_flatMap]
  constructor
  · intro n _
    rw [h.map_key_overloads]
    exact nodup_shapes.map fun _ _ he => (Prod.mk.inj he).2
  · refine h.nodup_names.imp fun {n m} hne => ?_
    show List.Disjoint ((c.overloads n).map Generator.key) ((c.overloads m).map Generator.key)
    rw [h.map_key_overloads, h.map_key_overloads]
    intro k hk hk'
    obtain ⟨ps, -, rfl⟩ := List.mem_map.1 hk
    obtain ⟨qs, -, he⟩ := List.mem_map.1 hk'
    exact hne (Prod.mk.inj he).1.symm

/-- There is a generator for each slot that one was registered for. -/
theorem Sound.size_eq : c.size = (log.map Generator.key).toFinset.card := by
  have hkeys : (c.generators.map Generator.key).toFinset = (log.map Generator.key).toFinset := by
    ext ⟨n, ps⟩
    rw [List.mem_toFinset, List.mem_toFinset, h.generators_eq, List.map_flatMap, List.mem_flatMap]
    simp only [h.map_key_overloads, List.mem_map, mem_shapes, Prod.mk.injEq, Generator.key]
    constructor
    · rintro ⟨m, -, qs, ⟨g, hg, hn, hp⟩, rfl, rfl⟩
      exact ⟨g, hg, hn, hp⟩
    · rintro ⟨g, hg, hn, hp⟩
      exact ⟨n, (h.named n).2 ⟨g, hg, hn⟩, ps, ⟨g, hg, hn, hp⟩, rfl, rfl⟩
  rw [← hkeys, List.toFinset_card_of_nodup h.nodup_keys, List.length_map]
  rfl

/-- The generators of a name and an arity stand among all generators in the order of their slots. -/
theorem Sound.filter_generators (n : String) (arity : Nat) :
    c.generators.filter (fun g => g.name == n && g.arity == arity) = c.candidates n arity := by
  have hname : ∀ m, (c.overloads m).filter (fun g => g.name == n && g.arity == arity) =
      if m = n then c.candidates n arity else [] := by
    intro m
    by_cases hm : m = n
    · rw [if_pos hm, candidates, ← hm]
      apply List.filter_congr
      intro g hg
      simp [h.name_eq hg]
    · rw [if_neg hm, List.filter_eq_nil_iff]
      intro g hg
      simp [h.name_eq hg, hm]
  rw [h.generators_eq, List.filter_flatMap, List.flatMap_congr fun m _ => hname m,
    flatMap_ite_eq h.nodup_names]
  split
  · rfl
  · rename_i hn
    have hnil : c.overloads n = [] := under_eq_nil hn
    rw [candidates, hnil]
    rfl

end Runs

theorem sound_registerAll (o : Options) (log : List Generator) :
    Sound log ((Catalogue.empty o).registerAll log) := by
  induction log using List.reverseRecOn with
  | nil => exact .empty o
  | append_singleton log g ih =>
    rw [registerAll, List.foldl_concat]
    exact ih.register g

theorem directives_eq (c : Catalogue) : c.directives = c.generators.mergeSort Generator.notAfter :=
  rfl

theorem sorted_directives (c : Catalogue) : c.directives.Pairwise Generator.Precedes :=
  (List.pairwise_mergeSort Generator.notAfter_trans Generator.notAfter_total c.generators).imp
    Generator.notAfter_iff.1

theorem filter_directives (c : Catalogue) (n : String) (arity : Nat) :
    c.directives.filter (fun g => g.name == n && g.arity == arity) =
      c.generators.filter fun g => g.name == n && g.arity == arity := by
  rw [directives_eq]
  apply filter_mergeSort Generator.notAfter_trans Generator.notAfter_total
  intro a b ha hb
  simp only [Bool.and_eq_true, beq_iff_eq] at ha hb
  exact Generator.notAfter_iff.2 (Or.inr ⟨ha.1.trans hb.1.symm, (ha.2.trans hb.2.symm).le⟩)

/-- After any registrations, starting with none. Under each name the parameter lists are different,
stand in the order of their first registrations, and each has the generator that was registered last
for it. A further registration returns the generator that stood in its slot, if there was one. There
are as many generators as different slots registered for; the names are those registered, sorted;
and all generators are sorted by name and arity, the overloads of one arity in the order of their
slots. -/
theorem registerAll_slots (o : Options) (log : List Generator) :
    let c := (Catalogue.empty o).registerAll log
    (∀ n, ((c.overloads n).map Generator.params).Nodup ∧
      (c.overloads n).map Generator.params = shapes log n ∧
      ∀ g ∈ c.overloads n, g.name = n ∧ latest? log n g.params = some g) ∧
    (∀ g, (c.register g).2 = (c.overloads g.name).find? (·.params == g.params) ∧
      (c.register g).2 = latest? log g.name g.params) ∧
    c.size = (log.map Generator.key).toFinset.card ∧ (c.isEmpty = true ↔ c.size = 0) ∧
    c.names.Pairwise (· < ·) ∧ (∀ n, n ∈ c.names ↔ ∃ g ∈ log, g.name = n) ∧
    c.directives.Perm (c.names.flatMap c.overloads) ∧ c.directives.Pairwise Generator.Precedes ∧
    ∀ n arity, c.directives.filter (fun g => g.name == n && g.arity == arity) =
      (c.overloads n).filter (·.arity == arity) := by
  intro c
  have h : Sound log c := sound_registerAll o log
  refine ⟨fun n => ⟨h.nodup_params n, h.shapes_eq n, fun g hg => ⟨h.name_eq hg, h.latest n g hg⟩⟩,
    fun g => ⟨h.register_eq_find? g, h.register_snd g⟩, h.size_eq, h.isEmpty_iff, h.sorted, h.named,
    ?held, sorted_directives c, fun n arity => ?stable⟩
  case held =>
    rw [← h.generators_eq]
    exact List.mergeSort_perm ..
  case stable =>
    rw [filter_directives]
    exact h.filter_generators n arity

end Catalogue
end Fixture
