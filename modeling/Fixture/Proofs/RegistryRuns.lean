import Fixture.Factory
import Fixture.Proofs.Generation
import Mathlib.Data.Finset.Card
import Mathlib.Logic.Function.Basic

/-! A registry in the hands of many callers. To set rules a caller compiles them and then, if they
compile, makes the binding the current one; between the two steps the others may do anything.
Whatever the order of the steps, the entry of a type is the binding that was made its current one
last. -/
namespace Fixture
namespace Registry

section Entries
variable {type : TypeName} {b : Binding}

theorem lookup_cons (e : TypeName × Binding) (es : List (TypeName × Binding)) (t : TypeName) :
    (e :: es).lookup t = if t = e.1 then some e.2 else es.lookup t := by
  rw [List.lookup_cons]
  by_cases h : t = e.1
  · simp [h]
  · simp [h, beq_eq_false_iff_ne.2 h]

theorem lookup_insertBinding (es : List (TypeName × Binding)) (t : TypeName) :
    (insertBinding type b es).lookup t = if t = type then some b else es.lookup t := by
  induction es with
  | nil => simp [insertBinding, lookup_cons]
  | cons e es ih =>
    rw [insertBinding]
    by_cases he : e.1 = type
    · by_cases h : t = type
      · simp [he, h]
      · simp [lookup_cons, he, h]
    · by_cases h : t = e.1
      · simp [lookup_cons, he, h]
      · simp [lookup_cons, he, h, ih]

theorem keys_insertBinding (es : List (TypeName × Binding)) :
    (insertBinding type b es).map Prod.fst =
      if type ∈ es.map Prod.fst then es.map Prod.fst else es.map Prod.fst ++ [type] := by
  induction es with
  | nil => simp [insertBinding]
  | cons e es ih =>
    rw [insertBinding]
    by_cases he : e.1 = type
    · simp [he]
    · by_cases h : type ∈ es.map Prod.fst
      · simp [he, ih, h]
      · simp [he, ih, h, Ne.symm he]

theorem nodup_keys_insertBinding {es : List (TypeName × Binding)} (h : (es.map Prod.fst).Nodup) :
    ((insertBinding type b es).map Prod.fst).Nodup := by
  rw [keys_insertBinding]
  split
  · exact h
  · rename_i hm
    refine List.nodup_append.2 ⟨h, List.nodup_singleton _, ?_⟩
    rintro t ht _ hu rfl
    exact hm (List.mem_singleton.1 hu ▸ ht)

theorem mem_keys_iff {r : Registry} {t : TypeName} :
    t ∈ r.bindings.map Prod.fst ↔ r.contains t = true := by
  unfold contains
  induction r.bindings with
  | nil => simp
  | cons e es ih =>
    rw [lookup_cons, List.map_cons, List.mem_cons, ih]
    by_cases h : t = e.1
    · simp [h]
    · simp [h]

theorem get?_insert (r : Registry) (t : TypeName) :
    (r.insert type b).get? t = if t = type then some ⟨type, b, r.catalogue⟩ else r.get? t := by
  by_cases h : t = type
  · simp [get?, insert, lookup_insertBinding, h]
  · simp [get?, insert, lookup_insertBinding, h]

end Entries

/-- A registry and its callers. -/
structure System (κ : Type) where
  registry : Registry
  /-- What a caller has compiled and not yet made the current binding of its type. -/
  pending : κ → Option Factory

/-- What a step did. A caller who sets rules has its answer with `refused` or `inserted`. -/
inductive Event (κ : Type) where
  | refused (caller : κ) (type : TypeName) (fault : Fault)
  | compiled (caller : κ) (type : TypeName) (f : Factory)
  | inserted (caller : κ) (f : Factory)
  | got (caller : κ) (type : TypeName) (answer : Option Factory)

section Steps
variable {κ : Type} [DecidableEq κ] (types : Types)

/-- One step of one caller. -/
inductive Step : System κ → Event κ → System κ → Prop
  | refused {s : System κ} {c : κ} {type : TypeName} {rules : Value} {e : Fault}
      (idle : s.pending c = none)
      (h : Factory.compile types s.registry.catalogue type rules = .error e) :
      Step s (.refused c type e) s
  | compiled {s : System κ} {c : κ} {type : TypeName} {rules : Value} {f : Factory}
      (idle : s.pending c = none)
      (h : Factory.compile types s.registry.catalogue type rules = .ok f) :
      Step s (.compiled c type f) ⟨s.registry, Function.update s.pending c (some f)⟩
  | inserted {s : System κ} {c : κ} {f : Factory} (h : s.pending c = some f) :
      Step s (.inserted c f)
        ⟨s.registry.insert f.type f.binding, Function.update s.pending c none⟩
  | got {s : System κ} {c : κ} {type : TypeName} (idle : s.pending c = none) :
      Step s (.got c type (s.registry.get? type)) s

/-- Runs from an empty registry, with what has been done, the latest first. -/
inductive Run (catalogue : Catalogue) : List (Event κ) → System κ → Prop
  | start : Run catalogue [] ⟨{ catalogue }, fun _ => none⟩
  | step {log : List (Event κ)} {s s' : System κ} {e : Event κ} (h : Run catalogue log s)
      (hs : Step types s e s') : Run catalogue (e :: log) s'

end Steps

section Log
variable {κ : Type} {types : Types} {catalogue : Catalogue} {log : List (Event κ)} {s : System κ}

/-- The factories that were made the current ones of their types, the latest first. -/
def insertions (log : List (Event κ)) : List Factory :=
  log.filterMap fun
    | .inserted _ f => some f
    | _ => none

/-- The factory that was made the current one of a type last. -/
def latest? (type : TypeName) (log : List (Event κ)) : Option Factory :=
  (insertions log).find? (·.type == type)

/-- What a caller holds between two steps, if anything, is a factory that it has compiled. -/
def Held (types : Types) (catalogue : Catalogue) (log : List (Event κ)) (caller : κ)
    (held : Option Factory) : Prop :=
  ∀ f, held = some f →
    .compiled caller f.type f ∈ log ∧ ∃ rules, Factory.compile types catalogue f.type rules = .ok f

theorem Held.cons {c : κ} {held : Option Factory} (h : Held types catalogue log c held)
    (e : Event κ) : Held types catalogue (e :: log) c held :=
  fun f hf => ⟨List.mem_cons_of_mem e (h f hf).1, (h f hf).2⟩

/-- What every step keeps: each entry is what was inserted last, and what a caller holds is what it
has compiled. -/
structure Sound (types : Types) (catalogue : Catalogue) (log : List (Event κ)) (s : System κ) :
    Prop where
  catalogue_eq : s.registry.catalogue = catalogue
  distinct : (s.registry.bindings.map Prod.fst).Nodup
  entry : ∀ t, s.registry.get? t = latest? t log
  pending : ∀ c, Held types catalogue log c (s.pending c)
  inserted : ∀ f ∈ insertions log, ∃ rules, Factory.compile types catalogue f.type rules = .ok f

theorem Sound.start :
    Sound types catalogue ([] : List (Event κ)) ⟨{ catalogue }, fun _ => none⟩ where
  catalogue_eq := rfl
  distinct := List.nodup_nil
  entry _ := rfl
  pending _ _ := nofun
  inserted := by simp [insertions]

theorem Sound.contains_iff (h : Sound types catalogue log s) {t : TypeName} :
    s.registry.contains t = true ↔ ∃ f ∈ insertions log, f.type = t := by
  have hget : s.registry.contains t = (s.registry.get? t).isSome := by simp [contains, get?]
  rw [hget, h.entry, latest?, List.find?_isSome]
  simp only [beq_iff_eq]

theorem Sound.size_eq (h : Sound types catalogue log s) :
    s.registry.size = ((insertions log).map Factory.type).toFinset.card := by
  have hkeys : (s.registry.bindings.map Prod.fst).toFinset =
      ((insertions log).map Factory.type).toFinset := by
    ext t
    rw [List.mem_toFinset, List.mem_toFinset, mem_keys_iff, h.contains_iff, List.mem_map]
  rw [← hkeys, List.toFinset_card_of_nodup h.distinct, List.length_map]
  rfl

end Log

section Runs
variable {κ : Type} [DecidableEq κ] {types : Types} {catalogue : Catalogue} {log : List (Event κ)}
  {s s' : System κ} {e : Event κ}

theorem catalogue_of_compile {type : TypeName} {rules : Value} {f : Factory}
    (h : Factory.compile types catalogue type rules = .ok f) :
    f.type = type ∧ f.catalogue = catalogue := by
  obtain ⟨-, b, -, -, rfl⟩ := Factory.compile_eq_ok.1 h
  exact ⟨rfl, rfl⟩

/-- Setting rules, for a caller who is not in the middle of it, is a step that refuses them, or the
step that compiles them and then the one that inserts what they compile to, if no other caller takes
a step in between. What was inserted is the entry of the type then, and no other entry has changed. -/
theorem set_steps (types : Types) (s : System κ) {c : κ} (idle : s.pending c = none)
    (type : TypeName) (rules : Value) :
    (∃ e, s.registry.set types type rules = (.error e, s.registry) ∧
      Step types s (.refused c type e) s) ∨
    ∃ f r s₁, s.registry.set types type rules = (.ok f, r) ∧
      Step types s (.compiled c type f) s₁ ∧ Step types s₁ (.inserted c f) ⟨r, s.pending⟩ ∧
      ∀ t, r.get? t = if t = type then some f else s.registry.get? t := by
  unfold set
  cases h : Factory.compile types s.registry.catalogue type rules with
  | error e => exact Or.inl ⟨e, rfl, .refused idle h⟩
  | ok f =>
    right
    obtain ⟨htype, hcat⟩ := catalogue_of_compile h
    have hs : Function.update (Function.update s.pending c (some f)) c none = s.pending := by
      rw [Function.update_idem, ← idle, Function.update_eq_self]
    have hstep : Step types ⟨s.registry, Function.update s.pending c (some f)⟩ (.inserted c f) _ :=
      .inserted (Function.update_self c (some f) s.pending)
    rw [hs, htype] at hstep
    refine ⟨f, _, _, rfl, .compiled idle h, hstep, fun t => ?_⟩
    rw [get?_insert, ← hcat, ← htype]

theorem Sound.step (h : Sound types catalogue log s) (hs : Step types s e s') :
    Sound types catalogue (e :: log) s' := by
  have hheld (c : κ) : Held types catalogue (e :: log) c (s.pending c) := (h.pending c).cons e
  cases hs with
  | refused => exact ⟨h.catalogue_eq, h.distinct, h.entry, hheld, h.inserted⟩
  | got => exact ⟨h.catalogue_eq, h.distinct, h.entry, hheld, h.inserted⟩
  | @compiled c type rules f _ hf =>
    refine ⟨h.catalogue_eq, h.distinct, h.entry,
      (Function.forall_update_iff s.pending (Held types catalogue _)).2
        ⟨?_, fun c' _ => hheld c'⟩, h.inserted⟩
    rintro _ ⟨⟩
    rw [h.catalogue_eq] at hf
    rw [(catalogue_of_compile hf).1]
    exact ⟨List.mem_cons_self, rules, hf⟩
  | @inserted c f hf =>
    obtain ⟨-, rules, hrules⟩ := h.pending c f hf
    refine ⟨h.catalogue_eq, nodup_keys_insertBinding h.distinct, fun t => ?current,
      (Function.forall_update_iff s.pending (Held types catalogue _)).2
        ⟨fun _ => nofun, fun c' _ => hheld c'⟩, ?made⟩
    case current =>
      have hcat : f.catalogue = s.registry.catalogue := by
        rw [(catalogue_of_compile hrules).2, h.catalogue_eq]
      rw [get?_insert, ← hcat]
      by_cases ht : t = f.type
      · simp [latest?, insertions, ht]
      · have hne : (f.type == t) = false := beq_eq_false_iff_ne.2 (Ne.symm ht)
        rw [if_neg ht, h.entry]
        simp [latest?, insertions, hne]
    case made =>
      show ∀ g ∈ f :: insertions log, _
      exact List.forall_mem_cons.2 ⟨⟨rules, hrules⟩, h.inserted⟩

theorem Run.sound (h : Run types catalogue log s) : Sound types catalogue log s := by
  induction h with
  | start => exact .start
  | step _ hs ih => exact ih.step hs

/-- What was done at a point of a run was a step from what had been reached before. -/
theorem Run.split {newer older : List (Event κ)}
    (h : Run types catalogue (newer ++ e :: older) s) :
    ∃ t t', Run types catalogue older t ∧ Step types t e t' := by
  induction newer generalizing s with
  | nil =>
    cases h with
    | step h hs => exact ⟨_, _, h, hs⟩
  | cons e' newer ih =>
    cases h with
    | step h _ => exact ih h

theorem Step.answer_eq {c : κ} {t : TypeName} {answer : Option Factory}
    (hs : Step types s (.got c t answer) s') : answer = s.registry.get? t := by
  generalize he : Event.got c t answer = e at hs
  cases hs with
  | got =>
    cases he
    rfl
  | _ => cases he

/-- Only an insertion changes an entry, and only that of its own type. -/
theorem Step.get?_eq (hs : Step types s e s') {t : TypeName}
    (ht : ∀ c f, e = .inserted c f → f.type ≠ t) : s'.registry.get? t = s.registry.get? t := by
  cases hs with
  | inserted => rw [get?_insert, if_neg (ht _ _ rfl).symm]
  | _ => rfl

theorem Step.contains (hs : Step types s e s') {t : TypeName}
    (ht : s.registry.contains t = true) : s'.registry.contains t = true := by
  cases hs with
  | @inserted c f =>
    show ((insertBinding f.type f.binding s.registry.bindings).lookup t).isSome = true
    rw [lookup_insertBinding]
    split
    · rfl
    · exact ht
  | _ => exact ht

/-- Whatever the order in which callers take their steps: a type has an entry from its first
insertion on, which is the factory that was inserted last; there are as many entries as types with
an insertion; and what is inserted was compiled for its type by the same caller. No step loses an
entry or changes that of a type other than its own, and refused rules change nothing. Setting rules
is these steps: the one that refuses them, or the one that compiles and the one that inserts. A
factory that was got is the one inserted last, whose objects always turn out to be of its type. -/
theorem run_entries_current (h : Run types catalogue log s) :
    (∀ t, s.registry.get? t = latest? t log ∧
      (s.registry.contains t = true ↔ ∃ f ∈ insertions log, f.type = t)) ∧
    s.registry.size = ((insertions log).map Factory.type).toFinset.card ∧
    (∀ newer older c f, log = newer ++ .inserted c f :: older → .compiled c f.type f ∈ older) ∧
    (∀ e s', Step types s e s' → (∀ c t x, e = .refused c t x → s' = s) ∧
      (∀ t, (∀ c f, e = .inserted c f → f.type ≠ t) →
        s'.registry.get? t = s.registry.get? t) ∧
      ∀ t, s.registry.contains t = true → s'.registry.contains t = true) ∧
    (∀ c, s.pending c = none → ∀ type rules,
      (∃ e, s.registry.set types type rules = (.error e, s.registry) ∧
        Step types s (.refused c type e) s) ∨
      ∃ f r s₁, s.registry.set types type rules = (.ok f, r) ∧
        Step types s (.compiled c type f) s₁ ∧ Step types s₁ (.inserted c f) ⟨r, s.pending⟩ ∧
        ∀ t, r.get? t = if t = type then some f else s.registry.get? t) ∧
    ∀ newer older c t f, log = newer ++ .got c t (some f) :: older →
      latest? t older = some f ∧ (∃ rules, Factory.compile types catalogue t rules = .ok f) ∧
      ∀ {σ : Type} (source : Source σ) (x : σ),
        f.generate.outcome source x = (f.binding.build catalogue "").outcome source x ∧
        ∀ o u, f.generate.outcome source x = (.ok o, u) → o.type = t := by
  refine ⟨fun t => ⟨h.sound.entry t, h.sound.contains_iff⟩, h.sound.size_eq, ?compiled,
    fun e s' hs => ⟨?refused, fun t => hs.get?_eq, fun t => hs.contains⟩,
    fun c idle => set_steps types s idle, ?got⟩
  case compiled =>
    rintro newer older c f rfl
    obtain ⟨t, t', ht, hs⟩ := h.split
    cases hs with
    | inserted hf => exact (ht.sound.pending c f hf).1
  case refused =>
    rintro c t x rfl
    cases hs
    rfl
  case got =>
    rintro newer older c t f rfl
    obtain ⟨u, u', hu, hs⟩ := h.split
    have hf : latest? t older = some f := by rw [← hu.sound.entry t, hs.answer_eq]
    obtain ⟨rules, hrules⟩ := hu.sound.inserted f (List.mem_of_find?_eq_some hf)
    have ht : f.type = t := by simpa using List.find?_some hf
    rw [ht] at hrules
    refine ⟨hf, ⟨rules, hrules⟩, fun source x => ⟨generate_eq_build hrules x, fun o w ho => ?_⟩⟩
    rcases generate_ok_or_fault hrules source x with ⟨o', w', hg, htype⟩ | ⟨e, w', hg, -⟩
    · rw [ho] at hg
      cases hg
      exact htype
    · rw [ho] at hg
      cases hg

end Runs
end Registry

namespace Sample

/-- Two callers set rules for persons, and the one that compiled first inserts last. -/
def overtaken : List (Registry.Event Bool) :=
  [.got true "Person" (some givenName), .inserted false givenName, .inserted true drawnName,
    .compiled true "Person" drawnName, .compiled false "Person" givenName]

theorem run_overtaken :
    ∃ s, Registry.Run types catalogue overtaken s ∧ s.pending false = none := by
  have first : Registry.Run types catalogue [.compiled false "Person" givenName] _ :=
    .step .start (.compiled rfl compile_givenName)
  have second : Registry.Run types catalogue (.compiled true "Person" drawnName :: _) _ :=
    first.step (.compiled rfl compile_drawnName)
  have third : Registry.Run types catalogue (.inserted true drawnName :: _) _ :=
    second.step (.inserted rfl)
  have fourth : Registry.Run types catalogue (.inserted false givenName :: _) _ :=
    third.step (.inserted rfl)
  exact ⟨_, fourth.step (.got rfl), rfl⟩

end Sample

theorem overtaken_entries_current :
    ∃ s, Registry.Run Sample.types Sample.catalogue Sample.overtaken s ∧
      s.registry.get? "Person" = some Sample.givenName ∧ s.registry.size = 1 ∧
      (∃ r, s.registry.set Sample.types "Person" (Sample.rules (.text "@word")) =
        (.ok Sample.drawnName, r) ∧ r.get? "Person" = some Sample.drawnName) ∧
      ∀ {σ : Type} (source : Source σ) (x : σ) (o : Object) (u : σ),
        Sample.givenName.generate.outcome source x = (.ok o, u) → o.type = "Person" := by
  obtain ⟨s, h, idle⟩ := Sample.run_overtaken
  obtain ⟨hentry, hsize, -, -, hset, hgot⟩ := Registry.run_entries_current h
  obtain ⟨-, -, hgen⟩ := hgot [] _ true "Person" _ rfl
  have hcompiled : (s.registry.set Sample.types "Person" (Sample.rules (.text "@word"))).1 =
      .ok Sample.drawnName := by
    rw [Registry.set, h.sound.catalogue_eq, Sample.compile_drawnName]
  refine ⟨s, h, (hentry "Person").1, hsize, ?_, fun source x o u => (hgen source x).2 o u⟩
  rcases hset false idle "Person" (Sample.rules (.text "@word")) with
    ⟨e, hrefused, -⟩ | ⟨f, r, -, hinserted, -, -, hentries⟩
  · rw [hrefused] at hcompiled
    cases hcompiled
  · rw [hinserted] at hcompiled
    obtain rfl : f = Sample.drawnName := Except.ok.inj hcompiled
    exact ⟨r, hinserted, (hentries "Person").trans (if_pos rfl)⟩

end Fixture
