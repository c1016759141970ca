import Fixture.Proofs.CheckedCalls
import Fixture.Proofs.OverloadOrder

/-! Calls of a directive with a single overload of their arity. There is nothing to choose for them:
the arguments are coerced for that overload and left to it, and a call fails where this does. -/
namespace Fixture
open Outcome

theorem Library.nodup_keys_builtin (fakers : Library.Fakers) :
    ((Library.builtin fakers).map Generator.key).Nodup := by
  have hkeys : (Library.builtin fakers).map Generator.key =
      ((Library.builtin Library.sample).map Generator.head).map fun h => (h.1, h.2.1) := by
    rw [← Library.heads_builtin fakers, List.map_map]
    rfl
  rw [hkeys]
  decide +kernel

namespace Catalogue

section Registered
variable {log : List Generator} {c : Catalogue} {g : Generator}

theorem Sound.mem_overloads (h : Sound log c) (hn : (log.map Generator.key).Nodup) (hg : g ∈ log) :
    g ∈ c.overloads g.name := by
  have hshape : g.params ∈ (c.overloads g.name).map Generator.params := by
    rw [h.shapes_eq]
    exact mem_shapes.2 ⟨g, hg, rfl, rfl⟩
  obtain ⟨k, hk, hp⟩ := List.mem_map.1 hshape
  have hlatest := h.latest _ k hk
  have hlog : k ∈ log := List.mem_reverse.1 (List.mem_of_find?_eq_some hlatest)
  have hkey : k.key = g.key := Prod.ext (h.name_eq hk) hp
  rwa [List.inj_on_of_nodup_map hn hlog hg hkey] at hk

/-- The one generator of its name and arity is the one candidate. -/
theorem Sound.candidates_eq (h : Sound log c) (hn : (log.map Generator.key).Nodup) (hg : g ∈ log)
    (honly : ∀ k ∈ log, k.name = g.name → k.arity = g.arity → k = g) :
    c.candidates g.name g.arity = [g] := by
  have hmem : g ∈ c.candidates g.name g.arity :=
    List.mem_filter.2 ⟨h.mem_overloads hn hg, by simp⟩
  have hall : ∀ k ∈ c.candidates g.name g.arity, k = g := by
    intro k hk
    obtain ⟨hk, ha⟩ := List.mem_filter.1 hk
    have hlog : k ∈ log :=
      List.mem_reverse.1 (List.mem_of_find?_eq_some (h.latest _ k hk))
    exact honly k hlog (h.name_eq hk) (by simpa using ha)
  have hnodup : (c.candidates g.name g.arity).Nodup :=
    (List.Nodup.of_map _ (h.nodup_params g.name)).filter _
  generalize c.candidates g.name g.arity = gs at hmem hall hnodup
  match gs with
  | [] => cases hmem
  | [k] => rw [hall k List.mem_cons_self]
  | k :: l :: gs =>
    have hk := hall k List.mem_cons_self
    have hl := hall l (List.mem_cons_of_mem _ List.mem_cons_self)
    exact absurd (by rw [hk, hl]; exact List.mem_cons_self) (List.nodup_cons.1 hnodup).1

end Registered

section Sole
variable {c : Catalogue} {name : String} {vs : List Value} {g : Generator} {args : Arguments}

/-- Whether the only candidate is found for the forms of the arguments or because they can be
coerced for it, the call comes to what the coercion and the generator say. -/
theorem prepare_eq (h : c.candidates name vs.length = [g]) :
    c.prepare ⟨name, vs⟩ = (do
      let args ← g.coerce name vs
      g.validate c.options args
      return (g, args)) := by
  by_cases hf : g.fits vs = true
  · have hlookup : c.lookup name vs = .ok g := by
      rw [lookup, h, List.find?_singleton, if_pos hf]
    rw [prepare, hlookup]
    rfl
  · have hlookup : c.lookup name vs = (g.coerce name vs).map fun _ => g := by
      rw [lookup, h, List.find?_singleton, if_neg hf, firstCoercible]
      cases g.coerce name vs <;> rfl
    rw [prepare, hlookup]
    cases hc : g.coerce name vs with
    | error e => rfl
    | ok args =>
      show (g.coerce name vs >>= _) = _
      rw [hc]

theorem check_eq_ok (h : c.candidates name vs.length = [g]) :
    c.check ⟨name, vs⟩ = .ok () ↔
      ∃ args, g.coerce name vs = .ok args ∧ g.validate c.options args = .ok () := by
  rw [check, prepare_eq h, map_eq_ok]
  constructor
  · rintro ⟨_, hprepare, -⟩
    obtain ⟨args, ha, hv⟩ := bind_eq_ok.1 hprepare
    obtain ⟨_, hv, -⟩ := bind_eq_ok.1 hv
    exact ⟨args, ha, hv⟩
  · rintro ⟨args, ha, hv⟩
    exact ⟨(g, args), bind_eq_ok.2 ⟨args, ha, bind_eq_ok.2 ⟨(), hv, rfl⟩⟩, rfl⟩

theorem check_eq (h : c.candidates name vs.length = [g]) (ha : g.coerce name vs = .ok args) :
    c.check ⟨name, vs⟩ = g.validate c.options args := by
  rw [check, prepare_eq h, ha]
  show (g.validate c.options args >>= fun _ => pure (g, args)).map _ = _
  cases g.validate c.options args <;> rfl

theorem resolve_eq (h : c.candidates name vs.length = [g]) (ha : g.coerce name vs = .ok args)
    (hv : g.validate c.options args = .ok ()) :
    c.resolve ⟨name, vs⟩ = g.generate c.options args := by
  have hprepare : c.prepare ⟨name, vs⟩ = .ok (g, args) := by
    rw [prepare_eq h, ha]
    show (g.validate c.options args >>= fun _ => pure (g, args)) = _
    rw [hv]
    rfl
  rw [resolve, hprepare]

end Sole

section Builtin
variable {fakers : Library.Fakers} (o : Options) {g : Generator}

theorem candidates_builtin
    (h : (Library.builtin fakers).filter (fun k => k.name = g.name ∧ k.arity = g.arity) = [g]) :
    (builtin fakers o).candidates g.name g.arity = [g] := by
  have hg : g ∈ Library.builtin fakers := List.mem_of_mem_filter (h ▸ List.mem_cons_self)
  refine (sound_registerAll o _).candidates_eq (Library.nodup_keys_builtin fakers) hg ?_
  intro k hk hname harity
  have hm : k ∈ (Library.builtin fakers).filter (fun k => k.name = g.name ∧ k.arity = g.arity) :=
    List.mem_filter.2 ⟨hk, by simp [hname, harity]⟩
  rw [h] at hm
  exact List.mem_singleton.1 hm

section Bare
variable (hg : g ∈ Library.builtin fakers) (ha : g.arity = 0)
include hg ha

/-- A name has one generator without parameters at most. -/
theorem candidates_bare :
    (builtin fakers o).candidates g.name ([] : List Value).length = [g] := by
  have hparams {k : Generator} (hk : k.arity = 0) : k.params = [] := List.length_eq_zero_iff.1 hk
  rw [List.length_nil, ← ha]
  refine (sound_registerAll o _).candidates_eq (Library.nodup_keys_builtin fakers) hg ?_
  intro k hk hname harity
  have hsame : k.params = g.params := by rw [hparams (harity.trans ha), hparams ha]
  have hkey : k.key = g.key := Prod.ext hname hsame
  exact List.inj_on_of_nodup_map (Library.nodup_keys_builtin fakers) hk hg hkey

omit hg in
theorem coerce_bare : g.coerce g.name [] = .ok ⟨g.name, []⟩ := by
  rw [Generator.coerce, List.length_eq_zero_iff.1 ha]
  rfl

theorem check_bare : (builtin fakers o).check ⟨g.name, []⟩ = g.validate o ⟨g.name, []⟩ := by
  rw [check_eq (candidates_bare o hg ha) (coerce_bare ha), options_builtin]

theorem resolve_bare (hv : g.validate o ⟨g.name, []⟩ = .ok ()) :
    (builtin fakers o).resolve ⟨g.name, []⟩ = g.generate o ⟨g.name, []⟩ := by
  rw [← options_builtin fakers o] at hv
  rw [resolve_eq (candidates_bare o hg ha) (coerce_bare ha) hv, options_builtin]

end Bare

section Free
variable {name description : String} {output : ValueKind}

theorem resolve_ofAttempt {draw : Options → Arguments → Attempt Stop Value}
    (hg : Generator.ofAttempt name [] output description draw ∈ Library.builtin fakers) :
    (builtin fakers o).check ⟨name, []⟩ = .ok () ∧
      (builtin fakers o).resolve ⟨name, []⟩ = (draw o ⟨name, []⟩).stopping := by
  have hcheck := check_bare o hg rfl
  have hresolve := resolve_bare o hg rfl rfl
  exact ⟨hcheck, hresolve⟩

end Free
end Builtin

end Catalogue
end Fixture
