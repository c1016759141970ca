import Fixture.Coercion.Basic
import Fixture.Outcome
import Fixture.Proofs.CalendarTexts
import Fixture.Proofs.UuidTexts
import Mathlib.Data.List.Basic

/-! The form in which a document holds a value of a field type, and that coercion takes the value
back from it. Nothing is lost in numbers, in the order of lists or in the keys of maps; a missing
value is null, so the type of an optional value must not have null itself. -/
namespace Fixture

namespace Value

mutual
/-- The keys of every map in the value ascend. -/
def Sorted : Value → Prop
  | list items => SortedItems items
  | map entries => (entries.map Prod.fst).Pairwise (· < ·) ∧ SortedEntries entries
  | null | bool _ | int _ _ | float _ | text _ => True

def SortedItems : List Value → Prop
  | [] => True
  | v :: vs => v.Sorted ∧ SortedItems vs

def SortedEntries : List (String × Value) → Prop
  | [] => True
  | (_, v) :: es => v.Sorted ∧ SortedEntries es
end

@[simp] theorem asChar?_ofList (c : Char) : (text (String.ofList [c])).asChar? = some c := by
  simp [asChar?]

@[simp] theorem asDate?_text (d : Date) : (text (String.ofList d.text)).asDate? = some d := by
  simp [asDate?, text?, Calendar.date?_text]

@[simp] theorem asTime?_text (t : Time) : (text (String.ofList t.text)).asTime? = some t := by
  simp [asTime?, text?, Calendar.time?_text]

@[simp] theorem asUuid?_text (u : Uuid) : (text (String.ofList u.text)).asUuid? = some u := by
  simp [asUuid?, text?, Uuid.read?_text]

theorem sortedItems_iff {vs : List Value} : SortedItems vs ↔ ∀ v ∈ vs, v.Sorted := by
  induction vs with
  | nil => simp [SortedItems]
  | cons v vs ih => simp [SortedItems, ih]

theorem sortedEntries_iff {es : List (String × Value)} :
    SortedEntries es ↔ ∀ e ∈ es, e.2.Sorted := by
  induction es with
  | nil => simp [SortedEntries]
  | cons e es ih => simp [SortedEntries, ih]

end Value

theorem Outcome.mapM_map_eq_ok {ε α β : Type} {f : α → β} {g : β → Except ε α} {xs : List α}
    (h : ∀ x ∈ xs, g (f x) = .ok x) : (xs.map f).mapM g = .ok xs := by
  induction xs with
  | nil => rfl
  | cons x xs ih =>
    rw [List.forall_mem_cons] at h
    rw [List.map_cons, List.mapM_cons, h.1, ih h.2]
    rfl

namespace FieldType

/-- The form of a value in a document. A number that is not finite has none and becomes null. -/
def toValue : (t : FieldType) → t.Carrier → Value
  | value, v => v
  | bool, b => .bool b
  | char, c => .text (String.ofList [c])
  | text, s => .text s
  | float64, x | float32, x => (Value.ofBinary64? x).getD .null
  | date, d => .text (String.ofList d.text)
  | time, t => .text (String.ofList t.text)
  | timestamp, t => .text (String.ofList (t.date.text ++ 'T' :: t.time.text))
  | instant, t => .text (String.ofList (t.date.text ++ 'T' :: t.time.text ++ ['Z']))
  | uuid, u => .text (String.ofList u.text)
  | int _, n => .int n.val (IntType.intRange_of_holds n.property)
  | option _, none => .null
  | option t, some x => t.toValue x
  | list t, xs => .list (xs.map t.toValue)
  | map t, es => .map (es.map fun e => (e.1, t.toValue e.2))

/-- Null is the form of a value of the type. -/
def HasNull : FieldType → Prop
  | value | option _ => True
  | _ => False

/-- The types all of whose values are read back, containers in any nesting included. Left out are
the binary32 numbers, among which a number is rounded, and the timestamps, of which a fraction of a
second or a year past 9999 is written in forms that are not read. -/
def ReadsBack : FieldType → Prop
  | value | bool | char | text | float64 | date | time | uuid | int _ => True
  | float32 | timestamp | instant => False
  | option t => ¬ t.HasNull ∧ t.ReadsBack
  | list t | map t => t.ReadsBack

/-- The value can stand in a document: its numbers are finite, and a map is its entries in the order
of their keys. -/
def Regular : (t : FieldType) → t.Carrier → Prop
  | value, v => v.Sorted
  | float64, x | float32, x => x.isFinite = true
  | option t, x => ∀ y, x = some y → t.Regular y
  | list t, xs => List.Forall t.Regular xs
  | map t, es =>
    List.Pairwise (fun e f => e.1 < f.1) es ∧ List.Forall (fun e => t.Regular e.2) es
  | bool, _ | char, _ | text, _ | date, _ | time, _ | timestamp, _ | instant, _ | uuid, _
  | int _, _ => True

section
variable {t : FieldType} {x : t.Carrier}

theorem toValue_ne_null (ht : ¬ t.HasNull) (hx : t.Regular x) : t.toValue x ≠ .null := by
  cases t with
  | value | option => exact absurd trivial ht
  | float64 | float32 =>
    cases x with
    | finite y => nofun
    | infinite s | nan => cases hx
  | _ => nofun

theorem coerce_option {v : Value} (hv : v ≠ .null) :
    (option t).coerce v = (t.coerce v).map some := by
  cases v with
  | null => exact absurd rfl hv
  | _ => rfl

theorem sorted_toValue (hx : t.Regular x) : (t.toValue x).Sorted := by
  induction t with
  | value => exact hx
  | float64 | float32 => cases x <;> trivial
  | option t ih =>
    cases x with
    | none => trivial
    | some y => exact ih (hx y rfl)
  | list t ih =>
    refine Value.sortedItems_iff.2 fun v hv => ?_
    obtain ⟨y, hy, rfl⟩ := List.mem_map.1 hv
    exact ih (List.forall_iff_forall_mem.1 hx y hy)
  | map t ih =>
    obtain ⟨hkeys, hx⟩ := hx
    refine ⟨?_, Value.sortedEntries_iff.2 fun e he => ?_⟩
    · exact List.pairwise_map.2 (List.pairwise_map.2 hkeys)
    · obtain ⟨y, hy, rfl⟩ := List.mem_map.1 he
      exact ih (List.forall_iff_forall_mem.1 hx y hy)
  | _ => trivial

/-- What a document holds for a value of a type is a value whose keys ascend, and it is coerced to
the value that it stands for. -/
theorem coerce_toValue (ht : t.ReadsBack) (hx : t.Regular x) :
    (t.toValue x).Sorted ∧ t.coerce (t.toValue x) = .ok x := by
  refine ⟨sorted_toValue hx, ?_⟩
  induction t with
  | value | bool | text => rfl
  | float32 | timestamp | instant => cases ht
  | char => exact congrArg (ofOption "char" _) (Value.asChar?_ofList x)
  | float64 =>
    cases x with
    | finite y => rfl
    | infinite s | nan => cases hx
  | date => exact congrArg (ofOption "date" _) (Value.asDate?_text x)
  | time => exact congrArg (ofOption "time" _) (Value.asTime?_text x)
  | uuid => exact congrArg (ofOption "uuid" _) (Value.asUuid?_text x)
  | int t =>
    have hread : (if h : t.Holds x.val then some ⟨x.val, h⟩ else none) = some x :=
      dif_pos x.property
    exact congrArg (ofOption t.name _) hread
  | option t ih =>
    cases x with
    | none => rfl
    | some y =>
      have hy := hx y rfl
      rw [toValue, coerce_option (toValue_ne_null ht.1 hy), ih ht.2 hy]
      rfl
  | list t ih =>
    exact Outcome.mapM_map_eq_ok fun y hy => ih ht (List.forall_iff_forall_mem.1 hx y hy)
  | map t ih =>
    refine Outcome.mapM_map_eq_ok fun e he => ?_
    rw [ih ht (List.forall_iff_forall_mem.1 hx.2 e he)]
    rfl

/-- Counts by name, the greatest of 64 bits and a missing one among them. -/
def countsByName : (list (map (option (int .nat64)))).Carrier :=
  [[("a", some ⟨18446744073709551615, by decide⟩), ("b", none)], []]

theorem coerce_toValue_countsByName :
    (list (map (option (int .nat64)))).ReadsBack ∧
      (list (map (option (int .nat64)))).Regular countsByName ∧
      (list (map (option (int .nat64)))).coerce
        (.list [.map [("a", .int 18446744073709551615 (by decide)), ("b", .null)], .map []]) =
          .ok countsByName := by
  have ht : (list (map (option (int .nat64)))).ReadsBack := ⟨id, trivial⟩
  have hkeys : "a" < "b" := by decide
  have hcount (x : (option (int .nat64)).Carrier) : (option (int .nat64)).Regular x :=
    fun _ _ => trivial
  have hx : (list (map (option (int .nat64)))).Regular countsByName :=
    ⟨⟨List.pairwise_pair.2 hkeys, hcount _, hcount _⟩, List.Pairwise.nil, trivial⟩
  exact ⟨ht, hx, (coerce_toValue ht hx).2⟩

end

end FieldType
end Fixture
