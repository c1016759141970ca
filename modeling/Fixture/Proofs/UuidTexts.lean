import Fixture.Uuid

/-! The texts of identifiers read back, and a random identifier is one of version 4. -/
namespace Fixture.Uuid

/-- Version 4 of the variant whose bits are 1 and 0. -/
def IsVersion4 (u : Uuid) : Prop :=
  u.digits[12]? = some (lastDigit 4) ∧ ∃ d, u.digits[16]? = some d ∧ 8 ≤ d.val ∧ d.val < 12

theorem isVersion4_random (bytes : Vector UInt8 16) : (random bytes).IsVersion4 := by
  have hl : (bytes.toList.flatMap nibbles).length = 32 := by
    rw [length_nibbles, Vector.length_toList]
  have hversion : (random bytes).digits[12]? = some (lastDigit 4) := by
    simp [random, hl]
  have hvariant : (random bytes).digits[16]? =
      ((bytes.toList.flatMap nibbles)[16]?).map fun d => lastDigit (8 + d.val % 4) := by
    simp [random]
  have hsome : (bytes.toList.flatMap nibbles)[16]? = some _ := List.getElem?_eq_getElem (by omega)
  rw [hsome] at hvariant
  refine ⟨hversion, _, hvariant, ?_⟩
  simp only [lastDigit]
  omega

theorem digit?_digitChar (d : Fin 16) : digit? (digitChar d) = some d := by
  revert d
  decide

theorem plain?_map_digitChar (u : Uuid) : plain? (u.digits.map digitChar) = some u := by
  have h (ds : List (Fin 16)) : (ds.map digitChar).mapM digit? = some ds := by
    induction ds with
    | nil => rfl
    | cons d ds ih => simp [List.mapM_cons, digit?_digitChar, ih]
  rw [plain?, h]
  exact dif_pos u.length_eq

/-- Hyphens after eight characters and then after four, three times, are dropped. -/
theorem hyphenated?_groups {a b c d e : List Char} (ha : a.length = 8) (hb : b.length = 4)
    (hc : c.length = 4) (hd : d.length = 4) (he : e.length = 12) :
    hyphenated? (a ++ '-' :: b ++ '-' :: c ++ '-' :: d ++ '-' :: e) =
      plain? (a ++ b ++ c ++ d ++ e) := by
  have hhyphens : (a ++ '-' :: b ++ '-' :: c ++ '-' :: d ++ '-' :: e).length = 36 ∧
      [8, 13, 18, 23].all (fun i => (a ++ '-' :: b ++ '-' :: c ++ '-' :: d ++ '-' :: e)[i]? ==
        some '-') := by
    simp [List.getElem?_append, ha, hb, hc, hd, he]
  rw [hyphenated?, if_pos hhyphens]
  congr 1
  simp (disch := omega) [List.drop_append, ha, hb, hc, hd, List.drop_eq_nil_of_le]

theorem length_text (u : Uuid) : u.text.length = 36 := by
  simp [text, u.length_eq]

theorem hyphenated?_text (u : Uuid) : hyphenated? u.text = some u := by
  have group {cs : List Char} (m n : Nat) : (cs.drop m).take n ++ cs.drop (m + n) = cs.drop m := by
    rw [← List.drop_drop, List.take_append_drop]
  rw [text, hyphenated?_groups, ← plain?_map_digitChar u]
  · congr 1
    generalize u.digits.map digitChar = cs
    simp only [List.append_assoc, group 16 4, group 12 4, group 8 4, List.take_append_drop]
  all_goals simp [u.length_eq]

theorem read?_text (u : Uuid) : read? u.text = some u := by
  have hl := u.length_text
  rw [read?, if_neg (by omega), if_neg (by omega), hyphenated?_text]
  rfl

end Fixture.Uuid
