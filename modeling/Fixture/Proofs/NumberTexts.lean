import Fixture.Binary64.Text
import Fixture.Coercion.FieldType
import Fixture.Proofs.Numerals
import Fixture.Text

/-! The characters of numbers. Whatever is read as an integer or as a finite float is made up of
digits, signs, points and the letter `e`, so no blank, no comma and no quote stands in it. -/
namespace Fixture

namespace Text

/-- A character that can stand in a number. -/
def NumberChar (c : Char) : Prop := c.isDigit = true ∨ c ∈ ['+', '-', '.', 'e', 'E']

theorem NumberChar.not_blank {c : Char} (h : NumberChar c) : isBlank c = false := by
  rcases h with h | h
  · have hc := Char.isDigit_iff_toNat.1 h
    have h0 : '0'.toNat = 48 := rfl
    have h9 : '9'.toNat = 57 := rfl
    simp only [isBlank, Bool.or_eq_false_iff, Bool.and_eq_false_iff, decide_eq_false_iff_not,
      beq_eq_false_iff_ne]
    omega
  · simp only [List.mem_cons, List.not_mem_nil, or_false] at h
    rcases h with rfl | rfl | rfl | rfl | rfl <;> decide

theorem numberChar_of_integer? {signed : Bool} {s : List Char} {n : Int}
    (h : integer? signed s = some n) {c : Char} (hc : c ∈ s) : NumberChar c := by
  rcases mem_of_integer? h hc with hdigit | rfl | rfl
  · exact .inl hdigit
  · exact .inr (by decide)
  · exact .inr (by decide)

theorem NumberChar.ne {c d : Char} (h : NumberChar c) (hd : d ∈ [',', '"', '\'']) : c ≠ d := by
  rintro rfl
  revert h
  unfold NumberChar
  simp only [List.mem_cons, List.not_mem_nil, or_false] at hd
  rcases hd with rfl | rfl | rfl <;> decide

end Text

namespace Binary64
open Text

theorem mantissa_eq (s : List Char) :
    (∀ c ∈ (mantissa s).1, c.isDigit = true) ∧ (∀ c ∈ (mantissa s).2.1, c.isDigit = true) ∧
      (s = (mantissa s).1 ++ (mantissa s).2.2 ∧ (mantissa s).2.1 = [] ∨
        s = (mantissa s).1 ++ '.' :: (mantissa s).2.1 ++ (mantissa s).2.2) := by
  have hrun : s = (digitRun s).1 ++ (digitRun s).2 := List.takeWhile_append_dropWhile.symm
  have hdigits (t : List Char) : ∀ c ∈ (digitRun t).1, c.isDigit = true :=
    fun c hc => List.all_eq_true.1 List.all_takeWhile c hc
  unfold mantissa
  split
  · rename_i whole r h
    rw [h] at hrun
    refine ⟨fun c hc => hdigits s c (by rwa [h]), hdigits r, .inr ?_⟩
    rw [List.append_assoc, List.cons_append]
    rw [show (digitRun r).1 ++ (digitRun r).2 = r from List.takeWhile_append_dropWhile]
    exact hrun
  · rename_i whole r _ h
    rw [h] at hrun
    exact ⟨fun c hc => hdigits s c (by rwa [h]), by simp, .inl ⟨hrun, rfl⟩⟩

theorem mem_of_exponent? {s : List Char} {e : Int} (h : exponent? s = some e) {c : Char}
    (hc : c ∈ s) : NumberChar c := by
  cases s with
  | nil => cases hc
  | cons d r =>
    rw [exponent?] at h
    split at h
    · rename_i hd
      rcases List.mem_cons.1 hc with rfl | hc
      · rcases hd with rfl | rfl
        · exact .inr (by decide)
        · exact .inr (by decide)
      · exact numberChar_of_integer? h hc
    · cases h

theorem mem_of_unsigned? {negative : Bool} {s : List Char} {x : Binary64}
    (h : unsigned? negative s = some x) {c : Char} (hc : c ∈ s) : NumberChar c := by
  obtain ⟨hwhole, hfraction, hs⟩ := mantissa_eq s
  unfold unsigned? at h
  generalize mantissa s = m at h hwhole hfraction hs
  obtain ⟨whole, fraction, rest⟩ := m
  dsimp only at h hwhole hfraction hs
  split at h
  · cases h
  · obtain ⟨e, he, -⟩ := Option.map_eq_some_iff.1 h
    rcases hs with ⟨rfl, -⟩ | rfl
    · rcases List.mem_append.1 hc with hc | hc
      · exact .inl (hwhole c hc)
      · exact mem_of_exponent? he hc
    · rcases List.mem_append.1 hc with hc | hc
      · rcases List.mem_append.1 hc with hc | hc
        · exact .inl (hwhole c hc)
        · rcases List.mem_cons.1 hc with rfl | hc
          · exact .inr (by decide)
          · exact .inl (hfraction c hc)
      · exact mem_of_exponent? he hc

theorem mem_of_word? {negative : Bool} {s : List Char} {x : Finite}
    (h : word? negative s = some (finite x)) {c : Char} (hc : c ∈ s) : NumberChar c := by
  unfold word? at h
  dsimp only at h
  split at h
  · cases h
  · split at h
    · cases h
    · exact mem_of_unsigned? h hc

/-- What is read as a finite number has no other characters than numbers have. -/
theorem mem_of_read? {s : List Char} {x : Finite} (h : read? s = some (finite x)) {c : Char}
    (hc : c ∈ s) : NumberChar c := by
  unfold read? at h
  split at h
  · rcases List.mem_cons.1 hc with rfl | hc
    · exact .inr (by decide)
    · exact mem_of_word? h hc
  · rcases List.mem_cons.1 hc with rfl | hc
    · exact .inr (by decide)
    · exact mem_of_word? h hc
  · exact mem_of_word? h hc

theorem read?_ne_nil {s : List Char} {x : Binary64} (h : read? s = some x) : s ≠ [] := by
  rintro rfl
  have : read? [] = none := by decide
  rw [this] at h
  cases h

end Binary64
end Fixture
