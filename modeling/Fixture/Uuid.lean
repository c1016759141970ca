/-! Universally unique identifiers: thirty-two hexadecimal digits, written in five groups. -/
namespace Fixture

structure Uuid where
  digits : List (Fin 16)
  length_eq : digits.length = 32
  deriving DecidableEq

namespace Uuid

/-- The last hexadecimal digit of a number. -/
def lastDigit (n : Nat) : Fin 16 := ⟨n % 16, Nat.mod_lt n (Nat.succ_pos 15)⟩

def zero : Uuid := ⟨List.replicate 32 (lastDigit 0), List.length_replicate⟩

instance : Inhabited Uuid := ⟨zero⟩

def ofDigits? (ds : List (Fin 16)) : Option Uuid :=
  if h : ds.length = 32 then some ⟨ds, h⟩ else none

def nibbles (b : UInt8) : List (Fin 16) := [lastDigit (b.toNat / 16), lastDigit b.toNat]

theorem length_nibbles (bs : List UInt8) : (bs.flatMap nibbles).length = 2 * bs.length := by
  induction bs with
  | nil => rfl
  | cons b bs ih => simp [List.flatMap_cons, nibbles, ih]; omega

/-- The identifier of sixteen random bytes: version 4, and the variant in the top two bits of the
ninth byte. -/
def random (bytes : Vector UInt8 16) : Uuid where
  digits := ((bytes.toList.flatMap nibbles).set 12 (lastDigit 4)).modify 16 fun d =>
    lastDigit (8 + d.val % 4)
  length_eq := by rw [List.length_modify, List.length_set, length_nibbles, Vector.length_toList]

def digitChar (d : Fin 16) : Char := Nat.digitChar d.val

def text (u : Uuid) : List Char :=
  let cs := u.digits.map digitChar
  cs.take 8 ++ '-' :: (cs.drop 8).take 4 ++ '-' :: (cs.drop 12).take 4 ++
    '-' :: (cs.drop 16).take 4 ++ '-' :: cs.drop 20

def digit? (c : Char) : Option (Fin 16) :=
  if '0' ≤ c ∧ c ≤ '9' then some (lastDigit (c.toNat - 48))
  else if 'a' ≤ c ∧ c ≤ 'f' then some (lastDigit (c.toNat - 87))
  else if 'A' ≤ c ∧ c ≤ 'F' then some (lastDigit (c.toNat - 55))
  else none

def plain? (s : List Char) : Option Uuid := (s.mapM digit?).bind ofDigits?

/-- Five groups of digits with hyphens between them. -/
def hyphenated? (s : List Char) : Option Uuid :=
  if s.length = 36 ∧ [8, 13, 18, 23].all (fun i => s[i]? == some '-') then
    plain? (s.take 8 ++ (s.drop 9).take 4 ++ (s.drop 14).take 4 ++ (s.drop 19).take 4 ++ s.drop 24)
  else none

/-- The plain form, or the hyphenated one, which may stand in braces or after `urn:uuid:`. -/
def read? (s : List Char) : Option Uuid :=
  if s.length = 38 ∧ s.head? = some '{' ∧ s.getLast? = some '}' then
    hyphenated? ((s.drop 1).take 36)
  else if s.length = 45 ∧ s.take 9 = "urn:uuid:".toList then hyphenated? (s.drop 9)
  else (hyphenated? s).or (plain? s)

end Uuid
end Fixture
