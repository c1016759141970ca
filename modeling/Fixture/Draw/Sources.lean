import Fixture.Draw.Basic

/-! Two sources: one that repeats a list of 64-bit words and counts those taken, and the ChaCha stream
of 32-bit words with eight rounds and a zero nonce, keyed from a seed. -/
namespace Fixture

structure WordCycle where
  words : List UInt64
  taken : Nat := 0

namespace WordCycle

/-- The word at hand; an empty list counts as a single zero. -/
def word (c : WordCycle) : UInt64 := c.words.getD (c.taken % c.words.length) 0

def advance (c : WordCycle) (n : Nat) : WordCycle := { c with taken := c.taken + n }

/-- Byte `i` of the words to come, low bytes first. -/
def byte (c : WordCycle) (i : Nat) : UInt8 :=
  ((c.advance (i / 8)).word.toNat / Nat.pow 256 (i % 8)).toUInt8

/-- A 32-bit word is the low half of a word; bytes take whole words. -/
def source : Source WordCycle where
  word32 c := (c.word.toUInt32, c.advance 1)
  word64 c := (c.word, c.advance 1)
  bytes n c := (Vector.ofFn fun i : Fin n => c.byte i, c.advance ((n + 7) / 8))

end WordCycle

namespace ChaCha

abbrev Block := Vector UInt32 16

def rotateLeft (x : UInt32) (n : UInt32) : UInt32 := (x <<< n) ||| (x >>> (32 - n))

/-- Word `a` grows by word `b`, and word `d` takes it in and turns. -/
def mix (s : Block) (a b d : Fin 16) (n : UInt32) : Block :=
  let s := s.set a (s[a] + s[b])
  s.set d (rotateLeft (s[d] ^^^ s[a]) n)

def quarterRound (s : Block) (a b c d : Fin 16) : Block :=
  mix (mix (mix (mix s a b d 16) c d b 12) a b d 8) c d b 7

def columnRound (s : Block) : Block :=
  quarterRound (quarterRound (quarterRound (quarterRound s 0 4 8 12) 1 5 9 13) 2 6 10 14) 3 7 11 15

def diagonalRound (s : Block) : Block :=
  quarterRound (quarterRound (quarterRound (quarterRound s 0 5 10 15) 1 6 11 12) 2 7 8 13) 3 4 9 14

def rounds : Nat → Block → Block
  | 0, s => s
  | n + 1, s => rounds n (diagonalRound (columnRound s))

def constants : Vector UInt32 4 := #v[0x61707865, 0x3320646e, 0x79622d32, 0x6b206574]

def initial (key : Vector UInt32 8) (counter : UInt64) : Block :=
  constants ++ key ++ (#v[counter.toUInt32, (counter >>> 32).toUInt32, 0, 0] : Vector UInt32 4)

def block (key : Vector UInt32 8) (counter : UInt64) : Block :=
  let s := initial key counter
  Vector.zipWith (· + ·) (rounds 4 s) s

/-- The state of the generator that spreads a seed over the key. -/
def seedStep (s : UInt64) : UInt64 := s * 6364136223846793005 + 11634580027462260723

/-- The output of that generator: the folded state turned right by its top five bits. -/
def seedWord (s : UInt64) : UInt32 :=
  rotateLeft (((s >>> 18) ^^^ s) >>> 27).toUInt32 ((32 : UInt32) - (s >>> 59).toUInt32)

def seedState : Nat → UInt64 → UInt64
  | 0, s => seedStep s
  | n + 1, s => seedStep (seedState n s)

def keyOfSeed (seed : UInt64) : Vector UInt32 8 :=
  Vector.ofFn fun i : Fin 8 => seedWord (seedState i seed)

end ChaCha

/-- The stream from block `counter` on, after the words still pending. -/
structure ChaCha where
  key : Vector UInt32 8
  counter : UInt64 := 0
  pending : List UInt32 := []

namespace ChaCha

def ofSeed (seed : UInt64) : ChaCha := { key := keyOfSeed seed }

def word (c : ChaCha) : UInt32 × ChaCha :=
  match c.pending with
  | w :: ws => (w, { c with pending := ws })
  | [] =>
    let ws := (block c.key c.counter).toList
    (ws.headD 0, { c with counter := c.counter + 1, pending := ws.tail })

def words : Nat → ChaCha → List UInt32 × ChaCha
  | 0, c => ([], c)
  | n + 1, c =>
    let w := c.word
    let r := words n w.2
    (w.1 :: r.1, r.2)

/-- A 64-bit word is two words, the low one first; bytes take whole words, low bytes first. -/
def source : Source ChaCha where
  word32 := word
  word64 c :=
    let low := c.word
    let high := low.2.word
    (high.1.toUInt64 <<< 32 ||| low.1.toUInt64, high.2)
  bytes n c :=
    let r := c.words ((n + 3) / 4)
    let byte (i : Nat) : UInt8 := ((r.1.getD (i / 4) 0).toNat / Nat.pow 256 (i % 4)).toUInt8
    (Vector.ofFn fun i : Fin n => byte i, r.2)

end ChaCha
end Fixture
