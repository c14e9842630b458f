import Gamebook.Word

/-!
# A reproducible source of random numbers

The stream of a block cipher in counter mode: ChaCha with twelve rounds, whose key is stretched from a
seed of 64 bits. A block of sixteen words is computed from the key and a counter; two words in a row,
the lower first, make one random number of 64 bits.

`Generator.below` draws a number below a bound without bias: a draw is widened by the bound to 128 bits,
the upper half is the answer, and draws whose lower half falls into the incomplete last stretch are
thrown away.
-/

namespace Gamebook

/-! ## Blocks -/

/-- Four words, a row of the cipher's state. -/
structure Row where
  a : UInt32
  b : UInt32
  c : UInt32
  d : UInt32
deriving DecidableEq, Repr

namespace Row

/-- Two rows combined word by word. -/
def zip (f : UInt32 → UInt32 → UInt32) (x y : Row) : Row :=
  ⟨f x.a y.a, f x.b y.b, f x.c y.c, f x.d y.d⟩

/-- Every word of a row rotated to the left. -/
def rotateBits (x : Row) (n : UInt32) : Row :=
  let rotate (w : UInt32) : UInt32 := (w <<< n) ||| (w >>> (32 - n))
  ⟨rotate x.a, rotate x.b, rotate x.c, rotate x.d⟩

/-- The words of a row moved one place to the left. -/
def shift (x : Row) : Row := ⟨x.b, x.c, x.d, x.a⟩

/-- The words of a row in order. -/
def toList (x : Row) : List UInt32 := [x.a, x.b, x.c, x.d]

end Row

/-- The state of the cipher: four rows. -/
structure CipherState where
  w : Row
  x : Row
  y : Row
  z : Row
deriving DecidableEq, Repr

namespace CipherState

/-- The quarter rounds on the four columns. -/
def columns (s : CipherState) : CipherState :=
  let w := s.w.zip (· + ·) s.x
  let z := (s.z.zip (· ^^^ ·) w).rotateBits 16
  let y := s.y.zip (· + ·) z
  let x := (s.x.zip (· ^^^ ·) y).rotateBits 12
  let w := w.zip (· + ·) x
  let z := (z.zip (· ^^^ ·) w).rotateBits 8
  let y := y.zip (· + ·) z
  let x := (x.zip (· ^^^ ·) y).rotateBits 7
  ⟨w, x, y, z⟩

/-- Moves the diagonals into the columns. -/
def toDiagonals (s : CipherState) : CipherState :=
  ⟨s.w, s.x.shift, s.y.shift.shift, s.z.shift.shift.shift⟩

/-- Moves the diagonals back to where they were. -/
def ofDiagonals (s : CipherState) : CipherState :=
  ⟨s.w, s.x.shift.shift.shift, s.y.shift.shift, s.z.shift⟩

/-- A round on the columns and one on the diagonals. -/
def doubleRound (s : CipherState) : CipherState := s.columns.toDiagonals.columns.ofDiagonals

/-- The state after a number of double rounds. -/
def rounds (s : CipherState) : Nat → CipherState
  | 0 => s
  | n + 1 => s.doubleRound.rounds n

/-- Two states added word by word. -/
def add (s t : CipherState) : CipherState :=
  ⟨s.w.zip (· + ·) t.w, s.x.zip (· + ·) t.x, s.y.zip (· + ·) t.y, s.z.zip (· + ·) t.z⟩

/-- The words of a state in order. -/
def toList (s : CipherState) : List UInt32 := s.w.toList ++ s.x.toList ++ s.y.toList ++ s.z.toList

end CipherState

/-! ## Seeds -/

/-- The state of the sequence that stretches a seed, one step on. -/
def nextSeedState (state : UInt64) : UInt64 := state * 6364136223846793005 + 11634580027462260723

/-- The word of the key that a state of the stretching sequence gives. -/
def seedWord (state : UInt64) : UInt32 :=
  let word := (((state >>> 18) ^^^ state) >>> 27).toUInt32
  let turn := (state >>> 59).toUInt32
  (word >>> turn) ||| (word <<< ((32 - turn) % 32))

/-- The states of the stretching sequence from the first one behind a seed on. -/
def seedStates (seed : UInt64) : Nat → List UInt64
  | 0 => []
  | n + 1 => nextSeedState seed :: seedStates (nextSeedState seed) n

/-- The two rows of the key of a seed. -/
def seedKey (seed : UInt64) : Row × Row :=
  match (seedStates seed 8).map seedWord with
  | [a, b, c, d, e, f, g, h] => (⟨a, b, c, d⟩, ⟨e, f, g, h⟩)
  | _ => (⟨0, 0, 0, 0⟩, ⟨0, 0, 0, 0⟩)

/-! ## Streams -/

/-- A source of random numbers: the key, the number of the next block, and the words that are left of
the last one. -/
structure Generator where
  key : Row × Row
  counter : UInt64
  words : List UInt32
deriving DecidableEq, Repr

namespace Generator

/-- The source of a seed. -/
def ofSeed (seed : UInt64) : Generator := ⟨seedKey seed, 0, []⟩

/-- The words of the next block. -/
def block (g : Generator) : List UInt32 :=
  let start : CipherState := {
    w := ⟨0x61707865, 0x3320646e, 0x79622d32, 0x6b206574⟩
    x := g.key.1
    y := g.key.2
    z := ⟨g.counter.toUInt32, (g.counter >>> 32).toUInt32, 0, 0⟩ }
  ((start.rounds 6).add start).toList

/-- A random number of 64 bits. -/
def next (g : Generator) : UInt64 × Generator :=
  match g.words with
  | low :: high :: rest => (join low high, { g with words := rest })
  | _ =>
    match g.block with
    | low :: high :: rest => (join low high, { g with counter := g.counter + 1, words := rest })
    | _ => (0, g)
where
  /-- The number of two words. -/
  join (low high : UInt32) : UInt64 := low.toUInt64 ||| (high.toUInt64 <<< 32)

/-- The greatest lower half of a widened draw that counts: the bound, moved up until its highest bit is
set, less one. -/
def zone (bound : Nat) : Nat := bound * Nat.pow 2 (63 - bound.log2) - 1

/-- A random number below a bound, from at most `draws` draws. A draw counts with a probability of at
least one half. -/
def belowWithin (bound : Nat) (g : Generator) : (draws : Nat) → Nat × Generator
  | 0 => (0, g)
  | draws + 1 =>
    let (value, g) := g.next
    let wide := value.toNat * bound
    if wide % Word.count64 ≤ zone bound then (wide / Word.count64, g) else belowWithin bound g draws

/-- A random number below a bound. -/
def below (g : Generator) (bound : Nat) : Nat × Generator := belowWithin bound g 4096

theorem belowWithin_lt {bound : Nat} (h : 0 < bound) (g : Generator) (draws : Nat) :
    (belowWithin bound g draws).1 < bound := by
  induction draws generalizing g with
  | zero => exact h
  | succ draws ih =>
    simp only [belowWithin]
    split
    · -- The draw has 64 bits, so the upper half of its product with the bound stays below the bound.
      apply Nat.div_lt_of_lt_mul
      exact Nat.mul_lt_mul_of_pos_right g.next.1.toNat_lt h
    · exact ih _

/-- What is drawn is below its bound. -/
theorem below_lt {bound : Nat} (h : 0 < bound) (g : Generator) : (g.below bound).1 < bound :=
  belowWithin_lt h g 4096

end Generator

end Gamebook
