/-!
Blocks of sixteen words that a key of eight words and a block number determine: twelve rounds of
additions, exclusive ors and rotations, and the start added at the end.
-/
namespace LoadSeries.Random

abbrev Word := UInt32

structure Block where
  (a0 a1 a2 a3 : Word)
  (b0 b1 b2 b3 : Word)
  (c0 c1 c2 c3 : Word)
  (d0 d1 d2 d3 : Word)
deriving DecidableEq, Repr, Inhabited

structure Key where
  (k0 k1 k2 k3 k4 k5 k6 k7 : Word)
deriving DecidableEq, Repr, Inhabited

def turn (w n : Word) : Word := (w <<< n) ||| (w >>> (32 - n))

@[inline] def mix (a b c d : Word) : Word × Word × Word × Word :=
  let a := a + b
  let d := turn (d ^^^ a) 16
  let c := c + d
  let b := turn (b ^^^ c) 12
  let a := a + b
  let d := turn (d ^^^ a) 8
  let c := c + d
  let b := turn (b ^^^ c) 7
  (a, b, c, d)

namespace Block

def doubleRound (x : Block) : Block :=
  let (a0, b0, c0, d0) := mix x.a0 x.b0 x.c0 x.d0
  let (a1, b1, c1, d1) := mix x.a1 x.b1 x.c1 x.d1
  let (a2, b2, c2, d2) := mix x.a2 x.b2 x.c2 x.d2
  let (a3, b3, c3, d3) := mix x.a3 x.b3 x.c3 x.d3
  let (a0, b1, c2, d3) := mix a0 b1 c2 d3
  let (a1, b2, c3, d0) := mix a1 b2 c3 d0
  let (a2, b3, c0, d1) := mix a2 b3 c0 d1
  let (a3, b0, c1, d2) := mix a3 b0 c1 d2
  ⟨a0, a1, a2, a3, b0, b1, b2, b3, c0, c1, c2, c3, d0, d1, d2, d3⟩

def add (x y : Block) : Block :=
  ⟨x.a0 + y.a0, x.a1 + y.a1, x.a2 + y.a2, x.a3 + y.a3, x.b0 + y.b0, x.b1 + y.b1, x.b2 + y.b2,
    x.b3 + y.b3, x.c0 + y.c0, x.c1 + y.c1, x.c2 + y.c2, x.c3 + y.c3, x.d0 + y.d0, x.d1 + y.d1,
    x.d2 + y.d2, x.d3 + y.d3⟩

def words (x : Block) : List Word :=
  [x.a0, x.a1, x.a2, x.a3, x.b0, x.b1, x.b2, x.b3, x.c0, x.c1, x.c2, x.c3, x.d0, x.d1, x.d2, x.d3]

/-- The start of a block: four fixed words, the key, the block number and an empty stream name. -/
def start (key : Key) (number : UInt64) : Block :=
  ⟨0x61707865, 0x3320646e, 0x79622d32, 0x6b206574, key.k0, key.k1, key.k2, key.k3, key.k4, key.k5,
    key.k6, key.k7, number.toUInt32, (number >>> 32).toUInt32, 0, 0⟩

def rounds (x : Block) : Block :=
  x.doubleRound.doubleRound.doubleRound.doubleRound.doubleRound.doubleRound

def ofNumber (key : Key) (number : UInt64) : Block :=
  let first := start key number
  first.rounds.add first

end Block

end LoadSeries.Random
