import LoadSeries.Random.Block
import LoadSeries.Record.MetricValue

/-!
The random stream of a seed: words taken from numbered blocks, so that every draw can be had by its
place. A draw is a word of 64 bits, and a value is its upper 53 bits as a part of the value range.
-/
namespace LoadSeries.Random

def spread (state : UInt64) : UInt64 := state * 6364136223846793005 + 11634580027462260723

def spreadWord (state : UInt64) : Word :=
  let folded := (((state >>> 18) ^^^ state) >>> 27).toUInt32
  let turns := (state >>> 59).toUInt32
  (folded >>> turns) ||| (folded <<< ((32 - turns) % 32))

def Key.ofSeed (seed : UInt64) : Key :=
  let s0 := spread seed
  let s1 := spread s0
  let s2 := spread s1
  let s3 := spread s2
  let s4 := spread s3
  let s5 := spread s4
  let s6 := spread s5
  let s7 := spread s6
  ⟨spreadWord s0, spreadWord s1, spreadWord s2, spreadWord s3, spreadWord s4, spreadWord s5,
    spreadWord s6, spreadWord s7⟩

def Block.draw (x : Block) (place : Nat) : UInt64 :=
  let low := x.words.getD (2 * place) 0
  let high := x.words.getD (2 * place + 1) 0
  low.toUInt64 ||| (high.toUInt64 <<< 32)

def drawsPerBlock : Nat := 8

/-- A draw of the stream of a key, by its place from 0. -/
def draw (key : Key) (place : Nat) : UInt64 :=
  (Block.ofNumber key (place / drawsPerBlock).toUInt64).draw (place % drawsPerBlock)

/-- Values lie below this number. -/
def valueRange : Nat := 1000000

/-- The part of the value range that a draw stands for, as a double. The part has a denominator of
`2 ^ 53`, so only the product is rounded. -/
def scaled (draw : UInt64) : Binary64 :=
  Binary64.ofRatio (draw.toNat / twoTo 11 * valueRange) (twoTo 53)

def value (draw : UInt64) : Except EncodingError MetricValue := MetricValue.ofBinary64 (scaled draw)

/-- The values of so many draws from a place on, up to the first that has no decimal. -/
def values (key : Key) (place : Nat) : Nat → Except EncodingError (List MetricValue)
  | 0 => .ok []
  | count + 1 => do
    let first ← value (draw key place)
    let rest ← values key (place + 1) count
    return first :: rest

/-- How many draws are made for so many values: none behind the first that has no decimal. -/
def spent (key : Key) (place : Nat) : Nat → Nat
  | 0 => 0
  | count + 1 =>
    match value (draw key place) with
    | .error _ => 1
    | .ok _ => spent key (place + 1) count + 1

end LoadSeries.Random
