/-!
Double-precision numbers by their bits, and rounding of exact ratios to them. All arithmetic is on
natural numbers; a result is the nearest double of the exact value, a tie going to the even one.
-/
namespace LoadSeries

def twoTo (n : Nat) : Nat := Nat.pow 2 n

def tenTo (n : Nat) : Nat := Nat.pow 10 n

structure Binary64 where
  bits : UInt64
deriving DecidableEq, Repr, Inhabited

namespace Binary64

/-- What a pattern of bits denotes: `± coefficient * 2 ^ exponent`, an infinity, or no number. -/
inductive Meaning where
  | finite (negative : Bool) (coefficient : Nat) (exponent : Int)
  | infinite (negative : Bool)
  | nan
deriving DecidableEq, Repr

def meaning (x : Binary64) : Meaning :=
  let n := x.bits.toNat
  let negative := twoTo 63 ≤ n
  let biased : Nat := n / twoTo 52 % twoTo 11
  let fraction : Nat := n % twoTo 52
  if biased = 2047 then
    if fraction = 0 then .infinite negative else .nan
  else if biased = 0 then .finite negative fraction (-1074)
  else .finite negative (twoTo 52 + fraction) ((biased : Int) - 1075)

/-- The quotient rounded to the nearest natural number, a tie to the even one. -/
def roundEven (num den : Nat) : Nat :=
  let floor := num / den
  let twice := 2 * (num % den)
  if twice < den || (twice == den && floor % 2 == 0) then floor else floor + 1

/-- The greatest `k` with `2 ^ k * den ≤ num`, for a positive ratio. -/
def binaryExponent (num den : Nat) : Int :=
  let k : Int := (num.log2 : Int) - den.log2
  if num * twoTo (-k).toNat < den * twoTo k.toNat then k - 1 else k

def infinityBits : Nat := 2047 * twoTo 52

/-- The bits of the double nearest to a ratio, without a sign. -/
def ratioBits (num den : Nat) : Nat :=
  if num = 0 then 0
  else
    let unit := max (binaryExponent num den - 52) (-1074)
    let steps := roundEven (num * twoTo (-unit).toNat) (den * twoTo unit.toNat)
    min ((unit + 1074).toNat * twoTo 52 + steps) infinityBits

def ofRatio (num den : Nat) : Binary64 := ⟨(ratioBits num den).toUInt64⟩

def ofNat (n : Nat) : Binary64 := ofRatio n 1

/-- The double nearest to `num / den`, with the sign given. A zero has no sign. -/
def ofSignedRatio (num : Int) (den : Nat) : Binary64 :=
  let bits := ratioBits num.natAbs den
  if num < 0 then ⟨(twoTo 63 + bits).toUInt64⟩ else ⟨bits.toUInt64⟩

def ratio? (x : Binary64) : Option (Nat × Nat) :=
  match x.meaning with
  | .finite _ coefficient exponent =>
    some (coefficient * twoTo exponent.toNat, twoTo (-exponent).toNat)
  | _ => none

def littleEndian (x : Binary64) : List UInt8 :=
  (List.range 8).map fun i => (x.bits.toNat / twoTo (8 * i)).toUInt8

end Binary64

end LoadSeries
