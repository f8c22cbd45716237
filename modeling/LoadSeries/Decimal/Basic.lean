import LoadSeries.Binary64.Shortest

/-!
Decimal numbers with a coefficient of at most 96 bits and at most 28 places, with rounding to a
number of places away from zero at a half.
-/
namespace LoadSeries

open Text

structure Decimal where
  coefficient : Int
  scale : Nat
deriving DecidableEq, Repr

namespace Decimal

def maxCoefficient : Nat := twoTo 96 - 1

def maxScale : Nat := 28

/-- The quotient rounded to the nearest, a half upwards. -/
def roundHalfUp (num den : Nat) : Nat := (2 * num + den) / (2 * den)

def signed (negative : Bool) (n : Nat) : Int := if negative then -(n : Int) else n

/-- The decimal of a number in scientific form, rounded at the last place there is. A number whose
coefficient is too great for the format has none. -/
def ofScientific? (negative : Bool) (x : Scientific) : Option Decimal :=
  let coefficient := x.coefficient * tenTo x.exponent.toNat
  let places := (-x.exponent).toNat
  if maxCoefficient < coefficient then none
  else if places ≤ maxScale then some ⟨signed negative coefficient, places⟩
  else some ⟨signed negative (roundHalfUp coefficient (tenTo (places - maxScale))), maxScale⟩

/-- Rounds to at most so many places, a half away from zero. -/
def round (places : Nat) (x : Decimal) : Decimal :=
  if x.scale ≤ places then x
  else
    let rounded := roundHalfUp x.coefficient.natAbs (tenTo (x.scale - places))
    ⟨signed (x.coefficient < 0) rounded, places⟩

def widen (x : Decimal) : Nat → Decimal
  | 0 => x
  | places + 1 =>
    if x.coefficient.natAbs * 10 ≤ maxCoefficient then
      widen ⟨x.coefficient * 10, x.scale + 1⟩ places
    else x

/-- The number with exactly so many places, or with fewer if the format does not hold them. -/
def toPlaces (places : Nat) (x : Decimal) : Decimal :=
  let rounded := x.round places
  rounded.widen (places - rounded.scale)

def text (x : Decimal) : List Char :=
  let body := paddedDigits (x.scale + 1) x.coefficient.natAbs
  let split := body.length - x.scale
  let pointed := if x.scale = 0 then body else body.take split ++ '.' :: body.drop split
  if x.coefficient < 0 then '-' :: pointed else pointed

def toBinary64 (x : Decimal) : Binary64 := Binary64.ofSignedRatio x.coefficient (tenTo x.scale)

end Decimal

end LoadSeries
