import LoadSeries.Binary64.Basic
import LoadSeries.Text.Digits

/-!
The decimal of fewest digits that reads back as a given double; of two such decimals the nearer,
and of two equally near the greater.
-/
namespace LoadSeries

open Text

structure Scientific where
  coefficient : Nat
  exponent : Int
deriving DecidableEq, Repr

namespace Binary64

/-- The greatest `k` with `10 ^ k * den ≤ num`, for a positive ratio. -/
def decimalExponent (num den : Nat) : Int :=
  let k : Int := ((digits num).length : Int) - (digits den).length
  if num * tenTo (-k).toNat < den * tenTo k.toNat then k - 1 else k

/-- Quarters of the last place that separate a double from the ends of the interval of numbers that
round to it: half a place on either side, and a quarter below a power of two. -/
def gapBelow (coefficient : Nat) (exponent : Int) : Nat :=
  if coefficient = twoTo 52 ∧ -1074 < exponent then 1 else 2

/-- Whether a point lies between two ends, which count only if `closed`. -/
def within (closed : Bool) (lower point upper : Nat) : Bool :=
  if closed then lower ≤ point && point ≤ upper else lower < point && point < upper

/-- The number with one digit where ten units of a place make one of the next. -/
def carry (x : Scientific) : Scientific :=
  if x.coefficient = 10 then ⟨1, x.exponent + 1⟩ else x

/-- The candidate with the places given, if one of the two neighbours of the number on that decimal
grid rounds to it. -/
def candidate? (coefficient : Nat) (exponent place : Int) : Option Scientific :=
  let quarter := exponent - 2
  let binary := twoTo quarter.toNat * tenTo (-place).toNat
  let decimal := twoTo (-quarter).toNat * tenTo place.toNat
  let value := 4 * coefficient * binary
  let lower := (4 * coefficient - gapBelow coefficient exponent) * binary
  let upper := (4 * coefficient + 2) * binary
  let closed := coefficient % 2 == 0
  let below := value / decimal
  let fits := fun n => within closed lower (n * decimal) upper
  let belowFits := fits below
  let aboveFits := fits (below + 1)
  if belowFits && aboveFits then
    let nearer := if 2 * (value % decimal) < decimal then below else below + 1
    some ⟨nearer, place⟩
  else if belowFits then some ⟨below, place⟩
  else if aboveFits then some ⟨below + 1, place⟩
  else none

def search (coefficient : Nat) (exponent leading : Int) : Nat → Nat → Scientific
  | 0, count => ⟨coefficient, (count : Int)⟩
  | fuel + 1, count =>
    match candidate? coefficient exponent (leading - count) with
    | some found => carry found
    | none => search coefficient exponent leading fuel (count + 1)

/-- The shortest decimal of the number `coefficient * 2 ^ exponent`. Seventeen digits always do. -/
def shortest (coefficient : Nat) (exponent : Int) : Scientific :=
  if coefficient = 0 then ⟨0, 0⟩
  else
    let leading := decimalExponent (coefficient * twoTo exponent.toNat) (twoTo (-exponent).toNat)
    search coefficient exponent leading 17 0

end Binary64

def Scientific.positional (x : Scientific) : List Char :=
  let body := digits x.coefficient
  if 0 ≤ x.exponent then
    if x.coefficient = 0 then body else body ++ List.replicate x.exponent.toNat '0'
  else
    let places := (-x.exponent).toNat
    let full := List.replicate (places + 1 - body.length) '0' ++ body
    full.take (full.length - places) ++ '.' :: full.drop (full.length - places)

def Binary64.text (x : Binary64) : List Char :=
  match x.meaning with
  | .nan => "NaN".toList
  | .infinite negative => if negative then "-inf".toList else "inf".toList
  | .finite negative coefficient exponent =>
    let body := (Binary64.shortest coefficient exponent).positional
    if negative then '-' :: body else body

/-- The text of a double that shows it to be no integer type: with a point if it is finite. -/
def Binary64.pointedText (x : Binary64) : List Char :=
  let body := x.text
  match x.meaning with
  | .finite .. => if body.contains '.' then body else body ++ ".0".toList
  | _ => body

end LoadSeries
