import LoadSeries.Binary64.Basic
import LoadSeries.Text.Digits

/-! Reading a double from decimal text, and writing one with a fixed number of places. -/
namespace LoadSeries.Binary64

open Text

def spanDigits (text : List Char) : List Char × List Char := text.span isDigit

/-- The exponent behind `e`, read as a number; nothing if the text ends before it. -/
def readExponent? : List Char → Option Int
  | [] => some 0
  | mark :: rest =>
    if mark == 'e' || mark == 'E' then
      let (negative, body) : Bool × List Char := match rest with
        | '-' :: r => (true, r)
        | '+' :: r => (false, r)
        | r => (false, r)
      if body.isEmpty || !body.all isDigit then none
      else
        let size : Int := digitsValue body
        some (if negative then -size else size)
    else none

def farExponent : Int := 400

/-- The bits of the double nearest to `coefficient * 10 ^ exponent`. -/
def scientificBits (coefficient : Nat) (exponent : Int) : Nat :=
  let leading : Int := (digits coefficient).length + exponent
  if coefficient = 0 || leading < -farExponent then 0
  else if farExponent < leading then infinityBits
  else ratioBits (coefficient * tenTo exponent.toNat) (tenTo (-exponent).toNat)

/-- A finite number: an optional sign, digits with an optional point among them, and an optional
exponent. -/
def ofText? (text : List Char) : Option Binary64 :=
  let (negative, body) : Bool × List Char := match text with
    | '-' :: r => (true, r)
    | '+' :: r => (false, r)
    | r => (false, r)
  let (whole, afterWhole) := spanDigits body
  let (fraction, rest) : List Char × List Char := match afterWhole with
    | '.' :: r => spanDigits r
    | r => ([], r)
  if whole.isEmpty && fraction.isEmpty then none
  else
    match readExponent? rest with
    | none => none
    | some exponent =>
      let bits := scientificBits (digitsValue (whole ++ fraction)) (exponent - fraction.length)
      if bits = infinityBits then none
      else some ⟨((if negative then twoTo 63 else 0) + bits).toUInt64⟩

/-- A ratio with so many decimal places, rounded to the nearest, a tie to the even last digit. -/
def fixedPlaces (places num den : Nat) : List Char :=
  let scaled := paddedDigits (places + 1) (roundEven (num * tenTo places) den)
  let split := scaled.length - places
  if places = 0 then scaled else scaled.take split ++ '.' :: scaled.drop split

end LoadSeries.Binary64
