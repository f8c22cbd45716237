import LoadSeries.Text.Digits

/-! Reading a signed decimal integer that must fit a range. -/
namespace LoadSeries.Text

inductive IntegerError where
  | empty
  | invalidDigit
  | tooLarge
  | tooSmall
deriving DecidableEq, Repr

def IntegerError.message : IntegerError → String
  | .empty => "cannot parse integer from empty string"
  | .invalidDigit => "invalid digit found in string"
  | .tooLarge => "number too large to fit in target type"
  | .tooSmall => "number too small to fit in target type"

/-- Reads digits onto `value`, refusing at the first character that is no digit or that takes the
number past `limit`, whichever comes first. -/
def readMagnitude (limit : Nat) (overflow : IntegerError) :
    List Char → Nat → Except IntegerError Nat
  | [], value => .ok value
  | c :: rest, value =>
    if isDigit c then
      let next := 10 * value + digitValue c
      if limit < next then .error overflow else readMagnitude limit overflow rest next
    else .error .invalidDigit

/-- An integer from `-below` to `above`: an optional sign and one or more digits. -/
def readInteger (below above : Nat) : List Char → Except IntegerError Int
  | [] => .error .empty
  | [c] => if isDigit c then (readMagnitude above .tooLarge [c] 0).map Int.ofNat
    else .error .invalidDigit
  | '+' :: rest => (readMagnitude above .tooLarge rest 0).map Int.ofNat
  | '-' :: rest => (readMagnitude below .tooSmall rest 0).map fun n => -(Int.ofNat n)
  | text => (readMagnitude above .tooLarge text 0).map Int.ofNat

def readInt64 (text : List Char) : Except IntegerError Int :=
  readInteger 0x8000000000000000 0x7fffffffffffffff text

end LoadSeries.Text
