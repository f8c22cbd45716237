/-! Decimal digits: writing a natural number, reading one back, and zero padding. -/
namespace LoadSeries.Text

def digitChar (d : Nat) : Char := Char.ofNat (48 + d)

def isDigit (c : Char) : Bool := 48 ≤ c.toNat && c.toNat ≤ 57

def digitValue (c : Char) : Nat := c.toNat - 48

/-- The digits of `n`, most significant first, without superfluous zeros. -/
def digits (n : Nat) : List Char :=
  if n < 10 then [digitChar n] else digits (n / 10) ++ [digitChar (n % 10)]
termination_by n
decreasing_by omega

def digitsValue (text : List Char) : Nat :=
  text.foldl (fun n c => 10 * n + digitValue c) 0

/-- The digits of `n`, with zeros in front up to `width`. -/
def paddedDigits (width n : Nat) : List Char :=
  let body := digits n
  List.replicate (width - body.length) '0' ++ body

def intText (n : Int) : List Char :=
  if n < 0 then '-' :: digits n.natAbs else digits n.natAbs

def natString (n : Nat) : String := String.ofList (digits n)

def intString (n : Int) : String := String.ofList (intText n)

end LoadSeries.Text
