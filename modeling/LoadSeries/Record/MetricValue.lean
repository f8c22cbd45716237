import LoadSeries.Decimal.Basic
import LoadSeries.Record.Error

/-! The value of a metric: a decimal of two places, and the double nearest to it. -/
namespace LoadSeries

structure MetricValue where
  decimal : Decimal
  double : Binary64
deriving DecidableEq, Repr

namespace MetricValue

def places : Nat := 2

def ofDecimal (x : Decimal) : MetricValue :=
  let decimal := x.toPlaces places
  ⟨decimal, decimal.toBinary64⟩

/-- Rounds the shortest decimal of a double, a half away from zero. -/
def ofBinary64 (raw : Binary64) : Except EncodingError MetricValue :=
  match raw.meaning with
  | .finite negative coefficient exponent =>
    match Decimal.ofScientific? negative (Binary64.shortest coefficient exponent) with
    | some exact => .ok (ofDecimal exact)
    | none => .error (.nonFiniteValue raw)
  | _ => .error (.nonFiniteValue raw)

def text (x : MetricValue) : List Char := x.decimal.text

end MetricValue

end LoadSeries
