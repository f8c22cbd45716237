import LoadSeries.Binary64.Arithmetic
import LoadSeries.Binary64.Reading
import LoadSeries.Binary64.Shortest

/-! Rates over the time that a run took, and the line that sums it up. -/
namespace LoadSeries

open Text

structure Duration where
  seconds : Nat
  nanos : Nat
deriving DecidableEq, Repr

namespace Duration

def toBinary64 (x : Duration) : Binary64 :=
  (Binary64.ofNat x.seconds).sum (Binary64.ofRatio x.nanos (tenTo 9))

def perSecond (x : Duration) (count : Nat) : Binary64 :=
  match x.toBinary64.ratio? with
  | some (0, _) => ⟨0⟩
  | _ => (Binary64.ofNat count).quotient x.toBinary64

end Duration

namespace Summary

def places : Nat := 6

def number (x : Binary64) : String :=
  match x.ratio? with
  | some (num, den) => String.ofList (Binary64.fixedPlaces places num den)
  | none => String.ofList x.text

def workers : Nat := 1

def line (records values : Nat) (time : Duration) : String :=
  "loaded " ++ natString records ++ " items and " ++ natString values ++ " values in " ++
    number time.toBinary64 ++ "sec with " ++ natString workers ++ " workers (mean point rate " ++
    number (time.perSecond records) ++ " items/sec, mean value rate " ++
    number (time.perSecond values) ++ "/s)"

end Summary

end LoadSeries
