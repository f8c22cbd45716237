import LoadSeries.Dataset.Error
import LoadSeries.Text.Blank
import LoadSeries.Text.Integer

/-!
The cadence of a user's samples as text: a whole number and a unit, seconds if none is written.
-/
namespace LoadSeries.Interval

open Text

def splitUnit (text : List Char) : List Char × Nat :=
  match text.reverse with
  | 's' :: 'm' :: rest => (rest.reverse, 1)
  | 'h' :: rest => (rest.reverse, 3600000)
  | 'm' :: rest => (rest.reverse, 60000)
  | 's' :: rest => (rest.reverse, 1000)
  | _ => (text, 1000)

def invalid (text : List Char) (reason : String) : ConfigError :=
  .invalidInterval (String.ofList text) reason

def trimmedMillis (text : List Char) : Except ConfigError Int64 :=
  if text.isEmpty then .error (invalid text "empty interval string")
  else
    let (number, unit) := splitUnit text
    match readInt64 (trim number) with
    | .error e => .error (invalid text e.message)
    | .ok value =>
      if value ≤ 0 then .error (invalid text "interval must be positive")
      else if 0x7fffffffffffffff < value * unit then
        .error (invalid text "interval overflows i64 milliseconds")
      else .ok (Int64.ofInt (value * unit))

def millis (s : String) : Except ConfigError Int64 := trimmedMillis (trim s.toList)

end LoadSeries.Interval
