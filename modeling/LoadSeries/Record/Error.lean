import LoadSeries.Binary64.Shortest
import LoadSeries.Text.Quoted

/-! Causes for which a record cannot be written. -/
namespace LoadSeries

open Text

inductive EncodingError where
  | emptyFieldCatalog
  | reservedCharacter (tag value : String) (character : Char)
  | invalidSeparator (separator : Char)
  | fieldCountMismatch (names values : Nat)
  | nonFiniteValue (value : Binary64)
deriving DecidableEq, Repr

def EncodingError.message : EncodingError → String
  | .emptyFieldCatalog => "Field catalog is empty"
  | .reservedCharacter tag value character =>
    "Tag '" ++ tag ++ "' value '" ++ value ++ "' contains reserved character '" ++
      character.toString ++ "'"
  | .invalidSeparator separator =>
    "Separator " ++ quotedChar separator ++ " cannot delimit text columns"
  | .fieldCountMismatch names values =>
    "Field count mismatch: " ++ natString names ++ " names declared, " ++ natString values ++
      " values drawn"
  | .nonFiniteValue value =>
    "Metric value " ++ String.ofList value.text ++ " cannot be formatted as a decimal"

end LoadSeries
