import LoadSeries.Files.Fault
import LoadSeries.Yaml.Problem

/-! Causes for which a data set description, or a setting of a run, is refused. -/
namespace LoadSeries

open Text

inductive ConfigError where
  | unreadable (fault : FileFault)
  | malformed (problem : Yaml.Problem)
  | unsupportedVersion (version : Nat)
  | invalidUserRange (first last : Int)
  | noSamples
  | emptyFieldCatalog
  | duplicateField (name : String)
  | emptyDimensionTable (name : String)
  | invalidMpidWidth (width : Nat)
  | invalidInterval (value reason : String)
  | invalidStartTime (value : String)
  | timestampOverflow (sample : Nat)
  | nonPositive (name : String)
deriving DecidableEq, Repr

def ConfigError.message : ConfigError → String
  | .unreadable fault => "Failed to read dataset file: " ++ fault.text
  | .malformed problem => "Failed to parse YAML: " ++ problem.text
  | .unsupportedVersion version =>
    "Unsupported dataset version: " ++ natString version ++ " (expected 1)"
  | .invalidUserRange first last =>
    "Invalid user id range: start=" ++ intString first ++ ", end=" ++ intString last
  | .noSamples => "samples_per_user must be greater than zero"
  | .emptyFieldCatalog => "Field catalog is empty"
  | .duplicateField name => "Duplicate field name in catalog: " ++ name
  | .emptyDimensionTable name => "Dimension table '" ++ name ++ "' is empty"
  | .invalidMpidWidth width =>
    "mpid_width " ++ natString width ++ " is out of range (expected 1..=9)"
  | .invalidInterval value reason => "Invalid interval '" ++ value ++ "': " ++ reason
  | .invalidStartTime value => "Invalid start_time '" ++ value ++ "'"
  | .timestampOverflow sample => "Timestamp overflow at sample index " ++ natString sample
  | .nonPositive name => name ++ " must be greater than zero"

/-- The same error without the place in the text that it tells of, if it does. -/
def ConfigError.unplaced : ConfigError → ConfigError
  | .malformed problem => .malformed problem.unplaced
  | error => error

/-- The error that caused this one, if it was wrapped. -/
def ConfigError.cause? : ConfigError → Option String
  | .unreadable fault => some fault.text
  | .malformed problem => some problem.text
  | _ => none

end LoadSeries
