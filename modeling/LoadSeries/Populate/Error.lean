import LoadSeries.Pipeline.Error

/-! Causes for which a data set is not written, or not in full. -/
namespace LoadSeries

inductive PopulateError where
  | unwritable (fault : FileFault)
  | config (cause : ConfigError)
  | encoding (cause : EncodingError)
  | pipeline (cause : PipelineError)
deriving DecidableEq, Repr

namespace PopulateError

def message : PopulateError → String
  | unwritable fault => "IO error: " ++ fault.text
  | config cause => "Dataset error: " ++ cause.message
  | encoding cause => "Encoding error: " ++ cause.message
  | pipeline cause => "Pipeline error: " ++ cause.message

def causes : PopulateError → List String
  | unwritable fault => [fault.text]
  | config cause => cause.message :: cause.cause?.toList
  | encoding cause => [cause.message]
  | pipeline cause => cause.message :: cause.causes

end PopulateError

end LoadSeries
