import LoadSeries.Dataset.Error
import LoadSeries.Pipeline.Lifecycle
import LoadSeries.Record.Error

/-! Causes that end a run. -/
namespace LoadSeries

open Text

/-- A count is a number wherever one is asked for. -/
instance wordToNat : Coe UInt64 Nat := ⟨UInt64.toNat⟩

inductive PipelineError where
  | config (cause : ConfigError)
  | encoding (cause : EncodingError)
  /-- The sink refused a write, or the flush, after so many records and bytes. -/
  | sinkWrite (records bytes : UInt64) (reason : String)
  | interrupted
  | producerCrashed
  | alreadyStarted (state : Lifecycle)
deriving DecidableEq, Repr

namespace PipelineError

/-- The text of the error. That of a crash ends with the text of the crash itself. -/
def message : PipelineError → String
  | config cause => "Configuration error: " ++ cause.message
  | encoding cause => "Encoding error: " ++ cause.message
  | sinkWrite records bytes reason =>
    "Sink write failed after " ++ natString records ++ " records (" ++ natString bytes ++
      " bytes): " ++ reason
  | interrupted => "Pipeline interrupted while waiting on the queue"
  | producerCrashed => "Producer task failed: "
  | alreadyStarted state => "Pipeline already started (state: " ++ state.name ++ ")"

def causes : PipelineError → List String
  | config cause => cause.message :: cause.cause?.toList
  | encoding cause => [cause.message]
  | sinkWrite _ _ reason => [reason]
  | _ => []

end PipelineError

end LoadSeries
