import LoadSeries.Populate.Error
import LoadSeries.Text.Quoted

/-!
What a run that fails logs at the place of the failure, before the failure is shown with all that
led to it. Line ends pass as they are, so one entry may take several lines.
-/
namespace LoadSeries.Command

open Text

namespace Log

def steering : List Char := ['\x07', '\x08', '\x0c', '\x1b', '\x7f']

/-- A character of an entry. One that could steer a terminal is written by its code. -/
def guarded (c : Char) : List Char :=
  if steering.contains c then
    ['\\', 'x', Nat.digitChar (c.toNat / 16), Nat.digitChar (c.toNat % 16)]
  else if 0x80 ≤ c.toNat && c.toNat ≤ 0x9f then
    ['\\', 'u', '\x7b'] ++ hexDigits c.toNat ++ ['\x7d']
  else [c]

def errorEntry (message : String) : String :=
  "ERROR " ++ String.ofList (message.toList.flatMap guarded)

end Log

/-- The entries of the log for an error. Only the steps of a pipeline that has started log one. -/
def pipelineLog : PipelineError → List String
  | .encoding cause => [Log.errorEntry ("Encoding failed: " ++ cause.message)]
  | .sinkWrite _ _ reason => [Log.errorEntry ("Sink write failed: " ++ reason)]
  | _ => []

end LoadSeries.Command
