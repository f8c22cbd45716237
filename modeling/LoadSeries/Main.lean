import LoadSeries.Command.Run
import LoadSeries.Populate.Rate

/-! The program: it reads the data set's file, takes the steps of a run and writes their bytes. -/
open LoadSeries LoadSeries.Command

namespace LoadSeries.Main

def stepsPerWrite : Nat := 65536

def reason : IO.Error → String
  | .noFileOrDirectory _ code details | .inappropriateType _ code details
  | .permissionDenied _ code details | .invalidArgument _ code details
  | .resourceExhausted _ code details =>
    details ++ " (os error " ++ Text.natString code.toNat ++ ")"
  | e => toString e

def content (path : String) : IO (Except FileFault Text.Bytes) := do
  try
    return .ok (← IO.FS.readBinFile path).toList
  catch e => return .error (.other (reason e))

partial def takeSteps (setup : Setup Generator Storage) (system : System Generator Storage)
    (write : ByteArray → IO Unit) : IO (Except PipelineError Progress) := do
  let next := setup.run stepsPerWrite system
  try
    write ⟨next.sink.bytes.toArray⟩
  catch e => return .error (.sinkWrite next.progress.records next.progress.bytes (reason e))
  match next.result? with
  | some result => return result
  | none => takeSteps setup { next with sink := .empty } write

def stream (populator : Populator) (recipe : Recipe) (write : ByteArray → IO Unit) :
    IO (Option (Except PopulateError PopulateMetrics)) := do
  let config := populator.config
  if !config.hasQueue then return none
  let setup : Setup Generator Storage := ⟨config, Generator.source, populator.writer.sink⟩
  let result ← takeSteps setup (.start config (.ofRecipe recipe) .empty false) write
  return some (result.mapError .pipeline |>.map (.ofProgress · recipe.catalog.size))

def populate (arguments : Arguments) (populator : Populator) :
    IO (Option (Except PopulateError PopulateMetrics)) := do
  match populator.recipe with
  | .error e => return some (.error e)
  | .ok recipe =>
    match arguments.target with
    | .file =>
      try
        let handle ← IO.FS.Handle.mk arguments.output .write
        let result ← stream populator recipe handle.write
        handle.flush
        return result
      catch e => return some (.error (.unwritable (.other (reason e))))
    | .stdout =>
      let out ← IO.getStdout
      let result ← stream populator recipe out.write
      out.flush
      return result

def fail (failure : Failure) : IO UInt32 := do
  failure.cause.log.forM fun entry => IO.eprintln entry
  IO.eprintln failure.text
  return failureExit.toUInt32

def carryOut (arguments : Arguments) : IO UInt32 := do
  match arguments.populator (← content arguments.dataset) with
  | .error failure => fail failure
  | .ok populator =>
    if arguments.dryRun then
      (arguments.plan populator).forM fun line => IO.eprintln ("[DRY-RUN] " ++ line)
      return 0
    else
      let start ← IO.monoNanosNow
      match ← populate arguments populator with
      | none =>
        IO.eprintln "there can be no queue of this capacity"
        return breakExit.toUInt32
      | some (.error e) => fail (arguments.failure e)
      | some (.ok metrics) =>
        let nanos := (← IO.monoNanosNow) - start
        IO.eprintln (Summary.line metrics.records metrics.values
          ⟨nanos / 1000000000, nanos % 1000000000⟩)
        return 0

end LoadSeries.Main

def main (words : List String) : IO UInt32 := do
  match Arguments.ofWords words with
  | .ok arguments => LoadSeries.Main.carryOut arguments
  | .error .help =>
    usageLines.forM IO.println
    return 0
  | .error e =>
    IO.eprintln e.message
    usageLines.forM IO.eprintln
    return e.exit.toUInt32
