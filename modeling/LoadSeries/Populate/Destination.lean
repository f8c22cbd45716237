import LoadSeries.Files.Directory
import LoadSeries.Populate.Basic
import LoadSeries.Sink.FullDevice

/-!
A whole data set to a file, a device or standard output. A file is emptied only after all settings
have been settled, and then holds what the sink has accepted, also if the run fails. There is no
result if the run breaks off.
-/
namespace LoadSeries

open Text

namespace Populator

variable {paths : Paths}

def populateOutput (x : Populator) (cancelled : Bool) :
    Option (Except PopulateError PopulateMetrics) × Bytes :=
  match x.populateInto cancelled x.writer.sink .empty with
  | some (result, storage) => (some result, storage.bytes)
  | none => (none, [])

def populateFile (x : Populator) (cancelled : Bool) (directory : Directory paths)
    (key : String) : Option (Except PopulateError PopulateMetrics) × Directory paths :=
  match x.recipe with
  | .error error => (some (.error error), directory)
  | .ok recipe =>
    match x.stream recipe cancelled x.writer.sink .empty with
    | some (result, storage) => (some result, directory.put key storage.bytes)
    | none => (none, directory.put key [])

def populateFullDevice (x : Populator) (cancelled : Bool) :
    Option (Except PopulateError PopulateMetrics) :=
  (x.populateInto cancelled (FullDevice.sink x.writer.ending) .fresh).map (·.1)

def refusal? (x : Populator) : Option PopulateError :=
  match x.recipe with
  | .error error => some error
  | .ok _ => none

def populatePath (x : Populator) (cancelled : Bool) (directory : Directory paths)
    (path : String) : Option (Except PopulateError PopulateMetrics) × Bytes × Directory paths :=
  match directory.place true path with
  | .ok (.file key) =>
    let (result, directory) := x.populateFile cancelled directory key
    (result, [], directory)
  | .ok (.device .output) =>
    let (result, bytes) := x.populateOutput cancelled
    (result, bytes, directory)
  | .ok (.device .full) => (x.populateFullDevice cancelled, [], directory)
  | .ok _ => ((x.populateOutput cancelled).1, [], directory)
  | .error fault => (some (.error (x.refusal?.getD (.unwritable fault))), [], directory)

end Populator

end LoadSeries
